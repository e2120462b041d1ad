import Marginalia.Main
import Marginalia.Proofs.Source.Conservation
import Marginalia.Proofs.Source.Dissection
import Marginalia.Proofs.Text.Blank
import Marginalia.Proofs.Text.Words
import Marginalia.Proofs.Comment.Tag
import Marginalia.Proofs.Comment.Words
import Marginalia.Proofs.Text.Lines
import Marginalia.Proofs.Comment.Layout
import Marginalia.Proofs.Comment.RoundTrip
import Marginalia.Proofs.Path
import Marginalia.Proofs.Source.Name
import Marginalia.Proofs.Document.Breaks
import Marginalia.Proofs.Document.Locality
import Marginalia.Proofs.Attempts
import Marginalia.Proofs.Source.Pool
import Marginalia.Proofs.Settings.Options
import Marginalia.Proofs.Settings.Settling
import Marginalia.Proofs.Settings.Override
import Marginalia.Proofs.FileTree.Kind
import Marginalia.Proofs.Source.Collection
import Marginalia.Proofs.Generation
import Marginalia.Proofs.Text.LineEnds
import Marginalia.Proofs.Source.LineEnds
import Marginalia.Proofs.Source.Append
import Marginalia.Proofs.FileTree.Listing
import Marginalia.Proofs.FileTree.Storing
import Marginalia.Proofs.Source.Discovery
import Marginalia.Proofs.Rerun
import Marginalia.Proofs.Settings.Precedence
import Marginalia.Proofs.Source.Grammar
import Marginalia.Proofs.Comment.Marks
import Marginalia.Proofs.Comment.WellFormed
import Marginalia.Proofs.Text.Replace
import Marginalia.Proofs.Comment.Fields
import Marginalia.Proofs.Comment.Split
import Marginalia.Proofs.Markdown.Table
import Marginalia.Proofs.Source.Signature
import Marginalia.Proofs.Document.Navigation
import Marginalia.Proofs.Document.Targets
import Marginalia.Proofs.Text.Utf8
import Marginalia.Proofs.Document.Independence
import Marginalia.Proofs.Document.NormalForm
import Marginalia.Proofs.Settings.Loading
import Marginalia.Proofs.Document.Verbatim
import Marginalia.Proofs.Source.Identity
