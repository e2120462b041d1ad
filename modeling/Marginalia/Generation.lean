import Marginalia.Source
import Marginalia.Template

/-
  This file makes the document of a run: it collects the
  sources, reads the modules in them, writes the document in
  memory, and stores it only when all of that has succeeded.

  Key definitions include:
    * `Generation.rendered`
    * `Generation.modules`
    * `Generation.compose`
    * `Generation.composeEvents`
    * `Report`
    * `Run`
    * `Generation.run`
-/

namespace Marginalia

namespace Generation

------------------------------------------------------------
-- The Text of the Document
------------------------------------------------------------

/- What a template of its own is rendered with. -/
def context
    (settings : Settings)
    (modules : List ModuleDoc) : Engine.Context :=
  { modules := ModuleOrder.apply modules settings.moduleList
    headerText := settings.headerText
    footerText := settings.footerText
    headerTable := settings.headerTable }

/-
  The text of the document. There is none if the document has
  a half of a surrogate pair in it: nothing takes such a half
  away, and a document with one has no encoding.
-/
def rendered
    (engine : Engine)
    (tree : FileTree)
    (settings : Settings)
    (modules : List ModuleDoc) : Except Fault (Option Text) :=
  match settings.templateDirectory with
  | none =>
      .ok
        (settings.layout?.map fun layout =>
          Document.render layout modules)
  | some directory =>
      match engine tree directory (context settings modules) with
      | .ok document => .ok (document.plain?.map Document.tidy)
      | .error fault => .error (.template fault)

/- The bytes that a file gets for a document: none without a text. -/
def fileBytes
    (text : Option Text) : List UInt8 :=
  (text.map Utf8.encode).getD []

/- The modules in the sources that settings name. -/
def modules
    (tree : FileTree)
    (settings : Settings) : Except Fault (List ModuleDoc) := do
  let sources ← Source.collect tree settings
  Source.parseAll tree sources

/- The modules of a run and the text of their document. -/
def compose
    (engine : Engine)
    (tree : FileTree)
    (settings : Settings) :
    Except Fault (List ModuleDoc × Option Text) := do
  settings.check.mapError Fault.settings
  let modules ← modules tree settings
  let text ← rendered engine tree settings modules
  pure (modules, text)

------------------------------------------------------------
-- Events
------------------------------------------------------------

/-
  The events of reading sources one after the other, up to the
  first one that cannot be read.
-/
def parseEvents
    (tree : FileTree) : List Source → List Event
  | [] => []
  | source :: rest =>
      match Source.parse tree source with
      | .error _ => []
      | .ok _ => Source.parseEvents tree source ++ parseEvents tree rest

/- The events of collecting and reading sources. -/
def modulesEvents
    (tree : FileTree)
    (settings : Settings) : List Event :=
  Source.collectEvents tree settings ++
    match Source.collect tree settings with
    | .error _ => []
    | .ok sources =>
        .parsingSources sources.length :: parseEvents tree sources

/- The events of composing the document of a run. -/
def composeEvents
    (tree : FileTree)
    (settings : Settings) : List Event :=
  match settings.check with
  | .error _ => []
  | .ok () =>
      modulesEvents tree settings ++
        match modules tree settings with
        | .error _ => []
        | .ok modules =>
            ModuleOrder.events modules settings.moduleList

end Generation

------------------------------------------------------------
-- Runs
------------------------------------------------------------

/- What a run that was not stopped has made. -/
structure Report where
  outputPath : Option Path := none
  modules : List ModuleDoc := []
  size : Nat := 0
  skipped : Bool := false

namespace Report

/- The number of documented functions. -/
def functionCount
    (report : Report) : Nat :=
  (report.modules.flatMap (·.functions)).length

/- The number of documented variables. -/
def variableCount
    (report : Report) : Nat :=
  (report.modules.flatMap (·.vars)).length

/- The number of documented tables. -/
def tableCount
    (report : Report) : Nat :=
  (report.modules.flatMap (·.tables)).length

end Report

/- The outcome of a run, its events, and the file tree after it. -/
structure Run where
  outcome : Except Fault Report
  events : List Event
  tree : FileTree

namespace Generation

/-
  Make the document that settings ask for. The file is opened,
  and thereby emptied, before the document is encoded: one
  without an encoding leaves the file empty.
-/
def run
    (engine : Engine)
    (tree : FileTree)
    (settings : Settings) : Run :=
  if settings.skip then
    { outcome := .ok { skipped := true }
      events := [.generationSkipped]
      tree }
  else
    let events := composeEvents tree settings
    match compose engine tree settings with
    | .error fault => { outcome := .error fault, events, tree }
    | .ok (modules, text) =>
        let path := settings.outputPath
        let content := fileBytes text
        match tree.store path content with
        | (.error fault, made) =>
            { outcome := .error (.access path fault)
              events
              tree := made }
        | (.ok (), written) =>
            if text.isNone then
              { outcome := .error .unencodable
                events
                tree := written }
            else
              { outcome :=
                  .ok
                    { outputPath := some path
                      modules
                      size := content.length }
                events :=
                  events ++
                    [.documentWritten path.toText modules.length
                      content.length]
                tree := written }

end Generation

end Marginalia
