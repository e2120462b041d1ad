import Marginalia.Yaml.Node
import Marginalia.Yaml.Scanner
import Marginalia.Yaml.Spelling

/-
  This file reads YAML texts: a text is cut into tokens, the
  tokens are put together to nodes, and the nodes stand for a
  value.

  Key definitions include:
    * `Yaml.scalarValue?`
    * `Yaml.merged?`
    * `Yaml.Node.value?`
    * `Yaml.document?`
    * `Yaml.read?`
-/

namespace Marginalia

namespace Yaml

------------------------------------------------------------
-- Scalars
------------------------------------------------------------

/- The tag of one of the standard types. -/
def standardTag
    (name : String) : Option Text :=
  some ("tag:yaml.org,2002:".toList ++ name.toList)

/- The tag that leaves a node's meaning to its spelling. -/
def openTag : Option Text :=
  some ['!']

/- The spelling of the key whose value is merged into a mapping. -/
def mergeWord : Text :=
  ['<', '<']

/- The spelling of a key that has no meaning as a value. -/
def defaultWord : Text :=
  ['=']

/- Whether the spelling of a scalar decides what it stands for. -/
def isSpelled
    (tag : Option Text)
    (plain : Bool) : Bool :=
  tag == openTag || (tag.isNone && plain)

/- The value of a scalar whose tag names a type besides texts. -/
def taggedValue?
    (tag : Option Text)
    (content : Text) : Option Value :=
  if tag = standardTag "bool" then
    match spelled content with
    | .flag value => some (.flag value)
    | _ => none
  else if tag = standardTag "int" then
    (integer? content).map Value.number
  else if tag = standardTag "float" then
    (fraction? content).map (Value.fraction content ·)
  else none

/- The value of a scalar. -/
def scalarValue?
    (tag : Option Text)
    (content : RawText)
    (plain : Bool) : Option Value :=
  if isSpelled tag plain then
    match content.plain? with
    | none => some (.text content)
    | some text =>
        if text = mergeWord || text = defaultWord then none
        else some (spelled text)
  else if tag.isNone || tag = standardTag "str" then some (.text content)
  else if tag = standardTag "null" then some .null
  else content.plain? >>= taggedValue? tag

------------------------------------------------------------
-- Mappings
------------------------------------------------------------

/- A node at whose key the entries of other mappings are merged. -/
def Node.isMerge : Node → Bool
  | .scalar tag content plain =>
      (isSpelled tag plain && content == RawText.ofText mergeWord) ||
        tag == standardTag "merge"
  | _ => false

/- The value that a node is as a key; only a scalar is one. -/
def Node.key? : Node → Option Value
  | .scalar tag content plain =>
      if isSpelled tag plain && content == RawText.ofText defaultWord
      then some (.text content)
      else scalarValue? tag content plain
  | _ => none

/- The entries of a value that is a mapping. -/
def entries? : Value → Option (List (Value × Value))
  | .mapping entries => some entries
  | _ => none

/-
  The entries that are merged into a mapping: those of another
  mapping, or those of several, of which the first counts most.
-/
def merged? : Value → Option (List (Value × Value))
  | .mapping entries => some entries
  | .list items =>
      (items.mapM entries?).map fun parts => parts.reverse.flatten
  | _ => none

------------------------------------------------------------
-- Values of Nodes
------------------------------------------------------------

mutual

/- The value that a node stands for. -/
def Node.value? : Node → Option Value
  | .scalar tag content plain => scalarValue? tag content plain
  | .sequence tag items =>
      if tag.isNone || tag = openTag || tag = standardTag "seq" then
        (itemValues? items).map Value.list
      else none
  | .mapping tag entries =>
      if tag.isNone || tag = openTag || tag = standardTag "map" then
        (entryValues? entries).map fun (merged, own) =>
          .mapping (merged ++ own)
      else none

/- The values of the items of a list. -/
def itemValues? : List Node → Option (List Value)
  | [] => some []
  | item :: rest => do
      let value ← item.value?
      let values ← itemValues? rest
      pure (value :: values)

/- The merged and the own entries of a mapping. -/
def entryValues? :
    List (Node × Node) →
      Option (List (Value × Value) × List (Value × Value))
  | [] => some ([], [])
  | (key, node) :: rest => do
      let value ← node.value?
      let (merged, own) ← entryValues? rest
      if key.isMerge then
        let entries ← merged? value
        pure (entries ++ merged, own)
      else
        let name ← key.key?
        pure (merged, (name, value) :: own)

end

------------------------------------------------------------
-- Reading Texts
------------------------------------------------------------

/- The document in a text, whose line ends are line feeds. -/
def document?
    (text : Text) : Option Node :=
  if text.all isAllowed then tokens? text >>= node? else none

/-
  The value of a text. A text without a document stands for
  nothing.
-/
def read?
    (text : Text) : Option Value :=
  document? text >>= Node.value?

end Yaml

end Marginalia
