import Marginalia.Yaml.Token

/-
  This file defines the nodes of a YAML document and builds
  them from its tokens.

  Key definitions include:
    * `Yaml.Node`
    * `Yaml.Stream`
    * `Yaml.Parse`
    * `Yaml.Parse.node`
    * `Yaml.Parse.document`
    * `Yaml.node?`
-/

namespace Marginalia

namespace Yaml

------------------------------------------------------------
-- Nodes
------------------------------------------------------------

/-
  A node of a document, with its tag if it has one. A plain
  scalar is one whose meaning its spelling decides.
-/
inductive Node where
  | scalar (tag : Option Text) (content : RawText) (plain : Bool)
  | sequence (tag : Option Text) (items : List Node)
  | mapping (tag : Option Text) (entries : List (Node × Node))

namespace Node

/- The node that stands where nothing is written. -/
def empty : Node :=
  .scalar none [] true

end Node

------------------------------------------------------------
-- Streams of Tokens
------------------------------------------------------------

/-
  The tokens that are left, what the handles of tags stand for,
  and the nodes that anchors name. An anchor names no node yet
  while that node is read.
-/
structure Stream where
  tokens : List Token
  handles : List (Text × Text) := []
  anchors : List (Text × Option Node) := []

/- What is read from a stream, which may fail. -/
abbrev Parse :=
  StateT Stream Option

namespace Parse

/- The next token. -/
def peek : Parse (Option Token) := do
  return (← get).tokens.head?

/- Go past the next token. -/
def skip : Parse Unit :=
  modify fun stream => { stream with tokens := stream.tokens.drop 1 }

/- Whether a token comes next; if so, go past it. -/
def accept
    (token : Token) : Parse Bool := do
  if (← peek) = some token then
    skip
    return true
  else return false

/- Go past a token that must come next. -/
def expect
    (token : Token) : Parse Unit := do
  if !(← accept token) then failure

/- Whether the next token is one of several. -/
def before
    (tokens : List Token) : Parse Bool := do
  return (← peek).any tokens.contains

------------------------------------------------------------
-- Properties
------------------------------------------------------------

/- The handles that need no directive. -/
def standardHandles : List (Text × Text) :=
  [(['!'], ['!']), (['!', '!'], "tag:yaml.org,2002:".toList)]

/- The tag that a handle and a suffix stand for. -/
def expandTag
    (handle : Option Text)
    (suffix : Text) : Parse Text :=
  match handle with
  | none => return suffix
  | some name => do
      match (← get).handles.lookup name with
      | some stem => return stem ++ suffix
      | none => failure

/- The tag that comes next, if there is one. -/
def tag : Parse (Option Text) := do
  match ← peek with
  | some (.tag handle suffix) =>
      skip
      some <$> expandTag handle suffix
  | _ => return none

/- The anchor that comes next, if there is one. -/
def anchor : Parse (Option Text) := do
  match ← peek with
  | some (.anchor name) =>
      skip
      return some name
  | _ => return none

/- The anchor and the tag of a node, in any order. -/
def properties : Parse (Option Text × Option Text) := do
  match ← anchor with
  | some name => return (some name, ← tag)
  | none =>
      match ← tag with
      | some tag => return (← anchor, some tag)
      | none => return (none, none)

/- Begin a node with an anchor, which no other node may have. -/
def beginAnchor
    (name : Text) : Parse Unit := do
  if ((← get).anchors.lookup name).isSome then failure
  else
    modify fun stream =>
      { stream with anchors := (name, none) :: stream.anchors }

/- End a node with an anchor. -/
def endAnchor
    (name : Text)
    (node : Node) : Parse Unit :=
  modify fun stream =>
    { stream with anchors := (name, some node) :: stream.anchors }

/- The node that an alias stands for. -/
def aliased
    (name : Text) : Parse Node := do
  match (← get).anchors.lookup name with
  | some (some node) => return node
  | _ => failure

------------------------------------------------------------
-- Collections
------------------------------------------------------------

/- A node, or the empty one before one of some tokens. -/
def unlessBefore
    (tokens : List Token)
    (read : Parse Node) : Parse Node := do
  if ← before tokens then return Node.empty else read

/-
  The value of a key, if a value comes next; it is empty before
  one of some tokens.
-/
def valueUnless
    (tokens : List Token)
    (read : Parse Node) : Parse Node := do
  if ← accept .value then unlessBefore tokens read
  else return Node.empty

/- A node of which nothing but its anchor or tag is written. -/
def bare
    (anchored : Bool)
    (tag : Option Text) : Parse Node :=
  if anchored || tag.isSome then return .scalar tag [] true
  else failure

mutual

/-
  Read a node. Collections among lines, and items at the very
  column of their key, are read only where they may stand. The
  first argument bounds the number of nested steps.
-/
def node : Nat → (lines items : Bool) → Parse Node
  | 0, _, _ => failure
  | fuel + 1, lines, items => do
      match ← peek with
      | some (.alias name) =>
          skip
          aliased name
      | _ =>
          let (name, tag) ← properties
          if let some name := name then beginAnchor name
          let read ← content fuel lines items name.isSome tag
          if let some name := name then endAnchor name read
          return read

/- Read what a node holds, after its anchor and tag. -/
def content : Nat → (lines items anchored : Bool) → Option Text → Parse Node
  | 0, _, _, _, _ => failure
  | fuel + 1, lines, items, anchored, tag => do
      match ← peek with
      | some .blockEntry =>
          if items then .sequence tag <$> flatItems fuel
          else bare anchored tag
      | some (.scalar text plain) =>
          skip
          return .scalar tag text plain
      | some .flowSequenceStart =>
          skip
          .sequence tag <$> flowItems fuel true
      | some .flowMappingStart =>
          skip
          .mapping tag <$> flowEntries fuel true
      | some .blockSequenceStart =>
          if lines then
            skip
            .sequence tag <$> blockItems fuel
          else bare anchored tag
      | some .blockMappingStart =>
          if lines then
            skip
            .mapping tag <$> blockEntries fuel
          else bare anchored tag
      | _ => bare anchored tag

/- The items of a list among lines. -/
def blockItems : Nat → Parse (List Node)
  | 0 => failure
  | fuel + 1 => do
      if ← accept .blockEntry then
        let item ←
          unlessBefore [.blockEntry, .blockEnd] (node fuel true false)
        return item :: (← blockItems fuel)
      else
        expect .blockEnd
        return []

/- The items of a list at the very column of its key. -/
def flatItems : Nat → Parse (List Node)
  | 0 => failure
  | fuel + 1 => do
      if ← accept .blockEntry then
        let item ←
          unlessBefore [.blockEntry, .key, .value, .blockEnd]
            (node fuel true false)
        return item :: (← flatItems fuel)
      else return []

/- The entries of a mapping among lines. -/
def blockEntries : Nat → Parse (List (Node × Node))
  | 0 => failure
  | fuel + 1 => do
      if ← accept .key then
        let ends := [.key, .value, .blockEnd]
        let key ← unlessBefore ends (node fuel true true)
        let value ← valueUnless ends (node fuel true true)
        return (key, value) :: (← blockEntries fuel)
      else
        expect .blockEnd
        return []

/-
  The items of a list in brackets. An item may be a mapping of
  a single entry. The flag tells whether it is the first item.
-/
def flowItems : Nat → (first : Bool) → Parse (List Node)
  | 0, _ => failure
  | fuel + 1, first => do
      if ← accept .flowSequenceEnd then return []
      else
        if !first then expect .flowEntry
        if ← accept .flowSequenceEnd then return []
        else
          let ends := [.flowEntry, .flowSequenceEnd]
          let item ←
            if ← accept .key then do
              let key ←
                unlessBefore (.value :: ends) (node fuel false false)
              let value ← valueUnless ends (node fuel false false)
              pure (.mapping none [(key, value)])
            else node fuel false false
          return item :: (← flowItems fuel false)

/-
  The entries of a mapping in brackets. A key without a colon
  has an empty value.
-/
def flowEntries : Nat → (first : Bool) → Parse (List (Node × Node))
  | 0, _ => failure
  | fuel + 1, first => do
      if ← accept .flowMappingEnd then return []
      else
        if !first then expect .flowEntry
        if ← accept .flowMappingEnd then return []
        else
          let ends := [.flowEntry, .flowMappingEnd]
          let entry ←
            if ← accept .key then do
              let key ←
                unlessBefore (.value :: ends) (node fuel false false)
              let value ← valueUnless ends (node fuel false false)
              pure (key, value)
            else do
              let key ← node fuel false false
              pure (key, Node.empty)
          return entry :: (← flowEntries fuel false)

end

------------------------------------------------------------
-- Documents
------------------------------------------------------------

/-
  Put the handles of some directives in front of the standard
  ones. The version is given once at most and must be the first
  one, and a handle has one meaning.
-/
def directives : List Token → (version : Bool) → Parse Unit
  | .directive (.version major) :: rest, version => do
      if version || major != 1 then failure
      else
        skip
        directives rest true
  | .directive (.handle name stem) :: rest, version => do
      if ((← get).handles.lookup name).isSome then failure
      else
        modify fun stream =>
          { stream with handles := (name, stem) :: stream.handles }
        skip
        directives rest version
  | .directive .reserved :: rest, version => do
      skip
      directives rest version
  | _, _ =>
      modify fun stream =>
        { stream with handles := stream.handles ++ standardHandles }

/- Go past the ends of documents. -/
def skipEnds : Parse Unit :=
  modify fun stream =>
    { stream with
      tokens := stream.tokens.dropWhile (· == .documentEnd) }

/- Whether a document has no content of its own. -/
def isBare : Parse Bool := do
  match ← peek with
  | none | some .documentStart | some .documentEnd
  | some (.directive _) => return true
  | _ => return false

/- The content of a document, without a separator before it. -/
def plainDocument
    (fuel : Nat) : Parse Node := do
  directives [] false
  node fuel true false

/- The content of a document after its directives. -/
def markedDocument
    (fuel : Nat) : Parse Node := do
  directives (← get).tokens false
  expect .documentStart
  if ← isBare then return Node.empty else node fuel true false

/- The only document of a stream. -/
def document
    (fuel : Nat) : Parse Node := do
  let read ←
    match ← peek with
    | none => pure Node.empty
    | some .documentStart | some (.directive _) => markedDocument fuel
    | _ => plainDocument fuel
  skipEnds
  if (← get).tokens.isEmpty then return read else failure

end Parse

/-
  The document that tokens stand for. A step of reading goes
  past a token at least, or is followed by one that does, so
  that three steps for every token are enough.
-/
def node?
    (tokens : List Token) : Option Node :=
  ((Parse.document (3 * tokens.length + 3)).run { tokens }).map (·.1)

end Yaml

end Marginalia
