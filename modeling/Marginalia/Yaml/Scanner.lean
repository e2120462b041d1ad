import Marginalia.Yaml.Block
import Marginalia.Yaml.Plain
import Marginalia.Yaml.Token

/-
  This file cuts a YAML text into tokens. Most of the work is
  to find the structure of lines: where their indentation opens
  and closes collections, and which tokens are keys, which only
  a colon after them can tell.

  Key definitions include:
    * `Yaml.Cursor`
    * `Yaml.Cursor.moveTo`
    * `Yaml.Candidate`
    * `Yaml.Scanner`
    * `Yaml.Scanner.closeBlocks`
    * `Yaml.Scanner.dropStale?`
    * `Yaml.Scanner.addCandidate?`
    * `Yaml.Scanner.token?`
    * `Yaml.Scanner.run?`
    * `Yaml.tokens?`
-/

namespace Marginalia

namespace Yaml

------------------------------------------------------------
-- Places in a Text
------------------------------------------------------------

/-
  A place in a text: what is left of the text, the number of
  characters before it, and its line and column.
-/
structure Cursor where
  rest : Text
  index : Nat := 0
  line : Nat := 0
  column : Nat := 0
  deriving DecidableEq, Repr

namespace Cursor

/- The next place. A byte order mark takes up no column. -/
def next
    (cursor : Cursor) : Cursor :=
  match cursor.rest with
  | [] => cursor
  | c :: rest =>
      if isBreak c then
        { rest
          index := cursor.index + 1
          line := cursor.line + 1
          column := 0 }
      else
        { rest
          index := cursor.index + 1
          line := cursor.line
          column :=
            if c = '\ufeff' then cursor.column else cursor.column + 1 }

/- The place after some characters. -/
def skip
    (cursor : Cursor) : Nat → Cursor
  | 0 => cursor
  | n + 1 => cursor.next.skip n

/- The place at which a text is left. -/
def moveTo
    (cursor : Cursor)
    (rest : Text) : Cursor :=
  cursor.skip (cursor.rest.length - rest.length)

end Cursor

------------------------------------------------------------
-- Candidates for Keys
------------------------------------------------------------

/-
  A token that becomes a key if a colon follows it: the number
  of tokens before it, its place, and whether it must become
  one, since nothing else may start in its column.
-/
structure Candidate where
  position : Nat
  required : Bool
  index : Nat
  line : Nat
  column : Nat
  deriving DecidableEq, Repr

namespace Candidate

/- The number of characters within which a colon must follow. -/
def reach : Nat :=
  1024

/- A candidate that no colon at the given place makes a key. -/
def isStale
    (candidate : Candidate)
    (cursor : Cursor) : Bool :=
  candidate.line != cursor.line ||
    reach < cursor.index - candidate.index

end Candidate

------------------------------------------------------------
-- Scanners
------------------------------------------------------------

/-
  The state of cutting a text into tokens: the place reached,
  the tokens so far, the latest first, the number of brackets
  that are open, the columns of the collections among lines
  that are open, the innermost first, whether a key may start
  here, and for each depth of brackets the candidate for a key.
-/
structure Scanner where
  cursor : Cursor
  tokens : List Token := []
  depth : Nat := 0
  indents : List Nat := []
  keyAllowed : Bool := true
  candidates : List (Nat × Candidate) := []

namespace Scanner

/- Where the next token stands. -/
def context
    (scanner : Scanner) : Context :=
  if scanner.depth = 0 then .block else .flow

/- The least column of what belongs to the innermost collection. -/
def nextIndent
    (scanner : Scanner) : Nat :=
  match scanner.indents with
  | [] => 0
  | column :: _ => column + 1

/- Add a token. -/
def add
    (token : Token)
    (scanner : Scanner) : Scanner :=
  { scanner with tokens := token :: scanner.tokens }

/- Add a token that ends where a text is left. -/
def addTo
    (token : Token)
    (rest : Text)
    (scanner : Scanner) : Scanner :=
  { scanner with
    tokens := token :: scanner.tokens
    cursor := scanner.cursor.moveTo rest }

/- Put a token before those from a position on. -/
def insertAt
    (position : Nat)
    (token : Token)
    (scanner : Scanner) : Scanner :=
  let later := scanner.tokens.length - position
  { scanner with
    tokens :=
      scanner.tokens.take later ++ token ::
        scanner.tokens.drop later }

/- Say whether a key may start at the next token. -/
def allowKey
    (allowed : Bool)
    (scanner : Scanner) : Scanner :=
  { scanner with keyAllowed := allowed }

------------------------------------------------------------
-- Indentation
------------------------------------------------------------

/-
  Close the collections among lines whose column is the given
  one or a later one. Inside brackets there is nothing to close.
-/
def closeBlocks
    (column : Nat)
    (scanner : Scanner) : Scanner :=
  if scanner.depth = 0 then
    let kept := scanner.indents.dropWhile (column ≤ ·)
    let closed := scanner.indents.length - kept.length
    { scanner with
      indents := kept
      tokens := List.replicate closed .blockEnd ++ scanner.tokens }
  else scanner

/- Open a collection at a column unless one is open there. -/
def openBlock
    (column position : Nat)
    (start : Token)
    (scanner : Scanner) : Scanner :=
  if scanner.nextIndent ≤ column then
    { scanner.insertAt position start with
      indents := column :: scanner.indents }
  else scanner

/- Open a collection at the place reached. -/
def openHere
    (start : Token)
    (scanner : Scanner) : Scanner :=
  scanner.openBlock scanner.cursor.column scanner.tokens.length start

------------------------------------------------------------
-- Candidates
------------------------------------------------------------

/- Give up some candidates, of which none may be required. -/
def giveUp?
    (given : Nat × Candidate → Bool)
    (scanner : Scanner) : Option Scanner :=
  if scanner.candidates.any fun entry => given entry && entry.2.required
  then none
  else
    some { scanner with
      candidates := scanner.candidates.filter (!given ·) }

/- Give up the candidates that a colon here would not make keys. -/
def dropStale?
    (scanner : Scanner) : Option Scanner :=
  scanner.giveUp? fun entry => entry.2.isStale scanner.cursor

/- Give up the candidate inside the innermost brackets. -/
def dropCandidate?
    (scanner : Scanner) : Option Scanner :=
  scanner.giveUp? fun entry => entry.1 == scanner.depth

/- The next token is a candidate, if a key may start here. -/
def addCandidate?
    (scanner : Scanner) : Option Scanner :=
  if scanner.keyAllowed then
    scanner.dropCandidate?.map fun scanner =>
      { scanner with
        candidates :=
          (scanner.depth,
            { position := scanner.tokens.length
              required :=
                scanner.depth == 0 &&
                  scanner.indents.head? == some scanner.cursor.column
              index := scanner.cursor.index
              line := scanner.cursor.line
              column := scanner.cursor.column }) ::
            scanner.candidates }
  else some scanner

------------------------------------------------------------
-- Marks
------------------------------------------------------------

/- Read a separator of documents or a directive. -/
def separator?
    (token : Token)
    (rest : Text)
    (scanner : Scanner) : Option Scanner := do
  let scanner ← (scanner.closeBlocks 0).dropCandidate?
  pure ((scanner.allowKey false).addTo token rest)

/- Read an opening bracket. -/
def openBracket?
    (token : Token)
    (rest : Text)
    (scanner : Scanner) : Option Scanner := do
  let scanner ← scanner.addCandidate?
  pure { (scanner.allowKey true).addTo token rest with
    depth := scanner.depth + 1 }

/- Read a closing bracket, which needs an open one. -/
def closeBracket?
    (token : Token)
    (rest : Text)
    (scanner : Scanner) : Option Scanner := do
  let scanner ← scanner.dropCandidate?
  if scanner.depth = 0 then none
  else
    pure { (scanner.allowKey false).addTo token rest with
      depth := scanner.depth - 1 }

/- Read a comma between brackets. -/
def comma?
    (rest : Text)
    (scanner : Scanner) : Option Scanner := do
  let scanner ← scanner.dropCandidate?
  pure ((scanner.allowKey true).addTo .flowEntry rest)

/- Open a collection among lines, where a key may start. -/
def openLines?
    (start : Token)
    (scanner : Scanner) : Option Scanner :=
  if scanner.depth ≠ 0 then some scanner
  else if scanner.keyAllowed then some (scanner.openHere start)
  else none

/- Read the dash of an item. -/
def dash?
    (rest : Text)
    (scanner : Scanner) : Option Scanner := do
  let scanner ← scanner.openLines? .blockSequenceStart
  let scanner ← scanner.dropCandidate?
  pure ((scanner.allowKey true).addTo .blockEntry rest)

/- Read the question mark before a key. -/
def question?
    (rest : Text)
    (scanner : Scanner) : Option Scanner := do
  let scanner ← scanner.openLines? .blockMappingStart
  let scanner ← scanner.dropCandidate?
  pure ((scanner.allowKey (scanner.depth == 0)).addTo .key rest)

/-
  Read a colon. It makes the candidate before it a key, or else
  it starts a value without one.
-/
def colon?
    (rest : Text)
    (scanner : Scanner) : Option Scanner :=
  match scanner.candidates.find? (·.1 == scanner.depth) with
  | some (_, candidate) =>
      let scanner :=
        { scanner.insertAt candidate.position .key with
          candidates :=
            scanner.candidates.filter (·.1 != scanner.depth) }
      let scanner :=
        if scanner.depth = 0 then
          scanner.openBlock candidate.column candidate.position
            .blockMappingStart
        else scanner
      some ((scanner.allowKey false).addTo .value rest)
  | none => do
      let scanner ← scanner.openLines? .blockMappingStart
      let scanner ← scanner.dropCandidate?
      pure ((scanner.allowKey (scanner.depth == 0)).addTo .value rest)

------------------------------------------------------------
-- Scalars and Properties
------------------------------------------------------------

/- Read a token that may be a key or stand before one. -/
def word?
    (read : Option (Token × Text))
    (scanner : Scanner) : Option Scanner := do
  let scanner ← scanner.addCandidate?
  let (token, rest) ← read
  pure ((scanner.allowKey false).addTo token rest)

/- Read a plain scalar. After its last line a key may start. -/
def plain?
    (text : Text)
    (scanner : Scanner) : Option Scanner := do
  let scanner ← scanner.addCandidate?
  let plain := splitPlain scanner.context scanner.nextIndent text
  pure ((scanner.allowKey plain.broken).addTo
    (.scalar (RawText.ofText plain.content) true) plain.rest)

/- Read a block scalar. -/
def block?
    (folded : Bool)
    (text : Text)
    (scanner : Scanner) : Option Scanner := do
  let scanner ← scanner.dropCandidate?
  let (content, rest) ← blockScalar? folded scanner.nextIndent text
  pure ((scanner.allowKey true).addTo
    (.scalar (RawText.ofText content) false) rest)

/- A quoted scalar as a token. -/
def quotedToken
    (read : Option (RawText × Text)) : Option (Token × Text) :=
  read.map fun (content, rest) => (.scalar content false, rest)

/- An anchor or alias as a token. -/
def namedToken
    (token : Text → Token)
    (read : Option (Text × Text)) : Option (Token × Text) :=
  read.map fun (name, rest) => (token name, rest)

------------------------------------------------------------
-- Steps
------------------------------------------------------------

/-
  Go to the next token: a key may start on a new line outside
  brackets, candidates may become stale, and collections may
  end by their indentation.
-/
def toToken?
    (scanner : Scanner) : Option Scanner := do
  let (broken, rest) := skipFiller false scanner.cursor.rest
  let scanner :=
    { scanner with
      cursor := scanner.cursor.moveTo rest
      keyAllowed :=
        scanner.keyAllowed || (broken && scanner.depth == 0) }
  let scanner ← scanner.dropStale?
  pure (scanner.closeBlocks (scanner.cursor.column + 1))

/- Read the token that starts with a character. -/
def token?
    (c : Char)
    (rest : Text)
    (scanner : Scanner) : Option Scanner :=
  let text := c :: rest
  let atStart := scanner.cursor.column == 0
  let inFlow := scanner.depth != 0
  if c = '%' && atStart then do
    let (directive, below) ← Directive.read? rest
    scanner.separator? (.directive directive) below
  else if atStart && separates text then
    scanner.separator?
      (if c = '-' then .documentStart else .documentEnd) (rest.drop 2)
  else if c = '[' then scanner.openBracket? .flowSequenceStart rest
  else if c = '{' then scanner.openBracket? .flowMappingStart rest
  else if c = ']' then scanner.closeBracket? .flowSequenceEnd rest
  else if c = '}' then scanner.closeBracket? .flowMappingEnd rest
  else if c = ',' then scanner.comma? rest
  else if c = '-' && endsWord rest then scanner.dash? rest
  else if c = '?' && (inFlow || endsWord rest) then
    scanner.question? rest
  else if c = ':' && (inFlow || endsWord rest) then scanner.colon? rest
  else if c = '*' then
    scanner.word? (namedToken .alias (anchorName? rest))
  else if c = '&' then
    scanner.word? (namedToken .anchor (anchorName? rest))
  else if c = '!' then scanner.word? (tag? rest)
  else if c = '|' && !inFlow then scanner.block? false rest
  else if c = '>' && !inFlow then scanner.block? true rest
  else if c = '\x27' then
    scanner.word? (quotedToken
      ((singleQuoted? rest).map fun (content, following) =>
        (RawText.ofText content, following)))
  else if c = '"' then
    scanner.word? (quotedToken (doubleQuoted? rest))
  else if startsPlain scanner.context text then scanner.plain? text
  else none

/- Finish at the end of the text; its tokens are put in order. -/
def finish?
    (scanner : Scanner) : Option (List Token) :=
  (scanner.closeBlocks 0).dropCandidate?.map (·.tokens.reverse)

/-
  Read all tokens that are left. Every token leaves less of the
  text than there was.
-/
def run?
    (scanner : Scanner) : Option (List Token) :=
  match scanner.toToken? with
  | none => none
  | some ready =>
      match ready.cursor.rest with
      | [] => ready.finish?
      | c :: rest =>
          match ready.token? c rest with
          | none => none
          | some next =>
              if next.cursor.rest.length < scanner.cursor.rest.length
              then run? next
              else none
  termination_by scanner.cursor.rest.length

end Scanner

/- The tokens of a text; a byte order mark before it is left out. -/
def tokens?
    (text : Text) : Option (List Token) :=
  match text with
  | '\ufeff' :: rest => Scanner.run? { cursor := { rest } }
  | _ => Scanner.run? { cursor := { rest := text } }

end Yaml

end Marginalia
