import Marginalia.ModuleDoc
import Marginalia.Proofs.Source.Locators
import Marginalia.Proofs.Text.LineEnds

/-
  This file reads a source text with a carriage return before
  each of its line feeds. The blocks are found at the places
  to which the old ones move, with the same lines and the same
  comments, and what follows them declares the same. Only the
  arguments of functions, which are kept as they are written,
  show the carriage returns.

  Key definitions include:
    * `Argument.crlf`
    * `Declaration.crlf`
    * `Block.crlf`
    * `Role.crlf`
    * `ModuleDoc.crlf`

  Main results:
    * `Argument.listOfText_crlf`
    * `Declaration.ofText?_crlf`
    * `Block.scan_crlf`
    * `Roles.ofText_crlf`
    * `ModuleDoc.ofText_events_crlf`
-/

namespace Marginalia

------------------------------------------------------------
-- Arguments
------------------------------------------------------------

namespace Argument

/- An argument with the line ends of its parts rewritten. -/
def crlf
    (argument : Argument) : Argument where
  name := argument.name.crlf
  datatype := argument.datatype.map Text.crlf

/- One argument is read with its line ends. -/
theorem ofText?_crlf
    (text : Text) :
    ofText? text.crlf = (ofText? text).map crlf := by
  have hMark : Text.Unbroken [':'] := by decide
  have hName (name : Text) :
      (Text.trim name.crlf).isEmpty = (Text.trim name).isEmpty := by
    rw [Text.trim_crlf, Text.isEmpty_crlf]
  unfold ofText?
  rw [Text.cut?_crlf hMark (List.cons_ne_nil _ _)]
  cases Text.cut? [':'] text with
  | none =>
      simp only [Option.map_none, hName]
      split
      · rfl
      · simp only [Option.map_some, crlf, Text.trim_crlf, Option.map_none]
  | some cut =>
      rcases cut with ⟨before, after⟩
      simp only [Option.map_some, Prod.map_apply, hName]
      split
      · rfl
      · simp only [Option.map_some, crlf, Text.trim_crlf]

/- The arguments of a list are read with their line ends. -/
theorem listOfText_crlf
    (text : Text) :
    listOfText text.crlf = (listOfText text).map crlf := by
  unfold listOfText
  rw [Text.splitAt_crlf (by decide), List.filterMap_map,
    List.map_filterMap]
  apply List.filterMap_congr
  intro part _
  exact ofText?_crlf part

end Argument

------------------------------------------------------------
-- Declarations
------------------------------------------------------------

namespace Declaration

/- A declaration with the line ends of its arguments rewritten. -/
def crlf : Declaration → Declaration
  | .moduleHeader => .moduleHeader
  | .function name arguments => .function name arguments.crlf
  | .variable name => .variable name

/- What follows a keyword is written in the same way. -/
theorem afterKeyword?_crlf
    {keyword : Text}
    (hKeyword : keyword.Unbroken)
    (text : Text) :
    afterKeyword? keyword text.crlf =
      (afterKeyword? keyword text).map Text.crlf := by
  unfold afterKeyword?
  rw [Text.isPrefixOf_crlf hKeyword]
  split
  · rename_i hOpens
    rw [Text.drop_length_crlf hKeyword
      (List.isPrefixOf_iff_prefix.mp hOpens)]
    rfl
  · rfl

/- Line ends are no part of a name. -/
theorem takeWhile_isWord_crlf
    (text : Text) :
    text.crlf.takeWhile isWord = text.takeWhile isWord := by
  have hWord : Text.Unbroken (text.takeWhile isWord) := by
    apply Text.Solid.unbroken
    intro c hMember
    exact isBlank_of_isWord (List.mem_takeWhile_imp hMember)
  rw [Text.takeWhile_crlf (by decide), hWord.crlf]

/- A name ends where it did. -/
theorem endsName_crlf
    (text : Text) :
    endsName text.crlf = endsName text := by
  cases text with
  | nil => rfl
  | cons c rest =>
      by_cases hNewline : c = '\n'
      · rw [hNewline, Text.crlf_newline]
        simp only [endsName, show isWord '\r' = isWord '\n' by decide]
      · rw [Text.crlf_cons hNewline]
        rfl

/- A function is read with the line ends of its arguments. -/
theorem functionRest?_crlf
    (text : Text) :
    functionRest? text.crlf = (functionRest? text).map crlf := by
  have hOpen : Text.Unbroken ['('] := by decide
  have hClose : Text.Unbroken [')'] := by decide
  have hWord : isWord '\r' = isWord '\n' := by decide
  rw [functionRest?_eq, functionRest?_eq, endsName_crlf]
  split
  · rw [Text.trimStart_crlf, Text.dropWhile_crlf hWord,
      Text.trimStart_crlf, takeWhile_isWord_crlf,
      afterKeyword?_crlf hOpen, Option.bind_map, Option.map_bind]
    apply congrArg
    funext inner
    simp only [Function.comp_apply,
      Text.cut?_crlf hClose (List.cons_ne_nil _ _), Option.map_map]
    rfl
  · rfl

/- A variable is read as before. -/
theorem variableRest?_crlf
    (text : Text) :
    variableRest? text.crlf = (variableRest? text).map crlf := by
  cases text with
  | nil => rfl
  | cons c rest =>
      have hFirst :
          ∃ d more, Text.crlf (c :: rest) = d :: more ∧
            isBlank d = isBlank c := by
        by_cases hNewline : c = '\n'
        · refine ⟨'\r', '\n' :: Text.crlf rest, ?_, ?_⟩
          · rw [hNewline, Text.crlf_newline]
          · rw [hNewline]
            decide
        · exact ⟨c, Text.crlf rest, Text.crlf_cons hNewline rest, rfl⟩
      rcases hFirst with ⟨d, more, hCrlf, hBlank⟩
      have hName :
          (Text.trimStart (d :: more)).takeWhile isWord =
            (Text.trimStart (c :: rest)).takeWhile isWord := by
        rw [← hCrlf, Text.trimStart_crlf, takeWhile_isWord_crlf]
      rw [hCrlf]
      simp only [variableRest?, hName, hBlank]
      split
      · rfl
      · rfl

/- What a text declares is read as before. -/
theorem ofText?_crlf
    (text : Text) :
    ofText? text.crlf = (ofText? text).map crlf := by
  have hFun : Text.Unbroken "fun".toList := by decide
  have hVar : Text.Unbroken "var".toList := by decide
  have hHeader : Text.Unbroken "%dw".toList := by decide
  unfold ofText?
  simp only [Text.trimStart_crlf, afterKeyword?_crlf hFun,
    afterKeyword?_crlf hVar, afterKeyword?_crlf hHeader]
  cases afterKeyword? "fun".toList (Text.trimStart text) with
  | some rest => exact functionRest?_crlf rest
  | none =>
      cases afterKeyword? "var".toList (Text.trimStart text) with
      | some rest => exact variableRest?_crlf rest
      | none =>
          simp only [Option.map_none, Option.map_map]
          rfl

end Declaration

------------------------------------------------------------
-- Blocks
------------------------------------------------------------

namespace Block

/- A block of a text where it comes to stand. -/
def crlf
    (text : Text)
    (block : Block) : Block where
  start := text.crlfOffset block.start
  stop := text.crlfOffset block.stop
  body := block.body.crlf
  line := block.line

/- What follows a block is written in the same way. -/
theorem following_crlf
    (text : Text)
    (block : Block) :
    (block.crlf text).following text.crlf =
      (block.following text).crlf :=
  Text.drop_crlfOffset text block.stop

/-
  The next block is the one that was next, where it comes to
  stand in the whole text.
-/
theorem next?_crlf
    (front text : Text)
    (line : Nat) :
    next? front.crlf.length line text.crlf =
      (next? front.length line text).map fun (block, after) =>
        (block.crlf (front ++ text), after.crlf) := by
  have hOpenMark : openMark.Unbroken := by decide
  have hCloseMark : closeMark.Unbroken := by decide
  unfold next?
  rw [Text.cut?_crlf hOpenMark (List.cons_ne_nil _ _)]
  cases hOpen : Text.cut? openMark text with
  | none => rfl
  | some cut =>
      rcases cut with ⟨before, opened⟩
      simp only [Option.map_some, Prod.map_apply,
        Text.cut?_crlf hCloseMark (List.cons_ne_nil _ _)]
      cases hClose : Text.cut? closeMark opened with
      | none => rfl
      | some rest =>
          rcases rest with ⟨body, after⟩
          have hStart :
              Text.crlfOffset (front ++ text)
                  (front.length + before.length) =
                front.crlf.length + before.crlf.length := by
            rw [← List.length_append, ← List.length_append,
              ← Text.crlf_append, Text.eq_of_cut? hOpen,
              List.append_assoc before, ← List.append_assoc front,
              Text.crlfOffset_append]
          have hStop :
              Text.crlfOffset (front ++ text)
                  (front.length + before.length + openMark.length +
                    body.length + closeMark.length) =
                front.crlf.length + before.crlf.length +
                  openMark.length + body.crlf.length +
                  closeMark.length := by
            have hParts :
                front ++ text =
                  (front ++ before ++ openMark ++ body ++ closeMark) ++
                    after := by
              rw [Text.eq_of_cut? hOpen, Text.eq_of_cut? hClose]
              simp only [List.append_assoc]
            rw [hParts]
            simp only [← List.length_append, Text.crlfOffset_append,
              Text.crlf_append, hOpenMark.crlf, hCloseMark.crlf]
          simp only [Option.map_some, Prod.map_apply, crlf, hStart,
            hStop, Text.count_crlf]

/- The rest of a scan finds the old blocks where they stand now. -/
theorem scanFrom_crlf
    {offset line : Nat}
    {text : Text}
    (front : Text)
    (hFront : front.length = offset) :
    scanFrom front.crlf.length line text.crlf =
      (scanFrom offset line text).map (crlf (front ++ text)) := by
  fun_induction scanFrom offset line text generalizing front with
  | case1 offset line text hNone =>
      have hNext := next?_crlf front text line
      rw [hFront, hNone] at hNext
      exact scanFrom_of_none hNext
  | case2 offset line text block after hSome ih =>
      have hNext := next?_crlf front text line
      rw [hFront, hSome] at hNext
      rcases exists_taken_of_next? hSome with ⟨taken, hText, hStop⟩
      have hTaken : (front ++ taken).length = block.stop := by
        rw [List.length_append]
        omega
      have hWhole : front ++ taken ++ after = front ++ text := by
        rw [hText, List.append_assoc]
      have hOffset :
          (block.crlf (front ++ text)).stop =
            (front ++ taken).crlf.length := by
        rw [← hWhole, ← Text.crlfOffset_append _ after, hTaken]
        rfl
      have hRest := ih (front ++ taken) hTaken
      rw [hWhole, ← hOffset] at hRest
      rw [scanFrom_of_some hNext, List.map_cons, ← hRest]
      simp only [crlf, Text.count_crlf]

/- The blocks of a text are found where they come to stand. -/
theorem scan_crlf
    (text : Text) :
    scan text.crlf = (scan text).map (crlf text) :=
  scanFrom_crlf [] rfl

/- The body of a block consists of characters of the text. -/
theorem body_subset
    (offset line : Nat)
    (text : Text) :
    ∀ block ∈ scanFrom offset line text, block.body ⊆ text := by
  fun_induction scanFrom offset line text with
  | case1 => simp
  | case2 offset line text first after hNext ih =>
      intro block hBlock c hMember
      rcases List.mem_cons.mp hBlock with hFirst | hLater
      · rcases next?_eq_some_iff.mp hNext with
          ⟨before, opened, hOpen, hClose, -, -, -⟩
        rw [Text.eq_of_cut? hOpen, Text.eq_of_cut? hClose, ← hFirst]
        simp [hMember]
      · rcases exists_taken_of_next? hNext with ⟨taken, hText, -⟩
        rw [hText]
        exact List.mem_append_right taken (ih block hLater hMember)

end Block

------------------------------------------------------------
-- Roles
------------------------------------------------------------

/- The body starts where its old start comes to stand. -/
theorem bodyStart?_crlf
    (text : Text) :
    bodyStart? text.crlf = (bodyStart? text).map text.crlfOffset := by
  have hMark : bodyMark.Unbroken := by decide
  unfold bodyStart?
  rw [Text.cut?_crlf hMark (List.cons_ne_nil _ _)]
  cases hCut : Text.cut? bodyMark text with
  | none => rfl
  | some cut =>
      rcases cut with ⟨before, after⟩
      have hStart :
          text.crlfOffset (before.length + bodyMark.length) =
            before.crlf.length + bodyMark.length := by
        rw [Text.eq_of_cut? hCut, ← List.length_append,
          Text.crlfOffset_append, Text.crlf_append, hMark.crlf,
          List.length_append]
      simp only [Option.map_some, Prod.map_apply, hStart]

/- The body starts within the text. -/
theorem bodyStart?_le
    {text : Text}
    {start : Nat}
    (hStart : bodyStart? text = some start) :
    start ≤ text.length := by
  rcases Option.map_eq_some_iff.mp hStart with
    ⟨⟨before, after⟩, hCut, hEq⟩
  have hLength := Text.length_of_cut? hCut
  simp only at hEq
  omega

namespace Role

/- A role with the line ends of its arguments rewritten. -/
def crlf : Role → Role
  | .function name arguments => .function name arguments.crlf
  | role => role

/- A block stands in the body if it did before. -/
theorem ofPlace_crlf
    (text : Text)
    (block : Block) :
    ofPlace (bodyStart? text.crlf) (block.crlf text) =
      (ofPlace (bodyStart? text) block).crlf := by
  rw [bodyStart?_crlf]
  cases hStart : bodyStart? text with
  | none => rfl
  | some start =>
      simp only [Option.map_some, ofPlace, Block.crlf,
        Text.crlfOffset_le_iff (bodyStart?_le hStart)]
      split
      · rfl
      · rfl

/- A block has the role that it had. -/
theorem ofBlock_crlf
    (text : Text)
    (headerSeen : Bool)
    (block : Block) :
    ofBlock (bodyStart? text.crlf) headerSeen (block.crlf text)
        ((block.crlf text).following text.crlf) =
      (ofBlock (bodyStart? text) headerSeen block
        (block.following text)).crlf := by
  unfold ofBlock
  rw [Block.following_crlf, Declaration.ofText?_crlf, ofPlace_crlf]
  cases Declaration.ofText? (block.following text) with
  | none => rfl
  | some declaration =>
      rcases declaration with _ | ⟨name, arguments⟩ | name
      · cases headerSeen <;> rfl
      · rfl
      · rfl

end Role

namespace Roles

/- A block with its role, where the block comes to stand. -/
def entryCrlf
    (text : Text)
    (entry : Block × Role) : Block × Role :=
  (entry.1.crlf text, entry.2.crlf)

/- The blocks get the roles that they had. -/
theorem assign_crlf
    (text : Text)
    (headerSeen : Bool)
    (blocks : List Block) :
    assign text.crlf (bodyStart? text.crlf) headerSeen
        (blocks.map (Block.crlf text)) =
      (assign text (bodyStart? text) headerSeen blocks).map
        (entryCrlf text) := by
  induction blocks generalizing headerSeen with
  | nil => rfl
  | cons block rest ih =>
      have hHeader (role : Role) :
          (role.crlf == .header) = (role == .header) := by
        cases role <;> rfl
      rw [List.map_cons, assign, assign, Role.ofBlock_crlf, hHeader, ih,
        List.map_cons]
      rfl

/- All roles are those that the blocks had. -/
theorem ofText_crlf
    (text : Text) :
    ofText text.crlf = (ofText text).map (entryCrlf text) := by
  unfold ofText
  rw [Block.scan_crlf, assign_crlf]

/-
  What is read from the blocks of one role is what was read
  before, if it is so for every single block of the text.
-/
theorem map_filterMap_crlf
    {α β : Type}
    {text : Text}
    {byRole : Block × Role → Option α}
    {read before : α → β}
    (hRead :
      ∀ block ∈ Block.scan text, ∀ role : Role,
        (byRole (block.crlf text, role.crlf)).map read =
          (byRole (block, role)).map before) :
    ((ofText text.crlf).filterMap byRole).map read =
      ((ofText text).filterMap byRole).map before := by
  rw [ofText_crlf, List.filterMap_map, List.map_filterMap,
    List.map_filterMap]
  apply List.filterMap_congr
  intro entry hEntry
  have hBlock : entry.1 ∈ Block.scan text := by
    rw [← map_fst_ofText]
    exact List.mem_map_of_mem hEntry
  exact hRead entry.1 hBlock entry.2

/- The same for the block of the module. -/
theorem map_header?_crlf
    {α : Type}
    {text : Text}
    {read : Block → α}
    (hRead :
      ∀ block ∈ Block.scan text, read (block.crlf text) = read block) :
    (ofText text.crlf).header?.map read =
      (ofText text).header?.map read := by
  rw [header?_eq_head?, header?_eq_head?, ← List.head?_map,
    ← List.head?_map]
  apply congrArg
  apply map_filterMap_crlf
  intro block hBlock role
  cases role with
  | header => exact congrArg some (hRead block hBlock)
  | _ => rfl

end Roles

------------------------------------------------------------
-- Modules
------------------------------------------------------------

namespace ModuleDoc

/- A function with the line ends of its arguments rewritten. -/
def functionCrlf
    (function : FunctionDoc) : FunctionDoc :=
  { function with arguments := function.arguments.map Argument.crlf }

/- A module with the line ends of all arguments rewritten. -/
def crlf
    (module : ModuleDoc) : ModuleDoc :=
  { module with functions := module.functions.map functionCrlf }

/- The blocks whose comments are read give what they gave. -/
theorem flatMap_readBlocks_crlf
    {α : Type}
    {text : Text}
    {read : Block → List α}
    (hRead :
      ∀ block ∈ Block.scan text, read (block.crlf text) = read block) :
    (readBlocks (Roles.ofText text.crlf)).flatMap read =
      (readBlocks (Roles.ofText text)).flatMap read := by
  have hFunctions :
      (Roles.ofText text.crlf).functions.map (read ∘ Prod.fst) =
        (Roles.ofText text).functions.map (read ∘ Prod.fst) := by
    apply Roles.map_filterMap_crlf
    intro block hBlock role
    cases role with
    | function name arguments =>
        exact congrArg some (hRead block hBlock)
    | _ => rfl
  have hVars :
      (Roles.ofText text.crlf).vars.map (read ∘ Prod.fst) =
        (Roles.ofText text).vars.map (read ∘ Prod.fst) := by
    apply Roles.map_filterMap_crlf
    intro block hBlock role
    cases role with
    | «variable» name => exact congrArg some (hRead block hBlock)
    | _ => rfl
  have hTables :
      (Roles.ofText text.crlf).tables.map read =
        (Roles.ofText text).tables.map read := by
    apply Roles.map_filterMap_crlf
    intro block hBlock role
    cases role with
    | table => exact congrArg some (hRead block hBlock)
    | _ => rfl
  have hHeader := Roles.map_header?_crlf hRead
  unfold readBlocks
  rw [List.flatMap_def, List.flatMap_def]
  simp only [List.map_append, List.map_map, ← Option.toList_map,
    hFunctions, hVars, hTables, hHeader]

section

variable {text : Text}
variable (hText : '\r' ∉ text)

include hText

/- Blocks of a text without carriage returns are cleaned alike. -/
theorem clean_crlf
    {block : Block}
    (hBlock : block ∈ Block.scan text) :
    Decoration.clean block.body.crlf = Decoration.clean block.body := by
  have hBody : '\r' ∉ block.body := by
    intro hMember
    exact hText (Block.body_subset 0 1 text block hBlock hMember)
  unfold Decoration.clean Decoration.strip
  rw [Text.lines_crlf hBody]

/- They have the comments that they had. -/
theorem comment_crlf
    {block : Block}
    (hBlock : block ∈ Block.scan text) :
    Comment.ofBlock block.body.crlf = Comment.ofBlock block.body := by
  unfold Comment.ofBlock
  rw [clean_crlf hText hBlock]

/- The functions are documented as before. -/
theorem functions_crlf :
    (Roles.ofText text.crlf).functions.map FunctionDoc.ofBlock =
      (Roles.ofText text).functions.map
        (functionCrlf ∘ FunctionDoc.ofBlock) := by
  apply Roles.map_filterMap_crlf
  intro block hBlock role
  cases role with
  | function name arguments =>
      simp only [Role.crlf, Option.map_some, Function.comp_apply,
        FunctionDoc.ofBlock, functionCrlf, Block.crlf,
        comment_crlf hText hBlock, Argument.listOfText_crlf]
  | _ => rfl

/- The variables are documented as before. -/
theorem vars_crlf :
    (Roles.ofText text.crlf).vars.map VariableDoc.ofBlock =
      (Roles.ofText text).vars.map VariableDoc.ofBlock := by
  apply Roles.map_filterMap_crlf
  intro block hBlock role
  cases role with
  | «variable» name =>
      simp only [Role.crlf, Option.map_some, VariableDoc.ofBlock,
        Block.crlf, comment_crlf hText hBlock]
  | _ => rfl

/- The tables are documented as before. -/
theorem tables_crlf :
    (Roles.ofText text.crlf).tables.map TableDoc.ofBlock =
      (Roles.ofText text).tables.map TableDoc.ofBlock := by
  apply Roles.map_filterMap_crlf
  intro block hBlock role
  cases role with
  | table =>
      simp only [Role.crlf, Option.map_some, TableDoc.ofBlock,
        Block.crlf, comment_crlf hText hBlock]
  | _ => rfl

/- Reading reports what it did. -/
theorem events_crlf
    (fileName root : Text) :
    events text.crlf fileName root = events text fileName root := by
  have hIgnored :
      ((readBlocks (Roles.ofText text.crlf)).flatMap fun block =>
          Comment.ignoredLines (Decoration.clean block.body)) =
        (readBlocks (Roles.ofText text)).flatMap fun block =>
          Comment.ignoredLines (Decoration.clean block.body) := by
    apply flatMap_readBlocks_crlf
    intro block hBlock
    simp only [Block.crlf, clean_crlf hText hBlock]
  have hDetached :
      ((Roles.ofText text.crlf).detached.map fun block =>
          Event.commentNotAttached
            (SourceName.relativeTo root fileName) block.line) =
        (Roles.ofText text).detached.map fun block =>
          Event.commentNotAttached
            (SourceName.relativeTo root fileName) block.line := by
    apply Roles.map_filterMap_crlf
    intro block _ role
    cases role <;> rfl
  unfold events
  simp only [hIgnored, hDetached]

end

/-
  Without carriage returns of its own a text is documented as
  before when each of its line feeds gets one: the same header,
  functions, variables and tables with the same comments and
  lines, and the same events. Only the arguments of functions
  are written with the new line ends.
-/
theorem ofText_events_crlf
    {text : Text}
    (hText : '\r' ∉ text)
    (fileName root fileExtension : Text) :
    ofText text.crlf fileName root fileExtension =
        (ofText text fileName root fileExtension).crlf ∧
      events text.crlf fileName root = events text fileName root := by
  refine ⟨?_, events_crlf hText fileName root⟩
  have hHeader :
      ((Roles.ofText text.crlf).header?.map fun block =>
          Comment.ofBlock block.body) =
        (Roles.ofText text).header?.map fun block =>
          Comment.ofBlock block.body := by
    apply Roles.map_header?_crlf
    intro block hBlock
    exact comment_crlf hText hBlock
  unfold ofText crlf
  simp only [hHeader, functions_crlf hText, vars_crlf hText,
    tables_crlf hText, List.map_map]

/-
  A function whose comment, declaration and arguments all run
  over several lines.
-/
theorem ofText_events_crlf_broken :
    let text : Text :=
      "/** Adds\n@param x\n*/\nfun f(a:\nNumber,\n b\nc)".toList
    let broken : Text :=
      "/** Adds\r\n@param x\r\n*/\r\nfun f(a:\r\nNumber,\r\n b\r\nc)".toList
    let read : Text → ModuleDoc :=
      (ofText · "m.dwl".toList [] "dwl".toList)
    '\r' ∉ text ∧
      broken = text.crlf ∧
      read broken = (read text).crlf ∧
      (read broken).functions.map (·.arguments) =
        [[{ name := "a".toList, datatype := some "Number".toList },
          { name := "b\r\nc".toList }]] := by
  intro text broken read
  have hText : '\r' ∉ text := by decide
  have hBroken : broken = text.crlf := by decide
  have hRead : read broken = (read text).crlf := by
    rw [hBroken]
    exact (ofText_events_crlf hText _ _ _).1
  refine ⟨hText, hBroken, hRead, ?_⟩
  rw [hRead]
  decide +kernel

end ModuleDoc

end Marginalia
