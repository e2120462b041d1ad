import Marginalia.Proofs.Source.Append

/-
  This file defines how declarations are written, and shows
  that a block documents a declaration exactly when one is
  written behind it. A text is the writing of one declaration
  at most, so the name and the arguments are settled by it.

  Key definitions include:
    * `Declaration.Written`

  Main results:
    * `Declaration.functionRest?_eq_some_iff`
    * `Declaration.ofText?_eq_some_iff`
    * `Declaration.Written.unique`
    * `Roles.ofText_accepts`
-/

namespace Marginalia

namespace Declaration

------------------------------------------------------------
-- Writings of Declarations
------------------------------------------------------------

/-
  How a declaration is written, with anything behind it. The
  name of a function may be left out; otherwise blanks set it
  apart from the keyword. Its arguments go up to the first
  closing parenthesis. The name of a variable goes as far as
  it can.
-/
inductive Written : Declaration → Text → Prop where
  | moduleHeader
      {blanks rest : Text}
      (hBlanks : blanks.AllBlank) :
      Written .moduleHeader (blanks ++ "%dw".toList ++ rest)
  | function
      {blanks gap name space arguments rest : Text}
      (hBlanks : blanks.AllBlank)
      (hGap : gap.AllBlank)
      (hSpace : space.AllBlank)
      (hName : ∀ c ∈ name, isWord c = true)
      (hApart : gap ≠ [] ∨ name = [])
      (hArguments : ')' ∉ arguments) :
      Written (.function name arguments)
        (blanks ++ "fun".toList ++ gap ++ name ++ space ++ ['('] ++
          arguments ++ [')'] ++ rest)
  | variable
      {blanks gap name rest : Text}
      (hBlanks : blanks.AllBlank)
      (hGap : gap.AllBlank)
      (hApart : gap ≠ [])
      (hNamed : name ≠ [])
      (hName : ∀ c ∈ name, isWord c = true)
      (hRest : ∀ c ∈ rest.head?, isWord c = false) :
      Written (.variable name)
        (blanks ++ "var".toList ++ gap ++ name ++ rest)

------------------------------------------------------------
-- Functions
------------------------------------------------------------

/- A name ends where no word character follows. -/
theorem endsName_iff
    {text : Text} :
    endsName text = true ↔ ∀ c ∈ text.head?, isWord c = false := by
  cases text with
  | nil => simp [endsName]
  | cons c rest => simp [endsName]

/-
  Blanks, a name, blanks and a parenthesis are told apart by
  their first characters. Where there is no name, the blanks
  around it are one stretch.
-/
theorem functionRest?_of_parts
    {gap name space call arguments rest : Text}
    (hGap : gap.AllBlank)
    (hSpace : space.AllBlank)
    (hName : ∀ c ∈ name, isWord c = true)
    (hApart : gap ≠ [] ∨ name = [])
    (hNameless : name = [] → space = [])
    (hCall : call = ['('] ++ (arguments ++ [')'] ++ rest))
    (hArguments : ')' ∉ arguments) :
    functionRest? (gap ++ (name ++ (space ++ call))) =
      some (.function name arguments) := by
  have hOpen :
      ∀ c ∈ call.head?, isBlank c = false ∧ isWord c = false := by
    intro c hHead
    rw [hCall] at hHead
    rw [← Option.some.inj hHead]
    decide
  have hCallBlank : ∀ c ∈ call.head?, isBlank c = false := by
    intro c hHead
    exact (hOpen c hHead).1
  have hSpaceWord :
      ∀ c ∈ (space ++ call).head?, isWord c = false := by
    apply Text.head?_append_of_forall
    · intro c hMember
      exact isWord_of_isBlank (hSpace c hMember)
    · intro _ c hHead
      exact (hOpen c hHead).2
  have hNameBlank :
      ∀ c ∈ (name ++ (space ++ call)).head?,
        isBlank c = false := by
    apply Text.head?_append_of_forall
    · intro c hMember
      exact isBlank_of_isWord (hName c hMember)
    · intro hNone
      rw [hNameless hNone]
      exact hCallBlank
  have hEnds :
      endsName (gap ++ (name ++ (space ++ call))) = true := by
    apply endsName_iff.mpr
    apply Text.head?_append_of_forall
    · intro c hMember
      exact isWord_of_isBlank (hGap c hMember)
    · intro hNone
      rw [hApart.resolve_left (not_not.mpr hNone)]
      exact hSpaceWord
  have hStart := (Text.stretch_append hGap hNameBlank).2
  have hWord := Text.stretch_append hName hSpaceWord
  have hAfter := (Text.stretch_append hSpace hCallBlank).2
  rw [functionRest?_eq, if_pos hEnds]
  unfold Text.trimStart
  rw [hStart, hWord.1, hWord.2, hAfter,
    afterKeyword?_eq_some_iff.mpr hCall, Option.bind_some,
    Text.cut?_singleton_eq_some_iff.mpr ⟨rfl, hArguments⟩]
  rfl

/- What is read as a function behind its keyword. -/
theorem functionRest?_eq_some_iff
    {text name arguments : Text} :
    functionRest? text = some (.function name arguments) ↔
      ∃ gap space rest : Text,
        gap.AllBlank ∧ space.AllBlank ∧
        (∀ c ∈ name, isWord c = true) ∧
        (gap ≠ [] ∨ name = []) ∧
        ')' ∉ arguments ∧
        text =
          gap ++ (name ++ (space ++
            (['('] ++ (arguments ++ [')'] ++ rest)))) := by
  constructor
  · intro hRead
    rw [functionRest?_eq] at hRead
    split at hRead
    · rename_i hEnds
      rcases Option.bind_eq_some_iff.mp hRead with
        ⟨inner, hAfter, hInner⟩
      rcases Option.map_eq_some_iff.mp hInner with
        ⟨⟨arguments', rest⟩, hCut, hEq⟩
      rcases function.inj hEq with ⟨rfl, rfl⟩
      rcases Text.cut?_singleton_eq_some_iff.mp hCut with
        ⟨rfl, hArguments⟩
      refine ⟨text.takeWhile isBlank,
        ((Text.trimStart text).dropWhile isWord).takeWhile isBlank,
        rest, ?_, ?_, ?_, ?_, hArguments, ?_⟩
      · intro c hMember
        exact List.mem_takeWhile_imp hMember
      · intro c hMember
        exact List.mem_takeWhile_imp hMember
      · intro c hMember
        exact List.mem_takeWhile_imp hMember
      · -- Right behind the keyword there is no name.
        by_cases hGap : text.takeWhile isBlank = []
        · right
          have hStart : Text.trimStart text = text := by
            have hParts :=
              List.takeWhile_append_dropWhile (p := isBlank) (l := text)
            rw [hGap] at hParts
            exact hParts
          rw [hStart]
          exact (Text.stretch_append (List.forall_mem_nil _)
            (endsName_iff.mp hEnds)).1
        · exact Or.inl hGap
      · rw [← afterKeyword?_eq_some_iff.mp hAfter]
        unfold Text.trimStart
        rw [List.takeWhile_append_dropWhile,
          List.takeWhile_append_dropWhile,
          List.takeWhile_append_dropWhile]
    · cases hRead
  · intro hParts
    rcases hParts with
      ⟨gap, space, rest, hGap, hSpace, hName, hApart, hArguments,
        rfl⟩
    by_cases hNone : name = []
    · have hOne :
          functionRest?
              ((gap ++ space) ++ ([] ++ ([] ++
                (['('] ++ (arguments ++ [')'] ++ rest))))) =
            some (.function [] arguments) :=
        functionRest?_of_parts (hGap.append hSpace)
          (List.forall_mem_nil _) (List.forall_mem_nil _)
          (Or.inr rfl) (fun _ => rfl) rfl hArguments
      rw [hNone]
      simpa only [List.nil_append, List.append_assoc] using hOne
    · exact functionRest?_of_parts hGap hSpace hName hApart
        (fun hName => absurd hName hNone) rfl hArguments

------------------------------------------------------------
-- Reading What Is Written
------------------------------------------------------------

/- A module header is read where it is written. -/
theorem headerAt_iff_written
    {text : Text} :
    Locator.headerAt text = true ↔ Written .moduleHeader text := by
  constructor
  · intro hHeader
    rcases List.isPrefixOf_iff_prefix.mp hHeader with ⟨rest, hRest⟩
    rcases exists_blanks_of_afterKeyword?
        (afterKeyword?_eq_some_iff.mpr hRest.symm) with
      ⟨blanks, hBlanks, rfl⟩
    exact .moduleHeader hBlanks
  · intro hWritten
    rcases hWritten with @⟨blanks, rest, hBlanks⟩
    have hAfter :
        afterKeyword? "%dw".toList
            (Text.trimStart (blanks ++ "%dw".toList ++ rest)) =
          some rest :=
      afterKeyword?_trimStart_append hBlanks (by decide)
    apply List.isPrefixOf_iff_prefix.mpr
    rw [afterKeyword?_eq_some_iff.mp hAfter]
    exact List.prefix_append _ _

/- A function is read where it is written. -/
theorem functionAt?_eq_some_iff_written
    {text name arguments : Text} :
    Locator.functionAt? text = some (name, arguments) ↔
      Written (.function name arguments) text := by
  constructor
  · intro hFound
    unfold Locator.functionAt? at hFound
    split at hFound
    · rename_i hRead
      rcases Prod.mk.inj (Option.some.inj hFound) with ⟨rfl, rfl⟩
      rcases Option.bind_eq_some_iff.mp hRead with
        ⟨after, hAfter, hRest⟩
      rcases functionRest?_eq_some_iff.mp hRest with
        ⟨gap, space, rest, hGap, hSpace, hName, hApart, hArguments,
          hText⟩
      rcases exists_blanks_of_afterKeyword? hAfter with
        ⟨blanks, hBlanks, rfl⟩
      rw [hText]
      simp only [← List.append_assoc]
      exact .function hBlanks hGap hSpace hName hApart hArguments
    · cases hFound
  · intro hWritten
    rcases hWritten with
      _ | @⟨blanks, gap, _, space, _, rest, hBlanks, hGap, hSpace,
        hName, hApart, hArguments⟩
    have hAfter :
        afterKeyword? "fun".toList
            (Text.trimStart
              (blanks ++ "fun".toList ++
                (gap ++ (name ++ (space ++
                  (['('] ++ (arguments ++ [')'] ++ rest))))))) =
          some (gap ++ (name ++ (space ++
            (['('] ++ (arguments ++ [')'] ++ rest))))) :=
      afterKeyword?_trimStart_append hBlanks (by decide)
    have hRest := functionRest?_eq_some_iff.mpr
      ⟨gap, space, rest, hGap, hSpace, hName, hApart, hArguments, rfl⟩
    simp only [← List.append_assoc] at hAfter hRest
    unfold Locator.functionAt?
    rw [hAfter, Option.bind_some, hRest]

/- A variable is read where it is written. -/
theorem variableAt?_eq_some_iff_written
    {text name : Text} :
    Locator.variableAt? text = some name ↔
      Written (.variable name) text := by
  rw [Locator.variableAt?_eq_some_iff]
  constructor
  · intro hFound
    rcases hFound with
      ⟨hNamed, blanks, gap, rest, hBlanks, hGap, hApart, rfl, rfl⟩
    have hWord :
        ∀ c ∈ rest.takeWhile isWord, isWord c = true := by
      intro c hMember
      exact List.mem_takeWhile_imp hMember
    have hParts : rest.takeWhile isWord ++ rest.dropWhile isWord = rest :=
      List.takeWhile_append_dropWhile
    have hWritten :=
      Written.variable hBlanks hGap hApart hNamed hWord
        (Text.head?_dropWhile isWord rest)
    rwa [List.append_assoc, hParts] at hWritten
  · intro hWritten
    rcases hWritten with
      _ | _ | @⟨blanks, gap, _, rest, hBlanks, hGap, hApart, hNamed,
        hName, hRest⟩
    exact ⟨hNamed, blanks, gap, name ++ rest, hBlanks, hGap, hApart,
      List.append_assoc _ _ _, (Text.stretch_append hName hRest).1⟩

/- A declaration is read exactly where it is written. -/
theorem ofText?_eq_some_iff
    {text : Text}
    {declaration : Declaration} :
    ofText? text = some declaration ↔ Written declaration text := by
  rcases declaration with _ | ⟨name, arguments⟩ | name
  · rw [ofText?_eq_moduleHeader_iff, headerAt_iff_written]
  · rw [ofText?_eq_function_iff, functionAt?_eq_some_iff_written]
  · rw [ofText?_eq_variable_iff, variableAt?_eq_some_iff_written]

/- A text is the writing of one declaration at most. -/
theorem Written.unique
    {text : Text}
    {left right : Declaration}
    (hLeft : Written left text)
    (hRight : Written right text) :
    left = right := by
  rw [← ofText?_eq_some_iff] at hLeft hRight
  exact Option.some.inj (hLeft.symm.trans hRight)

end Declaration

------------------------------------------------------------
-- Blocks Before Declarations
------------------------------------------------------------

namespace Locator

/- What a search for declarations finds, block by block. -/
theorem mem_filterMap_scan
    {α : Type}
    (search : Text → Option α)
    {text : Text}
    {block : Block}
    {found : α} :
    (block, found) ∈
        (Block.scan text).filterMap (fun other =>
          (search (other.following text)).map fun detail =>
            (other, detail)) ↔
      block ∈ Block.scan text ∧
        search (block.following text) = some found := by
  rw [List.mem_filterMap]
  constructor
  · intro hFound
    rcases hFound with ⟨other, hScanned, hOther⟩
    rcases Option.map_eq_some_iff.mp hOther with ⟨detail, hAt, hEq⟩
    rcases Prod.mk.inj hEq with ⟨rfl, rfl⟩
    exact ⟨hScanned, hAt⟩
  · intro hFound
    rcases hFound with ⟨hScanned, hAt⟩
    exact ⟨block, hScanned, Option.map_eq_some_iff.mpr
      ⟨found, hAt, rfl⟩⟩

/- The blocks before functions, by the functions behind them. -/
theorem mem_functions
    {text name arguments : Text}
    {block : Block} :
    (block, name, arguments) ∈ functions text ↔
      block ∈ Block.scan text ∧
        functionAt? (block.following text) =
          some (name, arguments) :=
  mem_filterMap_scan functionAt?

/- The blocks before variables, by the variables behind them. -/
theorem mem_vars
    {text name : Text}
    {block : Block} :
    (block, name) ∈ vars text ↔
      block ∈ Block.scan text ∧
        variableAt? (block.following text) = some name :=
  mem_filterMap_scan variableAt?

/- The header block is the first one with a module header behind it. -/
theorem header?_eq_some_iff
    {text : Text}
    {block : Block} :
    header? text = some block ↔
      ∃ earlier later,
        Block.scan text = earlier ++ block :: later ∧
        headerAt (block.following text) = true ∧
        ∀ other ∈ earlier,
          ¬headerAt (other.following text) = true := by
  unfold header?
  rw [List.find?_eq_some_iff_append]
  simp only [Bool.not_eq_true', Bool.not_eq_true]
  constructor
  · intro hFound
    rcases hFound with ⟨hHeader, earlier, later, hScan, hEarlier⟩
    exact ⟨earlier, later, hScan, hHeader, hEarlier⟩
  · intro hFound
    rcases hFound with ⟨earlier, later, hScan, hHeader, hEarlier⟩
    exact ⟨hHeader, earlier, later, hScan, hEarlier⟩

end Locator

namespace Roles

open Declaration in
/-
  A block documents a function or a variable exactly when one
  is written behind it, with the name and the arguments that
  are written there, and it documents the module when it is
  the first one with a module header behind it. Nothing else
  can be read behind a block.
-/
theorem ofText_accepts
    (text : Text) :
    (∀ block name arguments,
      (block, name, arguments) ∈ (ofText text).functions ↔
        block ∈ Block.scan text ∧
          Written (.function name arguments)
            (block.following text)) ∧
    (∀ block name,
      (block, name) ∈ (ofText text).vars ↔
        block ∈ Block.scan text ∧
          Written (.variable name) (block.following text)) ∧
    (∀ block,
      (ofText text).header? = some block ↔
        ∃ earlier later,
          Block.scan text = earlier ++ block :: later ∧
          Written .moduleHeader (block.following text) ∧
          ∀ other ∈ earlier,
            ¬Written .moduleHeader (other.following text)) ∧
    (∀ (following : Text) (left right : Declaration),
      Written left following → Written right following →
        left = right) := by
  rw [functions_ofText, vars_ofText, header?_ofText]
  refine ⟨?_, ?_, ?_, ?_⟩
  · intro block name arguments
    rw [Locator.mem_functions, functionAt?_eq_some_iff_written]
  · intro block name
    rw [Locator.mem_vars, variableAt?_eq_some_iff_written]
  · intro block
    simp only [Locator.header?_eq_some_iff, headerAt_iff_written]
  · intro following left right hLeft hRight
    exact hLeft.unique hRight

open Declaration in
/- A function without a name, a variable and a module header. -/
theorem ofText_accepts_nameless :
    let text : Text :=
      "/**a*/ fun\n(x) /**b*/var\tn=1 /**c*/%dw".toList
    let following : Text :=
      " fun\n(x) /**b*/var\tn=1 /**c*/%dw".toList
    (⟨0, 6, ['a'], 1⟩, [], ['x']) ∈ (ofText text).functions ∧
      (⟨15, 21, ['b'], 2⟩, ['n']) ∈ (ofText text).vars ∧
      (ofText text).header? = some ⟨29, 35, ['c'], 2⟩ ∧
      Written (.function [] ['x']) following ∧
      ∀ declaration, Written declaration following →
        declaration = .function [] ['x'] := by
  intro text following
  have hSpace : Text.AllBlank [' '] := by decide
  have hBreak : Text.AllBlank ['\n'] := by decide
  have hTab : Text.AllBlank ['\t'] := by decide
  have hNone : Text.AllBlank [] := List.forall_mem_nil _
  have hScan :
      Block.scan text =
        [⟨0, 6, ['a'], 1⟩, ⟨15, 21, ['b'], 2⟩,
          ⟨29, 35, ['c'], 2⟩] := by
    decide +kernel
  have hFunction : Written (.function [] ['x']) following :=
    @Written.function [' '] ['\n'] [] [] ['x']
      " /**b*/var\tn=1 /**c*/%dw".toList hSpace hBreak hNone
      (List.forall_mem_nil _) (Or.inr rfl) (by decide)
  have hEnd :
      ∀ c ∈ "=1 /**c*/%dw".toList.head?, isWord c = false := by
    intro c hHead
    rw [← Option.some.inj hHead]
    decide
  have hVariable :
      Written (.variable ['n']) "var\tn=1 /**c*/%dw".toList :=
    @Written.variable [] ['\t'] ['n'] "=1 /**c*/%dw".toList hNone
      hTab (List.cons_ne_nil _ _) (List.cons_ne_nil _ _)
      (List.forall_mem_singleton.mpr (by decide)) hEnd
  have hHeader : Written .moduleHeader "%dw".toList :=
    @Written.moduleHeader [] [] hNone
  rcases ofText_accepts text with
    ⟨hFunctions, hVars, hModule, hUnique⟩
  refine ⟨?_, ?_, ?_, hFunction, ?_⟩
  · apply (hFunctions _ _ _).mpr
    refine ⟨?_, hFunction⟩
    rw [hScan]
    exact List.mem_cons_self
  · apply (hVars _ _).mpr
    refine ⟨?_, hVariable⟩
    rw [hScan]
    exact List.mem_cons_of_mem _ List.mem_cons_self
  · apply (hModule _).mpr
    refine ⟨[⟨0, 6, ['a'], 1⟩, ⟨15, 21, ['b'], 2⟩], [], hScan,
      hHeader, ?_⟩
    intro other hOther hWritten
    simp only [List.mem_cons, List.not_mem_nil, or_false] at hOther
    rcases hOther with rfl | rfl
    · exact absurd (hUnique _ _ _ hWritten hFunction) (by simp)
    · exact absurd (hUnique _ _ _ hWritten hVariable) (by simp)
  · intro declaration hWritten
    exact hUnique _ _ _ hWritten hFunction

end Roles

end Marginalia
