import Marginalia.Proofs.Source.Locators
import Marginalia.Proofs.Text.Blank
import Marginalia.Proofs.Text.Search

/-
  This file reads a source text that goes on. What has been
  read of a text up to a character that is neither blank nor
  part of a name is settled, whatever comes behind it. So the
  documented blocks of a text stay the first ones when more is
  appended; only the name of a variable at the very end of the
  text may go on.

  Key definitions include:
    * `Halts`
    * `Locator.RunsOut`

  Main results:
    * `Block.scan_append`
    * `Locator.functions_append`
    * `Locator.vars_append`
    * `Locator.header?_append`
    * `Roles.ofText_append_keeps`
-/

namespace Marginalia

------------------------------------------------------------
-- Declarations of a Longer Text
------------------------------------------------------------

/- A character that ends blanks and names. -/
structure Halts
    (c : Char) : Prop where
  blank : isBlank c = false
  word : isWord c = false

/- A slash, as in the opening mark of a block, halts. -/
theorem halts_slash : Halts '/' :=
  ⟨by decide, by decide⟩

/- A closing parenthesis halts. -/
theorem halts_parenthesis : Halts ')' :=
  ⟨by decide, by decide⟩

namespace Declaration

/- Behind blanks, a keyword is what the text starts with. -/
theorem afterKeyword?_trimStart_append
    {c : Char}
    {blanks keyword rest : Text}
    (hBlanks : blanks.AllBlank)
    (hHead : isBlank c = false) :
    afterKeyword? (c :: keyword)
        (Text.trimStart (blanks ++ (c :: keyword) ++ rest)) =
      some rest := by
  rw [List.append_assoc, Text.trimStart_append hBlanks,
    List.cons_append, Text.trimStart_cons hHead]
  exact afterKeyword?_eq_some_iff.mpr rfl

/- A keyword that a text starts with stands behind its blanks. -/
theorem exists_blanks_of_afterKeyword?
    {keyword text rest : Text}
    (hAfter :
      afterKeyword? keyword (Text.trimStart text) = some rest) :
    ∃ blanks : Text,
      blanks.AllBlank ∧ text = blanks ++ keyword ++ rest := by
  refine ⟨text.takeWhile isBlank, ?_, ?_⟩
  · intro c hMember
    exact List.mem_takeWhile_imp hMember
  · rw [List.append_assoc, ← afterKeyword?_eq_some_iff.mp hAfter]
    exact List.takeWhile_append_dropWhile.symm

section

variable
    {stop : Char}
    {text : Text}

/- A keyword that lacks the character is found as before. -/
theorem afterKeyword?_append
    {keyword : Text}
    (hKeyword : stop ∉ keyword)
    (hMember : stop ∈ text)
    (more : Text) :
    afterKeyword? keyword (text ++ more) =
      (afterKeyword? keyword text).map (· ++ more) := by
  unfold afterKeyword?
  rw [Text.isPrefixOf_append_of_mem hKeyword hMember]
  split
  · rename_i hPrefix
    rcases List.isPrefixOf_iff_prefix.mp hPrefix with ⟨rest, rfl⟩
    rw [List.append_assoc, List.drop_left, Option.map_some,
      List.drop_left]
  · rfl

/- The character then stands behind the keyword. -/
theorem mem_of_afterKeyword?
    {keyword rest : Text}
    (hKeyword : stop ∉ keyword)
    (hMember : stop ∈ text)
    (hAfter : afterKeyword? keyword text = some rest) :
    stop ∈ rest := by
  rw [afterKeyword?_eq_some_iff.mp hAfter] at hMember
  exact (List.mem_append.mp hMember).resolve_left hKeyword

/-
  What is read behind a keyword is settled by a character that
  halts and settles what is read there.
-/
theorem bind_afterKeyword?_append
    {α : Type}
    {keyword : Text}
    {read : Text → Option α}
    {more : Text}
    (hStop : Halts stop)
    (hKeyword : stop ∉ keyword)
    (hMember : stop ∈ text)
    (hRead : ∀ rest, stop ∈ rest → read (rest ++ more) = read rest) :
    (afterKeyword? keyword
        (Text.trimStart (text ++ more))).bind read =
      (afterKeyword? keyword (Text.trimStart text)).bind read := by
  have hStart := Text.mem_dropWhile hStop.blank hMember
  unfold Text.trimStart
  rw [Text.dropWhile_append_of_mem hStop.blank hMember,
    afterKeyword?_append hKeyword hStart]
  cases hAfter :
      afterKeyword? keyword (text.dropWhile isBlank) with
  | none => rfl
  | some rest =>
      exact hRead rest (mem_of_afterKeyword? hKeyword hStart hAfter)

/- A text that is not over ends a name as before. -/
theorem endsName_append
    (hMember : stop ∈ text)
    (more : Text) :
    endsName (text ++ more) = endsName text := by
  cases text with
  | nil => cases hMember
  | cons c rest => rfl

/- A variable is settled by a character that halts. -/
theorem variableRest?_append
    (hStop : Halts stop)
    (hMember : stop ∈ text)
    (more : Text) :
    variableRest? (text ++ more) = variableRest? text := by
  have hStart : (Text.trimStart (text ++ more)).takeWhile isWord =
      (Text.trimStart text).takeWhile isWord := by
    unfold Text.trimStart
    rw [Text.dropWhile_append_of_mem hStop.blank hMember,
      Text.takeWhile_append_of_mem hStop.word
        (Text.mem_dropWhile hStop.blank hMember)]
  cases text with
  | nil => cases hMember
  | cons c rest =>
      unfold variableRest?
      rw [← hStart]
      rfl

end

/- A variable is read after its blanks, up to the end of its name. -/
theorem variableRest?_eq_some_iff
    {text name : Text} :
    variableRest? text = some (.variable name) ↔
      name ≠ [] ∧
      ∃ gap rest : Text,
        gap.AllBlank ∧ gap ≠ [] ∧ text = gap ++ rest ∧
        rest.takeWhile isWord = name := by
  constructor
  · intro hRest
    unfold variableRest? at hRest
    split at hRest
    · cases hRest
    · rename_i c tail
      dsimp only at hRest
      split at hRest
      · rename_i hNamed
        rw [Bool.and_eq_true, Bool.not_eq_true'] at hNamed
        cases hRest
        refine ⟨List.isEmpty_eq_false_iff.mp hNamed.2,
          (c :: tail).takeWhile isBlank, Text.trimStart (c :: tail),
          ?_, ?_, ?_, rfl⟩
        · intro d hMember
          exact List.mem_takeWhile_imp hMember
        · rw [List.takeWhile_cons_of_pos hNamed.1]
          exact List.cons_ne_nil _ _
        · exact List.takeWhile_append_dropWhile.symm
      · cases hRest
  · intro hRead
    rcases hRead with ⟨hNamed, gap, rest, hGap, hApart, rfl, hName⟩
    -- The name opens the rest, so no blank is trimmed from it.
    have hStart : Text.trimStart (gap ++ rest) = rest := by
      rw [Text.trimStart_append hGap, Text.trimStart_eq_self_iff]
      intro c hHead
      cases rest with
      | nil => cases hHead
      | cons d tail =>
          cases hHead
          apply isBlank_of_isWord
          by_contra hWord
          rw [List.takeWhile_cons_of_neg hWord] at hName
          exact hNamed hName.symm
    cases gap with
    | nil => exact absurd rfl hApart
    | cons c gap =>
        have hBlank := hGap c List.mem_cons_self
        have hFilled := List.isEmpty_eq_false_iff.mpr hNamed
        unfold variableRest?
        rw [List.cons_append] at hStart ⊢
        dsimp only
        rw [hStart, hName, hBlank, hFilled]
        rfl

/- A function is settled by a closing parenthesis. -/
theorem functionRest?_append
    {text : Text}
    (hMember : ')' ∈ text)
    (more : Text) :
    functionRest? (text ++ more) = functionRest? text := by
  have hStart := Text.mem_dropWhile halts_parenthesis.blank hMember
  have hName := Text.mem_dropWhile halts_parenthesis.word hStart
  have hOpen := Text.mem_dropWhile halts_parenthesis.blank hName
  rw [functionRest?_eq, functionRest?_eq, endsName_append hMember]
  unfold Text.trimStart
  rw [Text.dropWhile_append_of_mem halts_parenthesis.blank hMember,
    Text.dropWhile_append_of_mem halts_parenthesis.word hStart,
    Text.dropWhile_append_of_mem halts_parenthesis.blank hName,
    Text.takeWhile_append_of_mem halts_parenthesis.word hStart,
    afterKeyword?_append (by decide) hOpen]
  cases hAfter :
      afterKeyword? ['('] ((((text.dropWhile isBlank)).dropWhile
        isWord).dropWhile isBlank) with
  | none => rfl
  | some inner =>
      have hInner := mem_of_afterKeyword? (by decide) hOpen hAfter
      rcases Text.exists_cut?_of_mem hInner with
        ⟨arguments, after, hCut⟩
      simp only [Option.map_some, Option.bind_some, hCut,
        Text.cut?_append hCut]

/- A function is not read without its closing parenthesis. -/
theorem mem_of_functionRest?
    {text : Text}
    {declaration : Declaration}
    (hRest : functionRest? text = some declaration) :
    ')' ∈ text := by
  rw [functionRest?_eq] at hRest
  split at hRest
  · rcases Option.bind_eq_some_iff.mp hRest with
      ⟨inner, hAfter, hInner⟩
    rcases Option.map_eq_some_iff.mp hInner with
      ⟨⟨arguments, after⟩, hCut, -⟩
    have hMember : ')' ∈ inner := by
      rw [Text.eq_of_cut? hCut]
      simp
    have hSuffix :
        Text.trimStart ((Text.trimStart text).dropWhile isWord) <:+
          text :=
      (Text.trimStart_isSuffix _).trans
        ((List.dropWhile_suffix isWord).trans
          (Text.trimStart_isSuffix text))
    apply hSuffix.subset
    rw [afterKeyword?_eq_some_iff.mp hAfter]
    exact List.mem_append_right _ hMember
  · cases hRest

end Declaration

namespace Locator

/- A function behind a text is settled by its parenthesis. -/
theorem functionAt?_append
    {text : Text}
    (hMember : ')' ∈ text)
    (more : Text) :
    functionAt? (text ++ more) = functionAt? text := by
  unfold functionAt?
  rw [Declaration.bind_afterKeyword?_append halts_parenthesis
    (by decide) hMember]
  intro rest hRest
  exact Declaration.functionRest?_append hRest more

/- A function is found with its parenthesis only. -/
theorem mem_of_functionAt?
    {text : Text}
    (hFound : functionAt? text ≠ none) :
    ')' ∈ text := by
  unfold functionAt? at hFound
  cases hRead :
      (Declaration.afterKeyword? "fun".toList
        (Text.trimStart text)).bind Declaration.functionRest? with
  | none =>
      rw [hRead] at hFound
      exact absurd rfl hFound
  | some declaration =>
      rcases Option.bind_eq_some_iff.mp hRead with
        ⟨rest, hAfter, hRest⟩
      apply (Text.trimStart_isSuffix text).subset
      rw [Declaration.afterKeyword?_eq_some_iff.mp hAfter]
      exact List.mem_append_right _
        (Declaration.mem_of_functionRest? hRest)

/- A variable is settled by a slash behind it. -/
theorem variableAt?_append
    {text : Text}
    (hMember : '/' ∈ text)
    (more : Text) :
    variableAt? (text ++ more) = variableAt? text := by
  unfold variableAt?
  rw [Declaration.bind_afterKeyword?_append halts_slash
    (by decide) hMember]
  intro rest hRest
  exact Declaration.variableRest?_append halts_slash hRest more

/- A module header is settled by a slash behind it. -/
theorem headerAt_append
    {text : Text}
    (hMember : '/' ∈ text)
    (more : Text) :
    headerAt (text ++ more) = headerAt text := by
  have hStart := Text.mem_dropWhile halts_slash.blank hMember
  unfold headerAt Text.trimStart
  rw [Text.dropWhile_append_of_mem halts_slash.blank hMember,
    Text.isPrefixOf_append_of_mem (by decide) hStart]

/- A module header that is there stays there. -/
theorem headerAt_append_of_headerAt
    {text : Text}
    (hHeader : headerAt text = true)
    (more : Text) :
    headerAt (text ++ more) = true := by
  unfold headerAt at hHeader ⊢
  rcases List.isPrefixOf_iff_prefix.mp hHeader with ⟨rest, hRest⟩
  unfold Text.trimStart at hRest ⊢
  rw [List.dropWhile_append, ← hRest]
  simp

/-
  A text that ends with the declaration of the variable of the
  given name.
-/
structure RunsOut
    (text name : Text) : Prop where
  named : name ≠ []
  word : ∀ c ∈ name, isWord c = true
  declared :
    ∃ blanks gap : Text,
      blanks.AllBlank ∧ gap.AllBlank ∧ gap ≠ [] ∧
      text = blanks ++ "var".toList ++ gap ++ name

/- Where a variable is declared, and what its name is. -/
theorem variableAt?_eq_some_iff
    {text name : Text} :
    variableAt? text = some name ↔
      name ≠ [] ∧
      ∃ blanks gap rest : Text,
        blanks.AllBlank ∧ gap.AllBlank ∧ gap ≠ [] ∧
        text = blanks ++ "var".toList ++ gap ++ rest ∧
        rest.takeWhile isWord = name := by
  constructor
  · intro hFound
    unfold variableAt? at hFound
    split at hFound
    · rename_i found hRead
      cases hFound
      rcases Option.bind_eq_some_iff.mp hRead with
        ⟨after, hAfter, hRest⟩
      rcases Declaration.variableRest?_eq_some_iff.mp hRest with
        ⟨hNamed, gap, rest, hGap, hApart, rfl, hName⟩
      rcases Declaration.exists_blanks_of_afterKeyword? hAfter with
        ⟨blanks, hBlanks, hText⟩
      rw [← List.append_assoc] at hText
      exact ⟨hNamed, blanks, gap, rest, hBlanks, hGap, hApart, hText,
        hName⟩
    · cases hFound
  · intro hDeclared
    rcases hDeclared with
      ⟨hNamed, blanks, gap, rest, hBlanks, hGap, hApart, rfl, hName⟩
    have hAfter :
        Declaration.afterKeyword? "var".toList
          (Text.trimStart
            (blanks ++ "var".toList ++ gap ++ rest)) =
          some (gap ++ rest) := by
      rw [List.append_assoc]
      exact Declaration.afterKeyword?_trimStart_append hBlanks
        (by decide)
    have hRest :
        Declaration.variableRest? (gap ++ rest) =
          some (.variable name) :=
      Declaration.variableRest?_eq_some_iff.mpr
        ⟨hNamed, gap, rest, hGap, hApart, rfl, hName⟩
    unfold variableAt?
    rw [hAfter, Option.bind_some, hRest]

/-
  A variable keeps its name in a longer text, unless its text
  runs out with the name: then the name goes on.
-/
theorem variableAt?_append_cases
    {text name : Text}
    (hFound : variableAt? text = some name)
    (more : Text) :
    variableAt? (text ++ more) = some name ∨
      RunsOut text name ∧
        variableAt? (text ++ more) =
          some (name ++ more.takeWhile isWord) := by
  rcases variableAt?_eq_some_iff.mp hFound with
    ⟨hNamed, blanks, gap, rest, hBlanks, hGap, hApart, hText, hName⟩
  have hLonger :
      text ++ more =
        blanks ++ "var".toList ++ gap ++ (rest ++ more) := by
    rw [hText, List.append_assoc _ rest]
  by_cases hOver : (rest.takeWhile isWord).length = rest.length
  · right
    have hWhole : rest = name := by
      rw [← hName]
      exact ((List.takeWhile_prefix isWord).eq_of_length hOver).symm
    have hTaken :
        (rest ++ more).takeWhile isWord =
          name ++ more.takeWhile isWord := by
      rw [List.takeWhile_append, if_pos hOver, hWhole]
    refine ⟨⟨hNamed, ?_, blanks, gap, hBlanks, hGap, hApart, ?_⟩,
      variableAt?_eq_some_iff.mpr ⟨?_, blanks, gap, rest ++ more,
        hBlanks, hGap, hApart, hLonger, hTaken⟩⟩
    · intro c hMember
      rw [← hName] at hMember
      exact List.mem_takeWhile_imp hMember
    · rw [hText, hWhole]
    · exact List.append_ne_nil_of_left_ne_nil hNamed _
  · left
    have hTaken : (rest ++ more).takeWhile isWord = name := by
      rw [List.takeWhile_append, if_neg hOver, hName]
    exact variableAt?_eq_some_iff.mpr
      ⟨hNamed, blanks, gap, rest ++ more, hBlanks, hGap, hApart,
        hLonger, hTaken⟩

end Locator

------------------------------------------------------------
-- Blocks of a Longer Text
------------------------------------------------------------

namespace Block

/- The next block stays the next one. -/
theorem next?_append
    {offset line : Nat}
    {text after : Text}
    {block : Block}
    (hNext : next? offset line text = some (block, after))
    (more : Text) :
    next? offset line (text ++ more) =
      some (block, after ++ more) := by
  rcases next?_eq_some_iff.mp hNext with
    ⟨before, opened, hOpen, hClose, hPlace⟩
  exact next?_eq_some_iff.mpr
    ⟨before, opened ++ more, Text.cut?_append hOpen more,
      Text.cut?_append hClose more, hPlace⟩

/- The blocks of a text are the first ones of a longer text. -/
theorem scanFrom_append
    (offset line : Nat)
    (text more : Text) :
    scanFrom offset line text <+:
      scanFrom offset line (text ++ more) := by
  fun_induction scanFrom offset line text with
  | case1 => exact List.nil_prefix
  | case2 offset line text block after hNext ih =>
      rw [scanFrom_of_some (next?_append hNext more)]
      exact List.cons_prefix_cons.mpr ⟨rfl, ih⟩

/- The blocks of a text are the first ones of a longer text. -/
theorem scan_append
    (text more : Text) :
    scan text <+: scan (text ++ more) :=
  scanFrom_append 0 1 text more

/- A block of a text lies in it, and its opening mark does. -/
theorem placed_of_mem_scanFrom
    (offset line : Nat)
    (text : Text) :
    ∀ block ∈ scanFrom offset line text,
      block.stop ≤ offset + text.length ∧
      ∃ before opened : Text,
        text = before ++ openMark ++ opened ∧
        block.start = offset + before.length := by
  fun_induction scanFrom offset line text with
  | case1 => simp
  | case2 offset line text first after hNext ih =>
      rcases exists_taken_of_next? hNext with ⟨taken, rfl, hStop⟩
      intro block hMember
      rcases List.mem_cons.mp hMember with rfl | hLater
      · rcases next?_eq_some_iff.mp hNext with
          ⟨before, opened, hOpen, -, hStart, -⟩
        refine ⟨?_, before, opened, Text.eq_of_cut? hOpen, hStart⟩
        rw [List.length_append]
        omega
      · rcases ih block hLater with
          ⟨hInside, before, opened, rfl, hStart⟩
        refine ⟨?_, taken ++ before, opened, ?_, ?_⟩
        · rw [List.length_append]
          omega
        · simp only [List.append_assoc]
        · rw [List.length_append]
          omega

/- More text follows every block that is already there. -/
theorem following_append
    {text : Text}
    {block : Block}
    (hBlock : block ∈ scan text)
    (more : Text) :
    block.following (text ++ more) = block.following text ++ more := by
  rcases placed_of_mem_scanFrom 0 1 text block hBlock with
    ⟨hInside, -⟩
  unfold following
  exact List.drop_append_of_le_length (by omega)

/- What follows a later block also follows the earlier ones. -/
theorem scan_pairwise_following
    (text : Text) :
    (scan text).Pairwise fun earlier later =>
      later.following text <:+ earlier.following text := by
  apply (scan_pairwise text).imp_of_mem
  intro earlier later hEarlier hLater hStop
  have hStart := start_lt_stop later hLater
  unfold following
  exact List.drop_suffix_drop_left text (by omega)

/- The opening mark of a later block follows the earlier ones. -/
theorem scan_pairwise_slash
    (text : Text) :
    (scan text).Pairwise fun earlier _ =>
      '/' ∈ earlier.following text := by
  apply (scan_pairwise text).imp_of_mem
  intro earlier later hEarlier hLater hStop
  rcases placed_of_mem_scanFrom 0 1 text later hLater with
    ⟨-, before, opened, hText, hStart⟩
  unfold following
  rw [hText, List.append_assoc,
    List.drop_append_of_le_length (by omega)]
  apply List.mem_append_right
  simp [openMark]

end Block

------------------------------------------------------------
-- Documented Blocks of a Longer Text
------------------------------------------------------------

namespace Locator

/-
  Two searches through the same list, where whatever the first
  one finds is found by the second one and settles the answers
  before it: what the first one finds comes first.
-/
theorem filterMap_isPrefix_of_settled
    {α β : Type}
    {found later : α → Option β}
    {entries : List α}
    (hKept :
      ∀ entry ∈ entries, found entry ≠ none →
        later entry = found entry)
    (hSettled :
      entries.Pairwise fun entry next =>
        found next ≠ none → later entry = found entry) :
    entries.filterMap found <+: entries.filterMap later := by
  induction entries with
  | nil => exact List.nil_prefix
  | cons entry rest ih =>
      rcases List.pairwise_cons.mp hSettled with ⟨hEntry, hRest⟩
      have hLater :
          rest.filterMap found <+: rest.filterMap later := by
        apply ih _ hRest
        intro next hNext
        exact hKept next (List.mem_cons_of_mem entry hNext)
      by_cases hSame : later entry = found entry
      · rw [List.filterMap_cons, List.filterMap_cons, hSame]
        cases found entry with
        | none => exact hLater
        | some answer =>
            exact List.cons_prefix_cons.mpr ⟨rfl, hLater⟩
      · -- An answer that changes was none, and none follows it.
        have hNone :
            ∀ next ∈ entry :: rest, found next = none := by
          intro next hNext
          by_contra hFound
          rcases List.mem_cons.mp hNext with rfl | hNext
          · exact hSame (hKept next List.mem_cons_self hFound)
          · exact hSame (hEntry next hNext hFound)
        rw [List.filterMap_eq_nil_iff.mpr hNone]
        exact List.nil_prefix

/- The functions of a text are the first ones of a longer text. -/
theorem functions_append
    (text more : Text) :
    functions text <+: functions (text ++ more) := by
  have hSame :
      ∀ block ∈ Block.scan text, ')' ∈ block.following text →
        functionAt? (block.following (text ++ more)) =
          functionAt? (block.following text) := by
    intro block hBlock hMember
    rw [Block.following_append hBlock]
    exact functionAt?_append hMember more
  unfold functions
  apply List.IsPrefix.trans _
    ((Block.scan_append text more).filterMap _)
  apply filterMap_isPrefix_of_settled
  · intro block hBlock hSome
    rw [Ne, Option.map_eq_none_iff] at hSome
    rw [hSame block hBlock (mem_of_functionAt? hSome)]
  · apply (Block.scan_pairwise_following text).imp_of_mem
    intro block next hBlock hNext hSuffix hSome
    rw [Ne, Option.map_eq_none_iff] at hSome
    rw [hSame block hBlock
      (hSuffix.subset (mem_of_functionAt? hSome))]

/- The blocks before module headers stay the first ones. -/
theorem headers_append
    (text more : Text) :
    ((Block.scan text).filter fun block =>
      headerAt (block.following text)) <+:
    ((Block.scan (text ++ more)).filter fun block =>
      headerAt (block.following (text ++ more))) := by
  rw [← List.filterMap_eq_filter, ← List.filterMap_eq_filter]
  apply List.IsPrefix.trans _
    ((Block.scan_append text more).filterMap _)
  apply filterMap_isPrefix_of_settled
  · intro block hBlock hSome
    simp only [Option.guard, ne_eq, ite_eq_right_iff, reduceCtorEq,
      imp_false, not_not, Block.following_append hBlock] at hSome ⊢
    simp only [hSome, headerAt_append_of_headerAt hSome]
  · apply (Block.scan_pairwise_slash text).imp_of_mem
    intro block next hBlock hNext hMember hSome
    simp only [Option.guard, Block.following_append hBlock,
      headerAt_append hMember]

/- The block of the module stays the one that a search finds. -/
theorem header?_append
    {text : Text}
    {block : Block}
    (hHeader : header? text = some block)
    (more : Text) :
    header? (text ++ more) = some block := by
  unfold header? at hHeader ⊢
  rw [← List.head?_filter] at hHeader ⊢
  rcases headers_append text more with ⟨rest, hRest⟩
  rw [← hRest, List.head?_append, hHeader]
  rfl

/-
  The variables of a text are the first ones of a longer text,
  unless the text runs out with the name of the last one.
-/
theorem vars_append
    (text more : Text) :
    vars text <+: vars (text ++ more) ∨
      ∃ (earlier : List (Block × Text))
        (block : Block)
        (name : Text)
        (later : List (Block × Text)),
        vars text = earlier ++ [(block, name)] ∧
        RunsOut (block.following text) name ∧
        vars (text ++ more) =
          earlier ++
            (block, name ++ more.takeWhile isWord) :: later := by
  rcases Block.scan_append text more with ⟨rest, hRest⟩
  have hSlash := Block.scan_pairwise_slash text
  rcases List.eq_nil_or_concat (Block.scan text) with
    hScan | ⟨init, last, hScan⟩
  · left
    unfold vars
    rw [hScan]
    exact List.nil_prefix
  · rw [List.concat_eq_append] at hScan
    rw [hScan] at hSlash hRest
    have hLast : last ∈ Block.scan text := by
      simp [hScan]
    -- Only the last block has no other one behind it.
    have hInit :
        ∀ block ∈ init,
          variableAt? (block.following (text ++ more)) =
            variableAt? (block.following text) := by
      intro block hBlock
      have hMember : block ∈ Block.scan text := by
        simp [hScan, hBlock]
      have hBehind : '/' ∈ block.following text := by
        rcases List.pairwise_append.mp hSlash with ⟨-, -, hBehind⟩
        exact hBehind block hBlock last List.mem_cons_self
      rw [Block.following_append hMember]
      exact variableAt?_append hBehind more
    have hEarlier :
        (init.filterMap fun block =>
          (variableAt? (block.following (text ++ more))).map
            fun name => (block, name)) =
        init.filterMap fun block =>
          (variableAt? (block.following text)).map
            fun name => (block, name) := by
      apply List.filterMap_congr
      intro block hBlock
      rw [hInit block hBlock]
    unfold vars
    rw [← hRest, hScan, List.append_assoc, List.filterMap_append,
      List.filterMap_append, hEarlier, List.singleton_append,
      List.filterMap_cons, List.filterMap_cons, List.filterMap_nil,
      Block.following_append hLast]
    cases hFound : variableAt? (last.following text) with
    | none =>
        left
        simp
    | some name =>
        rcases variableAt?_append_cases hFound more with
          hKept | ⟨hOut, hLonger⟩
        · left
          simp [hKept]
        · right
          rw [hLonger]
          exact ⟨_, last, name, _, rfl, hOut, rfl⟩

end Locator

/- A separator that is there stays the first one. -/
theorem bodyStart?_append
    {text : Text}
    {start : Nat}
    (hStart : bodyStart? text = some start)
    (more : Text) :
    bodyStart? (text ++ more) = some start := by
  unfold bodyStart? at hStart ⊢
  rcases Option.map_eq_some_iff.mp hStart with
    ⟨⟨before, after⟩, hCut, hPlace⟩
  rw [Text.cut?_append hCut more]
  exact congrArg some hPlace

namespace Roles

/-
  Appending to a text disturbs nothing that is documented in
  it: its blocks, its functions and its variables stay the
  first ones, and its header block and the start of its body
  stay where they are. Only where the text ends with the name
  of a variable, that name goes on with the appended text.
-/
theorem ofText_append_keeps
    (text more : Text) :
    Block.scan text <+: Block.scan (text ++ more) ∧
    (ofText text).functions <+: (ofText (text ++ more)).functions ∧
    ((ofText text).vars <+: (ofText (text ++ more)).vars ∨
      ∃ (earlier : List (Block × Text))
        (block : Block)
        (name : Text)
        (later : List (Block × Text)),
        (ofText text).vars = earlier ++ [(block, name)] ∧
        Locator.RunsOut (block.following text) name ∧
        (ofText (text ++ more)).vars =
          earlier ++
            (block, name ++ more.takeWhile isWord) :: later) ∧
    (∀ block, (ofText text).header? = some block →
      (ofText (text ++ more)).header? = some block) ∧
    (∀ start, bodyStart? text = some start →
      bodyStart? (text ++ more) = some start) := by
  rw [functions_ofText, functions_ofText, vars_ofText, vars_ofText,
    header?_ofText, header?_ofText]
  refine ⟨Block.scan_append text more,
    Locator.functions_append text more,
    Locator.vars_append text more, ?_, ?_⟩
  · intro block hHeader
    exact Locator.header?_append hHeader more
  · intro start hStart
    exact bodyStart?_append hStart more

/- A text that ends within the name of a variable of its body. -/
theorem ofText_append_keeps_name :
    let text : Text := "/**m*/%dw---/**v*/var na".toList
    let longer : Text := text ++ "me".toList
    (ofText text).header? = some ⟨0, 6, ['m'], 1⟩ ∧
      (ofText longer).header? = some ⟨0, 6, ['m'], 1⟩ ∧
      bodyStart? text = some 12 ∧
      bodyStart? longer = some 12 ∧
      (ofText text).vars =
        [(⟨12, 18, ['v'], 1⟩, "na".toList)] ∧
      (ofText longer).vars =
        [(⟨12, 18, ['v'], 1⟩, "name".toList)] := by
  intro text longer
  have hHeader :
      (ofText text).header? = some ⟨0, 6, ['m'], 1⟩ := by
    decide +kernel
  have hStart : bodyStart? text = some 12 := by
    decide +kernel
  rcases ofText_append_keeps text "me".toList with
    ⟨-, -, -, hHeaderKept, hStartKept⟩
  exact ⟨hHeader, hHeaderKept _ hHeader, hStart,
    hStartKept 12 hStart, by decide +kernel, by decide +kernel⟩

end Roles

end Marginalia
