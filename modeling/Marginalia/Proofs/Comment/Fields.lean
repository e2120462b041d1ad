import Mathlib.Data.List.DropRight
import Marginalia.Comment.Fields
import Marginalia.Proofs.Text.Lines
import Marginalia.Proofs.Text.Replace

/-
  This file writes fields as a value and shows that cutting a
  value into fields undoes this: a value is written by exactly
  one list of fields of which none but the last ends in two
  backslashes, and these are its fields, with their commas
  escaped or plain.

  Key definitions include:
    * `Fields.Commas.write`
    * `Fields.written`
    * `Fields.Separable`
    * `Fields.keep`

  Main results:
    * `Fields.cut_written`
    * `Fields.written_cut`
    * `Fields.separable_cut`
    * `Fields.cut_eq_map_write`
    * `Fields.keep_eq_self_iff`
-/

namespace Marginalia

namespace Text

------------------------------------------------------------
-- First Parts
------------------------------------------------------------

/- There is always a first part. -/
theorem prepend_ne_nil
    (front : Text)
    (parts : List Text) :
    prepend front parts ≠ [] := by
  cases parts with
  | nil => exact List.cons_ne_nil front []
  | cons first rest => exact List.cons_ne_nil (front ++ first) rest

/- What is put in front twice is put in front together. -/
theorem prepend_prepend
    (first second : Text)
    {parts : List Text}
    (hParts : parts ≠ []) :
    prepend first (prepend second parts) =
      prepend (first ++ second) parts := by
  rcases List.exists_cons_of_ne_nil hParts with ⟨part, rest, rfl⟩
  simp only [prepend, List.append_assoc]

end Text

namespace Fields

------------------------------------------------------------
-- Written Fields
------------------------------------------------------------

/- The backslashes that escape the comma behind them. -/
def escape : Text :=
  ['\\', '\\']

theorem comma_notMem_escape :
    ',' ∉ escape := by
  decide

namespace Commas

/- A field with its commas in one of the two ways. -/
def write
    (commas : Commas)
    (field : Text) : Text :=
  field.replaceAll [','] commas.text

/- Plain commas are written as they are. -/
theorem write_plain
    (field : Text) :
    plain.write field = field := by
  unfold write
  rw [Text.replaceAll_singleton]
  induction field with
  | nil => rfl
  | cons c rest ih =>
      rw [List.flatMap_cons, ih]
      split
      · rename_i hEq
        rw [hEq]
        rfl
      · rfl

/- A comma is written in its way. -/
theorem write_cons_comma
    (commas : Commas)
    (rest : Text) :
    commas.write (',' :: rest) = commas.text ++ commas.write rest :=
  Text.replaceAll_cons_self ',' rest commas.text

/- Any other character is written as it is. -/
theorem write_cons_of_ne
    {c : Char}
    (hNe : c ≠ ',')
    (commas : Commas)
    (rest : Text) :
    commas.write (c :: rest) = c :: commas.write rest :=
  Text.replaceAll_cons_of_ne hNe rest commas.text

/- Texts are written one after the other. -/
theorem write_append
    (commas : Commas)
    (first last : Text) :
    commas.write (first ++ last) =
      commas.write first ++ commas.write last :=
  Text.replaceAll_singleton_append first last ',' commas.text

/- Only an empty field is written as an empty one. -/
theorem write_eq_nil_iff
    {commas : Commas}
    {field : Text} :
    commas.write field = [] ↔ field = [] := by
  cases field with
  | nil => simp [write]
  | cons c rest =>
      by_cases hEq : c = ','
      · rw [hEq, write_cons_comma]
        cases commas with
        | escaped => simp [text]
        | plain => simp [text]
      · rw [write_cons_of_ne hEq]
        simp

/- A field that is escaped does not open with a comma. -/
theorem head?_write_ne
    {field : Text}
    (hField : field ≠ []) :
    (escaped.write field).head? ≠ some ',' := by
  rcases List.exists_cons_of_ne_nil hField with ⟨c, rest, rfl⟩
  by_cases hEq : c = ','
  · rw [hEq, write_cons_comma]
    simp [text]
  · rw [write_cons_of_ne hEq]
    simpa using hEq

/- A written field has all its characters. -/
theorem mem_write
    (commas : Commas)
    {field : Text}
    {c : Char}
    (hMember : c ∈ field) :
    c ∈ commas.write field := by
  unfold write
  rw [Text.replaceAll_singleton, List.mem_flatMap]
  refine ⟨c, hMember, ?_⟩
  split
  · rename_i hEq
    rw [hEq]
    cases commas with
    | escaped => simp [text]
    | plain => simp [text]
  · exact List.mem_singleton.mpr rfl

/- A field is read back from its escaped form. -/
theorem replaceAll_write
    (field : Text) :
    (escaped.write field).replaceAll escaped.text plain.text =
      field := by
  have hComma : ',' ∈ escape ++ [','] := by simp
  exact Text.replaceAll_replaceAll
    (Text.unbordered_of_last comma_notMem_escape)
    (List.ne_nil_of_mem hComma) (Or.inl hComma)

/- In the escaped form every comma stands behind its escape. -/
theorem guarded_write
    (field : Text) :
    Text.Guarded escape ',' (escaped.write field) :=
  Text.guarded_replaceAll comma_notMem_escape field

end Commas

/- Fields as the value that declares them. -/
def written
    (fields : List Text) : Text :=
  Text.join [','] (fields.map Commas.escaped.write)

/-
  Fields of which none but the last ends in an escape, so that
  no comma between them is taken for one of theirs.
-/
def Separable
    (fields : List Text) : Prop :=
  ∀ field ∈ fields.dropLast, ¬escape <:+ field

/- A single field is written alone. -/
theorem written_singleton
    (field : Text) :
    written [field] = Commas.escaped.write field :=
  Text.join_singleton [','] (Commas.escaped.write field)

/- The first field is written before a comma and the others. -/
theorem written_cons
    (field : Text)
    {rest : List Text}
    (hRest : rest ≠ []) :
    written (field :: rest) =
      Commas.escaped.write field ++ ',' :: written rest := by
  unfold written
  rw [List.map_cons, Text.join_cons [','] _ (by simpa using hRest),
    List.append_assoc, List.singleton_append]

/- What is put in front of the fields is written first. -/
theorem written_prepend
    (front : Text)
    {fields : List Text}
    (hFields : fields ≠ []) :
    written (Text.prepend front fields) =
      Commas.escaped.write front ++ written fields := by
  rcases List.exists_cons_of_ne_nil hFields with ⟨first, rest, rfl⟩
  by_cases hRest : rest = []
  · rw [hRest, Text.prepend, written_singleton, written_singleton,
      Commas.write_append]
  · rw [Text.prepend, written_cons _ hRest, written_cons _ hRest,
      Commas.write_append, List.append_assoc]

/- The last field is written behind the others and a comma. -/
theorem written_concat
    {fields : List Text}
    (hFields : fields ≠ [])
    (field : Text) :
    written (fields ++ [field]) =
      written fields ++ ',' :: Commas.escaped.write field := by
  unfold written
  rw [List.map_append, List.map_singleton,
    Text.join_append [','] (by simpa using hFields)
      (List.cons_ne_nil _ []),
    Text.join_singleton, List.append_assoc, List.singleton_append]

/- Empty fields at the end are written as commas. -/
theorem written_append_replicate
    {fields : List Text}
    (hFields : fields ≠ [])
    (count : Nat) :
    written (fields ++ List.replicate count []) =
      written fields ++ List.replicate count ',' := by
  induction count with
  | zero => simp
  | succ count ih =>
      have hMore : fields ++ List.replicate count [] ≠ [] :=
        List.append_ne_nil_of_left_ne_nil hFields _
      rw [List.replicate_succ', List.replicate_succ',
        ← List.append_assoc, written_concat hMore, ih,
        List.append_assoc]
      rfl

/- Fields are separable by their first one and the others. -/
theorem separable_cons_iff
    {field : Text}
    {rest : List Text} :
    Separable (field :: rest) ↔
      (rest ≠ [] → ¬escape <:+ field) ∧ Separable rest := by
  unfold Separable
  cases rest with
  | nil => simp
  | cons second rest => simp

------------------------------------------------------------
-- Cutting What Is Written
------------------------------------------------------------

/- There is always a field. -/
theorem cut_ne_nil
    (commas : Commas)
    (value : Text) :
    cut commas value ≠ [] := by
  unfold cut
  split
  · exact List.cons_ne_nil [] []
  · exact Text.prepend_ne_nil _ _
  · exact List.cons_ne_nil [] _
  · exact Text.prepend_ne_nil _ _

/- An escaped comma goes to the field at hand. -/
theorem cut_escaped_append
    (commas : Commas)
    (rest : Text) :
    cut commas (Commas.escaped.text ++ rest) =
      Text.prepend commas.text (cut commas rest) :=
  rfl

/- So does any character but a comma that opens no escaped one. -/
theorem cut_cons_of_not_opens
    {c : Char}
    {rest : Text}
    (hEscaped : ¬Commas.escaped.text <+: c :: rest)
    (hComma : c ≠ ',')
    (commas : Commas) :
    cut commas (c :: rest) = Text.prepend [c] (cut commas rest) := by
  rw [cut]
  · rintro after rfl rfl
    exact hEscaped ⟨after, rfl⟩
  · exact hComma

/-
  No escaped comma opens with a character before a written
  field: neither the commas of the field nor the one behind it
  can be the end of it.
-/
theorem not_opens_write
    {c : Char}
    {field back : Text}
    (hBack :
      back = [] ∨ back.head? = some ',' ∧ ¬escape <:+ c :: field) :
    ¬Commas.escaped.text <+:
      c :: (Commas.escaped.write field ++ back) := by
  intro hOpens
  rcases List.cons_prefix_cons.mp hOpens with ⟨hFirst, hOpens⟩
  cases field with
  | nil =>
      -- What follows would open with a backslash.
      rcases hOpens with ⟨rest, hBackslash⟩
      rw [Commas.write, Text.replaceAll_nil, List.nil_append] at hBackslash
      rw [← hBackslash] at hBack
      simp at hBack
  | cons d field =>
      by_cases hEq : d = ','
      · rw [hEq, Commas.write_cons_comma] at hOpens
        simp [Commas.text] at hOpens
      · rw [Commas.write_cons_of_ne hEq, List.cons_append,
          List.cons_prefix_cons] at hOpens
        rcases hOpens with ⟨hSecond, rest, hThird⟩
        have hHead :
            (Commas.escaped.write field ++ back).head? = some ',' := by
          rw [← hThird]
          rfl
        by_cases hField : field = []
        · -- The comma would be the one behind the field.
          rw [hField, Commas.write, Text.replaceAll_nil,
            List.nil_append] at hHead
          rcases hBack with hNone | ⟨-, hOpen⟩
          · rw [hNone] at hHead
            simp at hHead
          · rw [hField, ← hFirst, ← hSecond] at hOpen
            exact hOpen (List.suffix_refl escape)
        · rw [List.head?_append_of_ne_nil _
            (mt Commas.write_eq_nil_iff.mp hField)] at hHead
          exact Commas.head?_write_ne hField hHead

/-
  A written field is cut off what follows it, if this is
  nothing or a comma that the field does not escape.
-/
theorem cut_write_append
    (commas : Commas)
    (field : Text)
    {back : Text}
    (hBack : back = [] ∨ back.head? = some ',' ∧ ¬escape <:+ field) :
    cut commas (Commas.escaped.write field ++ back) =
      Text.prepend (commas.write field) (cut commas back) := by
  induction field with
  | nil =>
      rcases List.exists_cons_of_ne_nil (cut_ne_nil commas back) with
        ⟨first, rest, hCut⟩
      simp only [Commas.write, Text.replaceAll_nil, List.nil_append,
        hCut, Text.prepend]
  | cons c field ih =>
      have hRest :
          back = [] ∨ back.head? = some ',' ∧ ¬escape <:+ field := by
        apply hBack.imp_right
        intro hComma
        exact ⟨hComma.1, fun hEnds =>
          hComma.2 (hEnds.trans (List.suffix_cons c field))⟩
      by_cases hComma : c = ','
      · rw [hComma, Commas.write_cons_comma, Commas.write_cons_comma,
          List.append_assoc, cut_escaped_append, ih hRest,
          Text.prepend_prepend _ _ (cut_ne_nil commas back)]
      · rw [Commas.write_cons_of_ne hComma,
          Commas.write_cons_of_ne hComma, List.cons_append,
          cut_cons_of_not_opens (not_opens_write hBack) hComma,
          ih hRest, Text.prepend_prepend _ _ (cut_ne_nil commas back),
          List.singleton_append]

/- Separable fields are cut as they were written. -/
theorem cut_written
    (commas : Commas)
    {fields : List Text}
    (hNonempty : fields ≠ [])
    (hSeparable : Separable fields) :
    cut commas (written fields) = fields.map commas.write := by
  induction fields with
  | nil => exact absurd rfl hNonempty
  | cons field rest ih =>
      rw [separable_cons_iff] at hSeparable
      by_cases hRest : rest = []
      · have hField := cut_write_append commas field (Or.inl rfl)
        rw [List.append_nil] at hField
        rw [hRest, written_singleton, hField]
        simp [cut, Text.prepend]
      · rw [written_cons field hRest,
          cut_write_append commas field
            (Or.inr ⟨rfl, hSeparable.1 hRest⟩),
          cut, ih hRest hSeparable.2, Text.prepend, List.append_nil,
          List.map_cons]

------------------------------------------------------------
-- Writing What Is Cut
------------------------------------------------------------

/- The fields of a value are written as the value. -/
theorem written_cut
    (value : Text) :
    written (cut .plain value) = value := by
  fun_induction cut .plain value with
  | case1 => rfl
  | case2 rest ih =>
      rw [written_prepend _ (cut_ne_nil .plain rest), ih]
      rfl
  | case3 rest ih =>
      rw [written_cons [] (cut_ne_nil .plain rest), ih]
      rfl
  | case4 c rest hEscaped hComma ih =>
      rw [written_prepend _ (cut_ne_nil .plain rest), ih,
        Commas.write_cons_of_ne hComma]
      rfl

/- A character in front of the fields can complete an escape only. -/
theorem separable_prepend
    {c : Char}
    {fields : List Text}
    (hFields : Separable fields)
    (hEscape :
      ∀ first rest, fields = first :: rest → rest ≠ [] →
        escape ≠ c :: first) :
    Separable (Text.prepend [c] fields) := by
  cases fields with
  | nil => simp [Separable, Text.prepend]
  | cons first rest =>
      rw [separable_cons_iff] at hFields
      rw [Text.prepend, List.singleton_append, separable_cons_iff]
      refine ⟨?_, hFields.2⟩
      intro hRest hEnds
      rcases List.suffix_cons_iff.mp hEnds with hWhole | hInside
      · exact hEscape first rest rfl hRest hWhole
      · exact hFields.1 hRest hInside

/- The fields of a value are separable. -/
theorem separable_cut
    (value : Text) :
    Separable (cut .plain value) := by
  fun_induction cut .plain value with
  | case1 => simp [Separable]
  | case2 rest ih =>
      apply separable_prepend ih
      intro first more hCut hMore hEscape
      exact absurd (List.cons.inj hEscape).1 (by decide)
  | case3 rest ih =>
      rw [separable_cons_iff]
      exact ⟨fun _ hEnds => absurd hEnds.length_le (by decide), ih⟩
  | case4 c rest hEscaped hComma ih =>
      apply separable_prepend ih
      intro first more hCut hMore hEscape
      -- The comma behind the escape would have been read with it.
      rcases List.cons.inj hEscape with ⟨hFirst, hSecond⟩
      apply hEscaped (written more) hFirst.symm
      rw [← written_cut rest, hCut, ← hSecond, written_cons _ hMore]
      rfl

/- The fields in one way are the plain ones, written so. -/
theorem cut_eq_map_write
    (commas : Commas)
    (value : Text) :
    cut commas value = (cut .plain value).map commas.write := by
  have hCut := cut_written commas (cut_ne_nil .plain value)
    (separable_cut value)
  rwa [written_cut] at hCut

/- Exactly separable fields are cut as they were written. -/
theorem cut_written_eq_iff
    {fields : List Text}
    (hNonempty : fields ≠ []) :
    cut .plain (written fields) = fields ↔ Separable fields := by
  constructor
  · intro hCut
    rw [← hCut]
    exact separable_cut (written fields)
  · intro hSeparable
    rw [cut_written .plain hNonempty hSeparable]
    exact List.map_id'' Commas.write_plain fields

------------------------------------------------------------
-- Kept Fields
------------------------------------------------------------

/- The first field, and the others without empty ones at the end. -/
def keep : List Text → List Text
  | [] => []
  | first :: rest => first :: dropTrailingEmpty rest

/- The empty fields at the end are dropped as the library does. -/
theorem dropTrailingEmpty_eq_rdropWhile
    (fields : List Text) :
    dropTrailingEmpty fields = fields.rdropWhile List.isEmpty := by
  induction fields with
  | nil => rfl
  | cons field rest ih =>
      have hStep :
          (field :: rest).rdropWhile List.isEmpty =
            if rest.rdropWhile List.isEmpty = [] then
              [field].rdropWhile List.isEmpty
            else field :: rest.rdropWhile List.isEmpty := by
        unfold List.rdropWhile
        rw [List.reverse_cons, List.dropWhile_append]
        simp only [List.isEmpty_iff, List.reverse_eq_nil_iff]
        split
        · rfl
        · rw [List.reverse_append, List.reverse_singleton,
            List.singleton_append]
      rw [dropTrailingEmpty, ih, hStep, List.rdropWhile_singleton]
      cases rest.rdropWhile List.isEmpty with
      | nil => rfl
      | cons first more => rfl

/- Writing fields does not change which of them are kept. -/
theorem keep_map_write
    (commas : Commas)
    (fields : List Text) :
    keep (fields.map commas.write) = (keep fields).map commas.write := by
  have hEmpty : List.isEmpty ∘ commas.write = List.isEmpty := by
    funext field
    rw [Function.comp_apply, Bool.eq_iff_iff, List.isEmpty_iff,
      List.isEmpty_iff]
    exact Commas.write_eq_nil_iff
  cases fields with
  | nil => rfl
  | cons first rest =>
      rw [List.map_cons, keep, keep, List.map_cons,
        dropTrailingEmpty_eq_rdropWhile,
        dropTrailingEmpty_eq_rdropWhile]
      unfold List.rdropWhile
      rw [← List.map_reverse, List.dropWhile_map, hEmpty,
        List.map_reverse]

/- Behind the kept fields there are only empty ones. -/
theorem exists_keep_append
    (fields : List Text) :
    ∃ count, fields = keep fields ++ List.replicate count [] := by
  cases fields with
  | nil => exact ⟨0, rfl⟩
  | cons first rest =>
      have hEmpty :
          ∀ field ∈ rest.rtakeWhile List.isEmpty, field = [] := by
        intro field hField
        exact List.isEmpty_iff.mp (List.mem_rtakeWhile_imp hField)
      refine ⟨(rest.rtakeWhile List.isEmpty).length, ?_⟩
      rw [keep, ← List.eq_replicate_of_mem hEmpty,
        dropTrailingEmpty_eq_rdropWhile, List.cons_append,
        List.rdropWhile_append_rtakeWhile]

/- Fields are all kept unless there are several, the last one empty. -/
theorem keep_eq_self_iff
    {fields : List Text}
    (hNonempty : fields ≠ []) :
    keep fields = fields ↔
      fields.getLast hNonempty ≠ [] ∨ fields.length = 1 := by
  rcases List.exists_cons_of_ne_nil hNonempty with ⟨first, rest, rfl⟩
  rw [keep, List.cons.injEq, dropTrailingEmpty_eq_rdropWhile,
    List.rdropWhile_eq_self_iff]
  by_cases hRest : rest = []
  · simp [hRest]
  · simp [hRest, List.getLast_cons hRest]

/- Empty fields at the end are not kept. -/
theorem keep_append_replicate
    {fields : List Text}
    (hNonempty : fields ≠ [])
    (count : Nat) :
    keep (fields ++ List.replicate count []) = keep fields := by
  rcases List.exists_cons_of_ne_nil hNonempty with ⟨first, rest, rfl⟩
  simp only [List.cons_append, keep, dropTrailingEmpty_eq_rdropWhile]
  induction count with
  | zero => simp
  | succ count ih =>
      rw [List.replicate_succ', ← List.append_assoc,
        List.rdropWhile_concat_pos _ _ _ rfl]
      exact ih

/- The last one of several kept fields is not empty. -/
theorem getLast?_keep_ne
    {fields : List Text}
    (hSeveral : 1 < (keep fields).length) :
    (keep fields).getLast? ≠ some [] := by
  have hNonempty : keep fields ≠ [] :=
    List.ne_nil_of_length_pos (Nat.zero_lt_of_lt hSeveral)
  have hKept : keep (keep fields) = keep fields := by
    cases fields with
    | nil => rfl
    | cons first rest =>
        simp only [keep, dropTrailingEmpty_eq_rdropWhile,
          List.rdropWhile_idempotent]
  rcases (keep_eq_self_iff hNonempty).mp hKept with hLast | hOne
  · rw [List.getLast?_eq_some_getLast hNonempty]
    exact fun hEmpty => hLast (Option.some.inj hEmpty)
  · omega

end Fields

end Marginalia
