import Mathlib.Data.List.Forall2
import Marginalia.Comment.Table
import Marginalia.Proofs.Comment.Fields

/-
  This file splits values into fields. It says which fields
  are read back from the value that declares them, compares
  the two ways of splitting, and says when a line of a table
  ends in an empty field.

  Key definitions include:
    * `Fields.Clean`
    * `Fields.Overhangs`
    * `Fields.EndsInBreaks`
    * `Fields.Fits`

  Main results:
    * `Fields.split_eq_map_write`
    * `Fields.split_written_iff`
    * `Fields.split_same_boundaries`
    * `Fields.overhangs_split_iff`
    * `Fields.fits_split`
    * `Fields.overhangs_only_at_breaks`
-/

namespace Marginalia

namespace Fields

------------------------------------------------------------
-- Line Breaks
------------------------------------------------------------

/- A text without carriage returns and line feeds. -/
def Clean
    (text : Text) : Prop :=
  '\r' ∉ text ∧ '\n' ∉ text

instance
    (text : Text) :
    Decidable (Clean text) := by
  unfold Clean
  infer_instance

/- Without its line breaks every text is clean. -/
theorem clean_removeBreaks
    (text : Text) :
    Clean (removeBreaks text) := by
  simp [Clean, removeBreaks]

/- A clean text has no line breaks to remove. -/
theorem removeBreaks_of_clean
    {text : Text}
    (hClean : Clean text) :
    removeBreaks text = text := by
  unfold removeBreaks
  rw [List.filter_eq_self]
  intro c hMember
  rw [Bool.and_eq_true, bne_iff_ne, bne_iff_ne]
  constructor
  · rintro rfl
    exact hClean.1 hMember
  · rintro rfl
    exact hClean.2 hMember

/- Line breaks are removed from one text and then the next. -/
theorem removeBreaks_append
    (first last : Text) :
    removeBreaks (first ++ last) =
      removeBreaks first ++ removeBreaks last :=
  List.filter_append first last

/- Line breaks are removed before or after a field is written. -/
theorem removeBreaks_write
    (commas : Commas)
    (field : Text) :
    removeBreaks (commas.write field) =
      commas.write (removeBreaks field) := by
  have hText : removeBreaks commas.text = commas.text := by
    cases commas with
    | escaped => rfl
    | plain => rfl
  induction field with
  | nil => rfl
  | cons c rest ih =>
      by_cases hComma : c = ','
      · have hKept :
            removeBreaks (',' :: rest) = ',' :: removeBreaks rest :=
          rfl
        rw [hComma, Commas.write_cons_comma, removeBreaks_append, hText,
          ih, hKept, Commas.write_cons_comma]
      · rw [Commas.write_cons_of_ne hComma]
        unfold removeBreaks at ih ⊢
        rw [List.filter_cons, List.filter_cons, ih]
        split
        · rw [Commas.write_cons_of_ne hComma]
        · rfl

/- Line breaks are removed from each of the joined texts. -/
theorem removeBreaks_join
    (parts : List Text) :
    removeBreaks (Text.join [','] parts) =
      Text.join [','] (parts.map removeBreaks) := by
  induction parts with
  | nil => rfl
  | cons part rest ih =>
      by_cases hRest : rest = []
      · rw [hRest, List.map_singleton, Text.join_singleton,
          Text.join_singleton]
      · rw [Text.join_cons _ _ hRest, removeBreaks_append,
          removeBreaks_append, ih, List.map_cons,
          Text.join_cons _ _ (by simpa using hRest)]
        rfl

/- Written fields have the characters of the fields, and escapes. -/
theorem mem_written_iff
    {c : Char}
    (hOther : c ∉ Commas.escaped.text)
    {fields : List Text} :
    c ∈ written fields ↔ ∃ field ∈ fields, c ∈ field := by
  constructor
  · intro hMember
    rcases Text.mem_or_mem_of_mem_join hMember with
      hComma | ⟨part, hPart, hMember⟩
    · rw [List.mem_singleton.mp hComma] at hOther
      exact absurd (by decide) hOther
    · rcases List.mem_map.mp hPart with ⟨field, hField, rfl⟩
      rcases Text.mem_of_mem_replaceAll_singleton hMember with
        hText | hText
      · exact absurd hText hOther
      · exact ⟨field, hField, hText.1⟩
  · rintro ⟨field, hField, hMember⟩
    exact Text.mem_join [','] (List.mem_map_of_mem hField)
      (Commas.mem_write .escaped hMember)

/- Fields are clean when what they are written as is clean. -/
theorem clean_written_iff
    {fields : List Text} :
    Clean (written fields) ↔ ∀ field ∈ fields, Clean field := by
  unfold Clean
  rw [mem_written_iff (by decide), mem_written_iff (by decide)]
  constructor
  · intro hClean field hField
    exact ⟨fun hMember => hClean.1 ⟨field, hField, hMember⟩,
      fun hMember => hClean.2 ⟨field, hField, hMember⟩⟩
  · intro hClean
    constructor
    · rintro ⟨field, hField, hMember⟩
      exact (hClean field hField).1 hMember
    · rintro ⟨field, hField, hMember⟩
      exact (hClean field hField).2 hMember

------------------------------------------------------------
-- Splitting Values
------------------------------------------------------------

/- A value is cut, its fields are kept, their breaks removed. -/
theorem split_eq
    (commas : Commas)
    (value : Text) :
    split commas value =
      (keep (cut commas value)).map removeBreaks := by
  unfold split
  cases cut commas value with
  | nil => rfl
  | cons first rest => rfl

/- The fields in one way are the plain ones, written so. -/
theorem split_eq_map_write
    (commas : Commas)
    (value : Text) :
    split commas value = (split .plain value).map commas.write := by
  rw [split_eq, split_eq, cut_eq_map_write, keep_map_write,
    List.map_map, List.map_map]
  apply List.map_congr_left
  intro field hField
  exact removeBreaks_write commas field

/- A kept field is there. -/
theorem keep_cut_ne_nil
    (commas : Commas)
    (value : Text) :
    keep (cut commas value) ≠ [] := by
  rcases List.exists_cons_of_ne_nil (cut_ne_nil commas value) with
    ⟨first, rest, hCut⟩
  rw [hCut]
  exact List.cons_ne_nil first _

/- A value is its kept fields as they are written, and commas. -/
theorem exists_value_eq_written
    (value : Text) :
    ∃ count,
      value =
        written (keep (cut .plain value)) ++
          List.replicate count ',' := by
  rcases exists_keep_append (cut .plain value) with ⟨count, hKeep⟩
  refine ⟨count, ?_⟩
  rw [← written_append_replicate (keep_cut_ne_nil .plain value),
    ← hKeep, written_cut]

/- A clean value has clean fields. -/
theorem split_of_clean
    {value : Text}
    (hClean : Clean value) :
    split .plain value = keep (cut .plain value) := by
  have hPieces : ∀ piece ∈ cut .plain value, Clean piece := by
    rwa [← clean_written_iff, written_cut]
  have hKept :
      ∀ field ∈ keep (cut .plain value), removeBreaks field = field := by
    intro field hField
    rcases exists_keep_append (cut .plain value) with ⟨count, hKeep⟩
    apply removeBreaks_of_clean
    apply hPieces
    rw [hKeep]
    exact List.mem_append_left _ hField
  rw [split_eq, List.map_congr_left hKept, List.map_id']

/- No field is dropped from fields that are kept as written. -/
theorem cut_written_of_keep
    {fields : List Text}
    (hNonempty : fields ≠ [])
    (hKeep : keep (cut .plain (written fields)) = fields) :
    cut .plain (written fields) = fields := by
  rcases exists_keep_append (cut .plain (written fields)) with
    ⟨count, hCut⟩
  rw [hKeep] at hCut
  -- An empty field would have been written as one more comma.
  have hNone : count = 0 := by
    have hLength := congrArg List.length (written_cut (written fields))
    rw [hCut, written_append_replicate hNonempty, List.length_append,
      List.length_replicate] at hLength
    omega
  rw [hCut, hNone, List.replicate_zero, List.append_nil]

/-
  Clean fields are read back from what they are written as,
  exactly when none but the last ends in two backslashes and
  the last one is not empty or is the only one.
-/
theorem split_written_iff
    {fields : List Text}
    (hNonempty : fields ≠ [])
    (hClean : ∀ field ∈ fields, Clean field) :
    split .plain (written fields) = fields ↔
      (∀ field ∈ fields.dropLast, ¬escape <:+ field) ∧
        (fields.getLast hNonempty ≠ [] ∨ fields.length = 1) := by
  have hSeparable := cut_written_eq_iff hNonempty
  unfold Separable at hSeparable
  rw [split_of_clean (clean_written_iff.mpr hClean),
    ← keep_eq_self_iff hNonempty, ← hSeparable]
  constructor
  · intro hKeep
    have hCut := cut_written_of_keep hNonempty hKeep
    rw [hCut] at hKeep
    exact ⟨hCut, hKeep⟩
  · rintro ⟨hCut, hKeep⟩
    rw [hCut, hKeep]

/-
  A comma inside a field, a backslash at its end and an empty
  field are read back; so are two backslashes at the end of
  the last field.
-/
theorem split_written_iff_backslashes :
    (∀ field ∈ ["a,b".toList, "\\".toList, [], "c\\\\".toList],
        Clean field) ∧
      split .plain
          (written
            ["a,b".toList, "\\".toList, [], "c\\\\".toList]) =
        ["a,b".toList, "\\".toList, [], "c\\\\".toList] := by
  have hClean :
      ∀ field ∈ ["a,b".toList, "\\".toList, [], "c\\\\".toList],
        Clean field := by
    decide
  refine ⟨hClean, ?_⟩
  apply (split_written_iff (List.cons_ne_nil _ _) hClean).mpr
  decide

/-
  Both ways of splitting a value give the same fields, but for
  their commas, and lose nothing of it but line breaks and the
  commas at its end.
-/
theorem split_same_boundaries
    (value : Text) :
    split .plain value =
        (split .escaped value).map
          (·.replaceAll Commas.escaped.text Commas.plain.text) ∧
      (∀ field ∈ split .escaped value,
        Text.Guarded escape ',' field) ∧
      ∃ pieces count,
        value = Text.join [','] pieces ++ List.replicate count ',' ∧
        split .escaped value = pieces.map removeBreaks ∧
        split .plain value =
          pieces.map
            (fun piece =>
              (removeBreaks piece).replaceAll Commas.escaped.text
                Commas.plain.text) ∧
        removeBreaks value =
          Text.join [','] (split .escaped value) ++
            List.replicate count ',' := by
  have hPlain :
      split .plain value =
        (split .escaped value).map
          (·.replaceAll Commas.escaped.text Commas.plain.text) := by
    rw [split_eq_map_write .escaped, List.map_map]
    exact (List.map_id'' Commas.replaceAll_write _).symm
  refine ⟨hPlain, ?_, ?_⟩
  · intro field hField
    rw [split_eq_map_write .escaped] at hField
    rcases List.mem_map.mp hField with ⟨plain, -, rfl⟩
    exact Commas.guarded_write plain
  · rcases exists_value_eq_written value with ⟨count, hValue⟩
    have hEscaped :
        split .escaped value =
          ((keep (cut .plain value)).map Commas.escaped.write).map
            removeBreaks := by
      rw [split_eq, cut_eq_map_write, keep_map_write]
    refine ⟨(keep (cut .plain value)).map Commas.escaped.write, count,
      hValue, hEscaped, ?_, ?_⟩
    · rw [hPlain, hEscaped, List.map_map]
      rfl
    · have hCommas :
          removeBreaks (List.replicate count ',') =
            List.replicate count ',' :=
        removeBreaks_of_clean (by simp [Clean])
      calc removeBreaks value
          = removeBreaks
              (written (keep (cut .plain value)) ++
                List.replicate count ',') :=
            congrArg removeBreaks hValue
        _ = removeBreaks (written (keep (cut .plain value))) ++
              List.replicate count ',' := by
            rw [removeBreaks_append, hCommas]
        _ = Text.join [','] (split .escaped value) ++
              List.replicate count ',' := by
            rw [hEscaped, written, removeBreaks_join]

------------------------------------------------------------
-- Empty Last Fields
------------------------------------------------------------

/- Several fields of which the last one is empty. -/
def Overhangs
    (fields : List Text) : Prop :=
  1 < fields.length ∧ fields.getLast? = some []

instance
    (fields : List Text) :
    Decidable (Overhangs fields) := by
  unfold Overhangs
  infer_instance

/-
  A value in which nothing but line breaks, at least one, and
  then commas follow a comma that is not escaped.
-/
def EndsInBreaks
    (value : Text) : Prop :=
  ∃ front breaks count,
    value = front ++ ',' :: (breaks ++ List.replicate count ',') ∧
    ¬escape <:+ front ∧
    breaks ≠ [] ∧
    ∀ c ∈ breaks, c = '\r' ∨ c = '\n'

/- Escaping the commas of a field adds no escape at its end. -/
theorem suffix_write_iff
    {field : Text} :
    escape <:+ Commas.escaped.write field ↔ escape <:+ field := by
  constructor
  · intro hEnds
    induction field with
    | nil => exact hEnds
    | cons c rest ih =>
        by_cases hComma : c = ','
        · rw [hComma, Commas.write_cons_comma] at hEnds
          have hEscape :
              escape <:+
                escape ++ ',' :: Commas.escaped.write rest :=
            hEnds
          rw [Text.suffix_append_cons_iff comma_notMem_escape] at hEscape
          exact (ih hEscape).trans (List.suffix_cons c rest)
        · rw [Commas.write_cons_of_ne hComma] at hEnds
          rcases List.suffix_cons_iff.mp hEnds with hWhole | hRest
          · rcases List.cons.inj hWhole with ⟨hFirst, hSecond⟩
            rw [← Commas.replaceAll_write rest, ← hFirst, ← hSecond]
            exact List.suffix_refl escape
          · exact (ih hRest).trans (List.suffix_cons c rest)
  · rintro ⟨front, rfl⟩
    rw [Commas.write_append]
    exact List.suffix_append (Commas.escaped.write front) escape

/- Fields are written with the end of the last one. -/
theorem suffix_written_concat_iff
    {fields : List Text}
    {field : Text} :
    escape <:+ written (fields ++ [field]) ↔ escape <:+ field := by
  by_cases hFields : fields = []
  · rw [hFields, List.nil_append, written_singleton, suffix_write_iff]
  · rw [written_concat hFields,
      Text.suffix_append_cons_iff comma_notMem_escape, suffix_write_iff]

/-
  Fields before others are separable from them when what they
  are written as does not escape the comma behind it.
-/
theorem separable_append_iff
    {front back : List Text}
    (hFront : front ≠ [])
    (hBack : back ≠ []) :
    Separable (front ++ back) ↔
      Separable front ∧ ¬escape <:+ written front ∧ Separable back := by
  rcases List.eq_nil_or_concat front with hNone | ⟨init, last, hConcat⟩
  · exact absurd hNone hFront
  · rw [List.concat_eq_append] at hConcat
    unfold Separable
    rw [List.dropLast_append_of_ne_nil hBack, hConcat,
      suffix_written_concat_iff, List.dropLast_concat,
      List.forall_mem_append, List.forall_mem_append,
      List.forall_mem_singleton, and_assoc]

/- The way in which commas are written makes no difference. -/
theorem overhangs_map_write_iff
    {commas : Commas}
    {fields : List Text} :
    Overhangs (fields.map commas.write) ↔ Overhangs fields := by
  unfold Overhangs
  simp [List.getLast?_map, Commas.write_eq_nil_iff]

/- A text of which only line breaks are removed is nothing else. -/
theorem removeBreaks_eq_nil_iff
    {text : Text} :
    removeBreaks text = [] ↔ ∀ c ∈ text, c = '\r' ∨ c = '\n' := by
  unfold removeBreaks
  rw [List.filter_eq_nil_iff]
  apply forall₂_congr
  intro c hMember
  simp only [Bool.and_eq_true, bne_iff_ne]
  tauto

/- Line breaks are no commas. -/
theorem comma_notMem_of_breaks
    {breaks : Text}
    (hBreaks : ∀ c ∈ breaks, c = '\r' ∨ c = '\n') :
    ',' ∉ breaks := by
  intro hComma
  rcases hBreaks ',' hComma with hEq | hEq
  · exact absurd hEq (by decide)
  · exact absurd hEq (by decide)

/- A field without commas is written as it is, empty ones as commas. -/
theorem written_append_cons_replicate
    {fields : List Text}
    (hFields : fields ≠ [])
    {field : Text}
    (hComma : ',' ∉ field)
    (count : Nat) :
    written (fields ++ field :: List.replicate count []) =
      written fields ++ ',' :: (field ++ List.replicate count ',') := by
  have hParts :
      fields ++ field :: List.replicate count [] =
        fields ++ [field] ++ List.replicate count [] := by
    simp
  rw [hParts, written_append_replicate (by simp) count,
    written_concat hFields, Commas.write,
    Text.replaceAll_of_notMem hComma, List.append_assoc,
    List.cons_append]

/- Breaks behind a comma are cut off as a field. -/
theorem cut_append_breaks
    {front breaks : Text}
    (hFront : ¬escape <:+ front)
    (hBreaks : ∀ c ∈ breaks, c = '\r' ∨ c = '\n')
    (count : Nat) :
    cut .plain (front ++ ',' :: (breaks ++ List.replicate count ',')) =
      cut .plain front ++ breaks :: List.replicate count [] := by
  have hPieces := cut_ne_nil .plain front
  have hLast : Separable (breaks :: List.replicate count []) := by
    intro field hField hEnds
    have hBackslash : '\\' ∈ field := hEnds.subset (by decide)
    rcases List.mem_cons.mp (List.mem_of_mem_dropLast hField) with
      rfl | hEmpty
    · rcases hBreaks '\\' hBackslash with hEq | hEq
      · exact absurd hEq (by decide)
      · exact absurd hEq (by decide)
    · rw [List.eq_of_mem_replicate hEmpty] at hBackslash
      exact absurd hBackslash List.not_mem_nil
  have hSeparable :
      Separable
        (cut .plain front ++ breaks :: List.replicate count []) := by
    rw [separable_append_iff hPieces (List.cons_ne_nil breaks _),
      written_cut]
    exact ⟨separable_cut front, hFront, hLast⟩
  have hCut := (cut_written_eq_iff (by simp)).mpr hSeparable
  rwa [written_append_cons_replicate hPieces
    (comma_notMem_of_breaks hBreaks), written_cut] at hCut

/-
  A value is split into several fields with an empty last one
  exactly when it ends in breaks: they are removed only after
  the empty fields at the end were dropped.
-/
theorem overhangs_split_iff
    {commas : Commas}
    {value : Text} :
    Overhangs (split commas value) ↔ EndsInBreaks value := by
  rw [split_eq_map_write, overhangs_map_write_iff, split_eq]
  constructor
  · rintro ⟨hSeveral, hLast⟩
    rw [List.length_map] at hSeveral
    rw [List.getLast?_map, Option.map_eq_some_iff] at hLast
    rcases hLast with ⟨breaks, hLast, hBreaks⟩
    rw [removeBreaks_eq_nil_iff] at hBreaks
    have hSome : breaks ≠ [] := by
      rintro rfl
      exact getLast?_keep_ne hSeveral hLast
    rcases List.getLast?_eq_some_iff.mp hLast with ⟨front, hKeep⟩
    have hFront : front ≠ [] := by
      rintro rfl
      rw [hKeep] at hSeveral
      exact absurd hSeveral (Nat.lt_irrefl 1)
    rcases exists_keep_append (cut .plain value) with ⟨count, hCut⟩
    have hPieces :
        cut .plain value = front ++ breaks :: List.replicate count [] := by
      rw [hCut, hKeep, List.append_assoc, List.singleton_append]
    have hSeparable := separable_cut value
    rw [hPieces, separable_append_iff hFront
      (List.cons_ne_nil breaks _)] at hSeparable
    refine ⟨written front, breaks, count, ?_, hSeparable.2.1, hSome,
      hBreaks⟩
    rw [← written_append_cons_replicate hFront
      (comma_notMem_of_breaks hBreaks), ← hPieces, written_cut]
  · rintro ⟨front, breaks, count, rfl, hFront, hSome, hBreaks⟩
    have hPieces := List.length_pos_of_ne_nil (cut_ne_nil .plain front)
    have hKeep :
        keep (cut .plain front ++ breaks :: List.replicate count []) =
          cut .plain front ++ [breaks] := by
      rw [← List.singleton_append, ← List.append_assoc,
        keep_append_replicate (by simp)]
      exact (keep_eq_self_iff (by simp)).mpr
        (Or.inl (by rwa [List.getLast_concat]))
    rw [cut_append_breaks hFront hBreaks, hKeep, List.map_append,
      List.map_singleton, removeBreaks_eq_nil_iff.mpr hBreaks]
    refine ⟨?_, List.getLast?_concat⟩
    rw [List.length_append, List.length_map, List.length_singleton]
    omega

/- Fields as they come from a value. -/
structure Fits
    (value : Text)
    (fields : List Text) : Prop where
  nonempty : fields ≠ []
  clean : ∀ field ∈ fields, Clean field
  overhangs_iff : Overhangs fields ↔ EndsInBreaks value

/- The fields of a value come from it. -/
theorem fits_split
    (commas : Commas)
    (value : Text) :
    Fits value (split commas value) where
  nonempty := by
    rw [split_eq]
    simpa using keep_cut_ne_nil commas value
  clean := by
    intro field hField
    rw [split_eq] at hField
    rcases List.mem_map.mp hField with ⟨piece, -, rfl⟩
    exact clean_removeBreaks piece
  overhangs_iff := overhangs_split_iff

/-
  The fields of every value are clean, there is at least one,
  and the last one of several is empty only where the value
  ends in breaks. So are the columns of every table that tags
  declare and its rows, each with the value of its tag.
-/
theorem overhangs_only_at_breaks
    (commas : Commas)
    (value : Text)
    (tags : List Tag) :
    Fits value (split commas value) ∧
      ∀ table, TagTable.ofTags? tags = some table →
        ∃ header,
          tags.find? (·.IsNamed Tag.tableName) = some header ∧
          Fits header.value table.columns ∧
          List.Forall₂ (fun tag row => Fits tag.value row)
            (tags.filter (·.IsNamed Tag.rowName)) table.rows := by
  refine ⟨fits_split commas value, ?_⟩
  intro table hTable
  rcases Option.map_eq_some_iff.mp hTable with ⟨header, hHeader, rfl⟩
  refine ⟨header, hHeader, fits_split .escaped header.value, ?_⟩
  rw [List.forall₂_map_right_iff, List.forall₂_same]
  intro tag hTag
  exact fits_split .plain tag.value

/-
  A row that goes on in a second line with nothing but a comma
  is read with an empty last field.
-/
theorem overhangs_only_at_breaks_row :
    TagTable.ofTags?
        [⟨"table".toList, "A".toList, none⟩,
          ⟨"row".toList, "a,\n,".toList, none⟩] =
      some ⟨["A".toList], [["a".toList, []]]⟩ ∧
    EndsInBreaks "a,\n,".toList := by
  have hTable :
      TagTable.ofTags?
          [⟨"table".toList, "A".toList, none⟩,
            ⟨"row".toList, "a,\n,".toList, none⟩] =
        some ⟨["A".toList], [["a".toList, []]]⟩ := by
    decide
  rcases (overhangs_only_at_breaks .plain "a,\n,".toList _).2 _
      hTable with
    ⟨header, -, -, hRows⟩
  cases hRows with
  | cons hRow hNone =>
      exact ⟨hTable, hRow.overhangs_iff.mp (by decide)⟩

/- Such a row has several fields and an empty last one. -/
theorem overhangs_split_break :
    Overhangs (split .plain "a,\n,".toList) ∧
      Overhangs (split .escaped "a,\n,".toList) ∧
      ∃ row ∈
          ((TagTable.ofTags?
            [⟨"table".toList, "A".toList, none⟩,
              ⟨"row".toList, "a,\n,".toList, none⟩]).elim [] (·.rows)),
        Overhangs row := by
  decide

end Fields

end Marginalia
