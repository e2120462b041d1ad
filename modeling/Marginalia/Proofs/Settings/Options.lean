import Mathlib.Data.List.Induction
import Mathlib.Data.List.Nodup
import Marginalia.Settings.Mapping

/-
  This file looks at options key by key: which value a key
  has, and how the entries of a mapping give the keys their
  values.

  Key definitions include:
    * `Options.get?`
    * `Mapping.value?`
    * `Mapping.update`

  Main results:
    * `Options.get?_set`
    * `Options.get?_update`
    * `Mapping.get?_options_eq_some_iff`
    * `Mapping.unknown_options_eq_nil_iff`
    * `Mapping.get?_options_update`
-/

namespace Marginalia

------------------------------------------------------------
-- Kinds of Values
------------------------------------------------------------

/- Only the raw form of a text is plain. -/
theorem RawText.plain?_eq_some_iff
    {raw : RawText}
    {text : Text} :
    raw.plain? = some text ↔ raw = ofText text := by
  unfold plain?
  induction raw generalizing text with
  | nil => cases text <;> simp [ofText]
  | cons sign rest ih =>
      cases text with
      | nil => cases sign <;> simp [ofText, Option.bind_eq_some_iff]
      | cons c more =>
          cases sign with
          | char c =>
              simp [Sign.char?, ofText, Option.bind_eq_some_iff, ih,
                and_comm]
          | half index => simp [Sign.char?, ofText]

namespace Value

/- Only a plain text is read as one. -/
theorem text?_eq_some_iff
    {value : Value}
    {text : Text} :
    value.text? = some text ↔ value = ofText text := by
  unfold text? ofText
  cases value with
  | text raw => simp [raw?, RawText.plain?_eq_some_iff]
  | _ => simp [raw?]

/- Different texts are different values. -/
theorem ofText_injective : Function.Injective ofText := by
  intro first second hValue
  have hFirst := text?_eq_some_iff.mpr (Eq.refl (ofText first))
  rw [text?_eq_some_iff.mpr hValue] at hFirst
  exact (Option.some.inj hFirst).symm

/- Only a list of plain texts is read as texts. -/
theorem texts?_eq_some_iff
    {value : Value}
    {texts : List Text} :
    value.texts? = some texts ↔ value = ofTexts texts := by
  have hItems (items : List Value) :
      items.mapM text? = some texts ↔ items = texts.map ofText := by
    induction items generalizing texts with
    | nil => cases texts <;> simp
    | cons item rest ih =>
        cases texts with
        | nil => simp [Option.bind_eq_some_iff]
        | cons first more =>
            simp [Option.bind_eq_some_iff, text?_eq_some_iff, ih]
  cases value with
  | list items => simp [texts?, ofTexts, hItems]
  | _ => simp [texts?, ofTexts]

/- Different lists of texts are different values. -/
theorem ofTexts_injective : Function.Injective ofTexts := by
  intro first second hValue
  exact List.map_injective_iff.mpr ofText_injective
    (Value.list.inj hValue)

end Value

namespace Key

/- A key has the name by which it is found. -/
theorem ofName?_eq_some_iff
    {name : Text}
    {key : Key} :
    ofName? name = some key ↔ name = key.name := by
  constructor
  · intro hFound
    have hName := List.find?_some hFound
    exact (beq_iff_eq.mp hName).symm
  · rintro rfl
    cases key <;> decide

/- No two keys have the same name. -/
theorem name_injective : Function.Injective name := by
  intro first second hName
  have hFirst := ofName?_eq_some_iff.mpr (Eq.refl first.name)
  rw [ofName?_eq_some_iff.mpr hName] at hFirst
  exact (Option.some.inj hFirst).symm

/- An admitted value is there. -/
theorem isNull_of_admits
    {key : Key}
    {value : Value}
    (hAdmits : key.admits value = true) :
    value.isNull = false := by
  cases value with
  | null => cases key <;> cases hAdmits
  | _ => rfl

/- A value that is taken is admitted if it is there. -/
theorem admits_of_takes
    {key : Key}
    {value : Value}
    (hTakes : key.takes value = true)
    (hThere : value.isNull = false) :
    key.admits value = true := by
  unfold takes at hTakes
  rw [hThere, Bool.and_false, Bool.or_false] at hTakes
  exact hTakes

/- Only the directory of the template may be absent. -/
theorem eq_templateDirectory_of_takes
    {key : Key}
    {value : Value}
    (hTakes : key.takes value = true)
    (hNull : value.isNull = true) :
    key = .templateDirectory := by
  unfold takes at hTakes
  rw [Bool.or_eq_true, Bool.and_eq_true, beq_iff_eq] at hTakes
  rcases hTakes with hAdmits | ⟨hKey, _⟩
  · rw [isNull_of_admits hAdmits] at hNull
    cases hNull
  · exact hKey

end Key

------------------------------------------------------------
-- Options by Key
------------------------------------------------------------

namespace Options

/- The value of a key, unless it is left open. -/
def get?
    (options : Options) : Key → Option Value
  | .projectRoot => options.projectRoot.map .ofText
  | .files => options.files.map .ofTexts
  | .directories => options.directories.map .ofTexts
  | .consolidateOutput => options.consolidateOutput.map .flag
  | .outputFile => options.outputFile.map .ofText
  | .headerText => options.headerText.map .text
  | .footerText => options.footerText.map .text
  | .headerTable => options.headerTable.map .flag
  | .moduleList => options.moduleList.map .ofTexts
  | .fileExtension => options.fileExtension.map .ofText
  | .showAbout => options.showAbout.map .flag
  | .skip => options.skip.map .flag
  | .maxWorkers => options.maxWorkers.map .number
  | .templateDirectory => options.templateDirectory.map .ofText
  | .logLevel => options.logLevel.map .ofText
  | .logFormat => options.logFormat.map .ofText

/- Every value that options have is of the type of its key. -/
theorem admits_of_get?
    {options : Options}
    {key : Key}
    {value : Value}
    (hValue : options.get? key = some value) :
    key.admits value = true := by
  have hText (text : Text) : (Value.ofText text).text?.isSome :=
    Option.isSome_iff_exists.mpr ⟨text, Value.text?_eq_some_iff.mpr rfl⟩
  have hTexts (texts : List Text) : (Value.ofTexts texts).texts?.isSome :=
    Option.isSome_iff_exists.mpr
      ⟨texts, Value.texts?_eq_some_iff.mpr rfl⟩
  cases key with
  | files | directories | moduleList =>
      rcases Option.map_eq_some_iff.mp hValue with ⟨texts, _, rfl⟩
      exact hTexts texts
  | projectRoot | outputFile | fileExtension | templateDirectory
  | logLevel | logFormat =>
      rcases Option.map_eq_some_iff.mp hValue with ⟨text, _, rfl⟩
      exact hText text
  | _ =>
      rcases Option.map_eq_some_iff.mp hValue with ⟨_, _, rfl⟩
      rfl

/- A key that is set has the value, and the others keep theirs. -/
theorem get?_set
    (options : Options)
    {key : Key}
    {value : Value}
    (hAdmits : key.admits value = true)
    (other : Key) :
    (options.set key value).get? other =
      if other = key then some value else options.get? other := by
  cases key with
  | files | directories | moduleList =>
      rcases Option.isSome_iff_exists.mp hAdmits with ⟨texts, hTexts⟩
      simp only [set, hTexts, Option.map_some, Option.getD_some]
      rw [Value.texts?_eq_some_iff] at hTexts
      subst hTexts
      cases other <;> rfl
  | consolidateOutput | headerTable | showAbout | skip =>
      cases value with
      | flag value => cases other <;> rfl
      | _ => cases hAdmits
  | maxWorkers =>
      cases value with
      | number value => cases other <;> rfl
      | _ => cases hAdmits
  | headerText | footerText =>
      cases value with
      | text value => cases other <;> rfl
      | _ => cases hAdmits
  | _ =>
      rcases Option.isSome_iff_exists.mp hAdmits with ⟨text, hText⟩
      simp only [set, hText, Option.map_some, Option.getD_some]
      rw [Value.text?_eq_some_iff] at hText
      subst hText
      cases other <;> rfl

/- An absent value changes nothing. -/
theorem set_of_isNull
    (options : Options)
    (key : Key)
    {value : Value}
    (hNull : value.isNull = true) :
    options.set key value = options := by
  cases value with
  | null => cases key <;> rfl
  | _ => cases hNull

/- Setting a known key does not touch the unknown ones. -/
theorem unknown_set
    (options : Options)
    (key : Key)
    (value : Value) :
    (options.set key value).unknown = options.unknown := by
  have hKeep {α : Type} (read : Option α) (put : α → Options)
      (hPut : ∀ found, (put found).unknown = options.unknown) :
      ((read.map put).getD options).unknown = options.unknown := by
    cases read with
    | none => rfl
    | some found => exact hPut found
  cases key <;> exact hKeep _ _ fun _ => rfl

/- Options with a choice for a key have the later value first. -/
theorem get?_update
    (options later : Options)
    (key : Key) :
    (options.update later).get? key =
      (later.get? key <|> options.get? key) := by
  have hMap {α : Type} (f : α → Value) (first second : Option α) :
      (first <|> second).map f =
        (first.map f <|> second.map f) := by
    cases first <;> rfl
  cases key <;> exact hMap _ _ _

------------------------------------------------------------
-- Entries
------------------------------------------------------------

/- The last entry is put last. -/
theorem ofEntries_concat
    (entries : List (Text × Value))
    (entry : Text × Value) :
    ofEntries (entries ++ [entry]) = (ofEntries entries).put entry :=
  List.foldl_concat put {} entry entries

/- An entry with the name of a key sets that key. -/
theorem put_name
    (options : Options)
    (key : Key)
    (value : Value) :
    options.put (key.name, value) = options.set key value := by
  unfold put
  rw [Key.ofName?_eq_some_iff.mpr (Eq.refl key.name)]

/- An entry without a key is noted as unknown. -/
theorem put_of_unknown
    (options : Options)
    {entry : Text × Value}
    (hUnknown : ∀ key : Key, entry.1 ≠ key.name) :
    options.put entry =
      { options with unknown := options.unknown ++ [entry.1] } := by
  have hNone : Key.ofName? entry.1 = none := by
    cases hFound : Key.ofName? entry.1 with
    | none => rfl
    | some key =>
        exact absurd (Key.ofName?_eq_some_iff.mp hFound) (hUnknown key)
  unfold put
  rw [hNone]

/- No name is unknown exactly if each is the name of a key. -/
theorem unknown_ofEntries_eq_nil_iff
    (entries : List (Text × Value)) :
    (ofEntries entries).unknown = [] ↔
      ∀ entry ∈ entries, ∃ key : Key, entry.1 = key.name := by
  induction entries using List.reverseRecOn with
  | nil => exact ⟨fun _ => List.forall_mem_nil _, fun _ => rfl⟩
  | append_singleton entries entry ih =>
      rw [ofEntries_concat, List.forall_mem_append,
        List.forall_mem_singleton, ← ih]
      by_cases hKnown : ∃ key : Key, entry.1 = key.name
      · rcases entry with ⟨name, value⟩
        rcases hKnown with ⟨key, rfl⟩
        rw [put_name, unknown_set]
        exact (and_iff_left ⟨key, rfl⟩).symm
      · have hUnknown : ∀ key : Key, entry.1 ≠ key.name := by
          intro key hName
          exact hKnown ⟨key, hName⟩
        rw [put_of_unknown _ hUnknown]
        simp [hKnown]

end Options

------------------------------------------------------------
-- Mappings
------------------------------------------------------------

namespace Mapping

/- A known entry of a mapping is taken by its key. -/
theorem takes_of_mem
    {mapping : Mapping}
    {key : Key}
    {value : Value}
    (hEntry : (key.name, value) ∈ mapping.entries) :
    key.takes value = true :=
  mapping.typed _ hEntry key (Key.ofName?_eq_some_iff.mpr rfl)

/- An entry that its key takes sets the key, if it is there. -/
theorem get?_put_of_takes
    (options : Options)
    {known : Key}
    {value : Value}
    (hTakes : known.takes value = true)
    (key : Key) :
    (options.put (known.name, value)).get? key =
      if key = known ∧ value.isNull = false then some value
      else options.get? key := by
  rw [Options.put_name]
  cases hNull : value.isNull with
  | true =>
      rw [Options.set_of_isNull _ _ hNull]
      simp
  | false =>
      rw [Options.get?_set _ (Key.admits_of_takes hTakes hNull)]
      simp

/-
  Where no name is given twice and all values are taken, a key
  has the value of the entry of its name, if that is there.
-/
theorem get?_ofEntries_eq_some_iff
    {entries : List (Text × Value)}
    (hNodup : (entries.map Prod.fst).Nodup)
    (hTyped :
      ∀ key : Key, ∀ value,
        (key.name, value) ∈ entries → key.takes value = true)
    (key : Key)
    (value : Value) :
    (Options.ofEntries entries).get? key = some value ↔
      (key.name, value) ∈ entries ∧ value.isNull = false := by
  induction entries using List.reverseRecOn generalizing key value with
  | nil => cases key <;> simp [Options.ofEntries, Options.get?]
  | append_singleton entries entry ih =>
      rw [List.map_append, List.map_singleton, List.nodup_append',
        List.disjoint_singleton] at hNodup
      rcases hNodup with ⟨hNames, _, hFresh⟩
      have hBefore :=
        ih hNames fun known given hEntry =>
          hTyped known given (List.mem_append_left _ hEntry)
      rw [Options.ofEntries_concat, List.mem_append,
        List.mem_singleton]
      by_cases hKnown : ∃ known : Key, entry.1 = known.name
      · rcases entry with ⟨name, last⟩
        rcases hKnown with ⟨known, rfl⟩
        have hMissing (earlier : Value) :
            (known.name, earlier) ∉ entries := by
          intro hMember
          exact hFresh (List.mem_map.mpr ⟨_, hMember, rfl⟩)
        have hTakes : known.takes last = true :=
          hTyped known last List.mem_append_cons_self
        rw [get?_put_of_takes _ hTakes]
        by_cases hKey : key = known
        · subst hKey
          have hOpen : (Options.ofEntries entries).get? key = none := by
            rw [Option.eq_none_iff_forall_ne_some]
            intro earlier hValue
            exact hMissing earlier ((hBefore key earlier).mp hValue).1
          cases hNull : last.isNull with
          | true =>
              simp only [hOpen, hMissing, Prod.mk.injEq, true_and,
                false_or]
              constructor
              · rintro ⟨⟩
              · rintro ⟨rfl, hThere⟩
                rw [hNull] at hThere
                cases hThere
          | false =>
              simp only [hMissing, and_self, if_true, false_or,
                Prod.mk.injEq, true_and, Option.some.injEq]
              constructor
              · rintro rfl
                exact ⟨rfl, hNull⟩
              · rintro ⟨rfl, _⟩
                rfl
        · have hName : key.name ≠ known.name :=
            fun hName => hKey (Key.name_injective hName)
          simp only [hKey, hName, false_and, if_false, Prod.mk.injEq,
            or_false]
          exact hBefore key value
      · have hUnknown : ∀ known : Key, entry.1 ≠ known.name := by
          intro known hName
          exact hKnown ⟨known, hName⟩
        have hOther : (key.name, value) ≠ entry := by
          rintro rfl
          exact hUnknown key rfl
        have hGet :
            ((Options.ofEntries entries).put entry).get? key =
              (Options.ofEntries entries).get? key := by
          rw [Options.put_of_unknown _ hUnknown]
          cases key <;> rfl
        simp only [hOther, or_false]
        rw [hGet]
        exact hBefore key value

/- A key has the value of the entry of its name, if that is there. -/
theorem get?_options_eq_some_iff
    {mapping : Mapping}
    {key : Key}
    {value : Value} :
    mapping.options.get? key = some value ↔
      (key.name, value) ∈ mapping.entries ∧ value.isNull = false :=
  get?_ofEntries_eq_some_iff mapping.nodup
    (fun _ _ hEntry => takes_of_mem hEntry) key value

/- A mapping has no unknown key if each name is that of a key. -/
theorem unknown_options_eq_nil_iff
    {mapping : Mapping} :
    mapping.options.unknown = [] ↔
      ∀ entry ∈ mapping.entries, ∃ key : Key, entry.1 = key.name :=
  Options.unknown_ofEntries_eq_nil_iff mapping.entries

/- The value that a mapping gives to a key. -/
def value?
    (mapping : Mapping)
    (key : Key) : Option Value :=
  mapping.entries.lookup key.name

/- A mapping gives a value by the entry of its name. -/
theorem value?_eq_some_iff
    {mapping : Mapping}
    {key : Key}
    {value : Value} :
    mapping.value? key = some value ↔
      (key.name, value) ∈ mapping.entries := by
  have hNodup := mapping.nodup
  unfold value?
  generalize mapping.entries = entries at hNodup ⊢
  induction entries with
  | nil => simp
  | cons entry rest ih =>
      rcases entry with ⟨name, given⟩
      rw [List.map_cons, List.nodup_cons] at hNodup
      rw [List.lookup_cons, List.mem_cons, Prod.mk.injEq]
      by_cases hName : key.name = name
      · subst hName
        have hMissing : (key.name, value) ∉ rest := by
          intro hMember
          exact hNodup.1 (List.mem_map.mpr ⟨_, hMember, rfl⟩)
        simp [hMissing, eq_comm]
      · have hBeq : (key.name == name) = false :=
          beq_false_of_ne hName
        simp only [hBeq, hName, false_and, false_or]
        exact ih hNodup.2

/- Options have the values of the mapping that are there. -/
theorem get?_options
    (mapping : Mapping)
    (key : Key) :
    mapping.options.get? key =
      (mapping.value? key).filter (!·.isNull) := by
  ext value
  rw [get?_options_eq_some_iff, Option.filter_eq_some_iff,
    value?_eq_some_iff, Bool.not_eq_true']

------------------------------------------------------------
-- Changed Mappings
------------------------------------------------------------

/- A mapping changed by another one, whose entries come first. -/
def update
    (mapping later : Mapping) : Mapping where
  entries :=
    mapping.entries.filter
        (fun entry => !(later.entries.map Prod.fst).contains entry.1) ++
      later.entries
  nodup := by
    rw [List.map_append, List.nodup_append']
    refine ⟨mapping.nodup.sublist (List.filter_sublist.map _),
      later.nodup, ?_⟩
    intro name hFirst hLater
    rcases List.mem_map.mp hFirst with ⟨entry, hEntry, rfl⟩
    have hKept := (List.mem_filter.mp hEntry).2
    simp only [Bool.not_eq_true', List.contains_eq_mem,
      decide_eq_false_iff_not] at hKept
    exact hKept hLater
  typed := by
    intro entry hEntry
    rcases List.mem_append.mp hEntry with hFirst | hLater
    · exact mapping.typed entry (List.mem_filter.mp hFirst).1
    · exact later.typed entry hLater

/- An entry of the later mapping, or one that it does not name. -/
theorem mem_update_iff
    {mapping later : Mapping}
    {entry : Text × Value} :
    entry ∈ (mapping.update later).entries ↔
      (entry ∈ mapping.entries ∧
        entry.1 ∉ later.entries.map Prod.fst) ∨
      entry ∈ later.entries := by
  simp only [update, List.mem_append, List.mem_filter,
    Bool.not_eq_true', List.contains_eq_mem, decide_eq_false_iff_not]

/-
  If all that the later mapping says is there, the options of a
  changed mapping are the changed options.
-/
theorem get?_options_update
    (mapping : Mapping)
    {later : Mapping}
    (hThere : ∀ entry ∈ later.entries, entry.2.isNull = false)
    (key : Key) :
    (mapping.update later).options.get? key =
      (later.options.get? key <|> mapping.options.get? key) := by
  ext value
  rw [get?_options_eq_some_iff, mem_update_iff]
  by_cases hNamed : key.name ∈ later.entries.map Prod.fst
  · rcases List.mem_map.mp hNamed with ⟨⟨name, given⟩, hEntry, rfl⟩
    have hGet : later.options.get? key = some given :=
      get?_options_eq_some_iff.mpr ⟨hEntry, hThere _ hEntry⟩
    have hValue : later.options.get? key = some value ↔
        (key.name, value) ∈ later.entries ∧ value.isNull = false :=
      get?_options_eq_some_iff
    rw [hGet] at hValue ⊢
    simp only [hNamed, not_true, and_false, false_or]
    exact hValue.symm
  · have hMissing (other : Value) : (key.name, other) ∉ later.entries := by
      intro hMember
      exact hNamed (List.mem_map_of_mem hMember)
    have hGet : later.options.get? key = none := by
      rw [Option.eq_none_iff_forall_ne_some]
      intro other hOther
      exact hMissing other (get?_options_eq_some_iff.mp hOther).1
    rw [hGet]
    simp only [hNamed, hMissing, not_false_eq_true, and_true, or_false]
    exact get?_options_eq_some_iff.symm

end Mapping

end Marginalia
