import Mathlib.Data.List.Basic
import Marginalia.Proofs.Settings.Settling

/-
  This file shows what a run of overrides comes to. Settings
  that are changed by mappings one after the other, where a
  mapping that is refused changes nothing, are those of the
  first mapping with the accepted ones written over it.

  Key definitions include:
    * `Refused`
    * `Settings.toMapping`
    * `Settings.keep`
    * `Settings.accepted`
    * `Settings.written`

  Main results:
    * `Settings.override_eq_ok_iff`
    * `Settings.ofMapping_toMapping`
    * `Settings.overrideBy_eq_error_iff`
    * `Settings.foldl_keep_eq_ofMapping`
-/

namespace Marginalia

------------------------------------------------------------
-- Entries of Overrides
------------------------------------------------------------

/-
  An entry that no settings take: its key is unknown, or it is
  a number of workers, a format or a level out of range.
-/
inductive Refused : Text × Value → Prop where
  | unknownKey
      (name : Text)
      (value : Value)
      (hUnknown : ∀ key : Key, name ≠ key.name) :
      Refused (name, value)
  | tooFewWorkers
      (count : Int)
      (hFew : count < 1) :
      Refused (Key.maxWorkers.name, .number count)
  | unknownLogFormat
      (format : Text)
      (hFormat : format ∉ ["console".toList, "json".toList]) :
      Refused (Key.logFormat.name, .ofText format)
  | unknownLogLevel
      (level : Text)
      (hLevel :
        ∀ known ∈ Level.all,
          level.flatMap Level.capital ≠ known.name) :
      Refused (Key.logLevel.name, .ofText level)

/- An entry with a known key and a value that the key can have. -/
def Allowed
    (entry : Text × Value) : Prop :=
  ∃ key : Key, entry.1 = key.name ∧ key.InRange entry.2

/- An entry with a key is allowed by the range of that key. -/
theorem allowed_name_iff
    {key : Key}
    {value : Value} :
    Allowed (key.name, value) ↔ key.InRange value := by
  constructor
  · rintro ⟨other, hName, hRange⟩
    cases Key.name_injective hName
    exact hRange
  · intro hRange
    exact ⟨key, rfl, hRange⟩

/- What is out of the range of its key is refused. -/
theorem Refused.of_not_inRange
    {key : Key}
    {value : Value}
    (hRange : ¬key.InRange value) :
    Refused (key.name, value) := by
  -- Only three keys have a range at all.
  cases key with
  | maxWorkers =>
      cases value with
      | number count =>
          rw [Key.inRange_maxWorkers_iff] at hRange
          exact .tooFewWorkers count (Int.not_le.mp hRange)
      | _ => exact absurd (by rintro _ ⟨⟩) hRange
  | logFormat =>
      cases hText : value.text? with
      | none => simp [Key.InRange, hText] at hRange
      | some format =>
          rw [Value.text?_eq_some_iff.mp hText] at hRange ⊢
          rw [Key.inRange_logFormat_iff] at hRange
          exact .unknownLogFormat format hRange
  | logLevel =>
      cases hText : value.text? with
      | none => simp [Key.InRange, hText] at hRange
      | some level =>
          rw [Value.text?_eq_some_iff.mp hText] at hRange ⊢
          rw [Key.inRange_logLevel_iff] at hRange
          apply Refused.unknownLogLevel level
          intro known hKnown hName
          exact hRange ⟨known, hKnown, hName⟩
  | _ => exact absurd trivial hRange

/- An entry is refused unless it is allowed. -/
theorem refused_iff_not_allowed
    (entry : Text × Value) :
    Refused entry ↔ ¬Allowed entry := by
  constructor
  · intro hRefused
    cases hRefused with
    | unknownKey name value hUnknown =>
        rintro ⟨key, hName, _⟩
        exact hUnknown key hName
    | tooFewWorkers count hFew =>
        rw [allowed_name_iff, Key.inRange_maxWorkers_iff]
        exact Int.not_le.mpr hFew
    | unknownLogFormat format hFormat =>
        rw [allowed_name_iff, Key.inRange_logFormat_iff]
        exact hFormat
    | unknownLogLevel level hLevel =>
        rw [allowed_name_iff, Key.inRange_logLevel_iff]
        rintro ⟨known, hKnown, hName⟩
        exact hLevel known hKnown hName
  · intro hNot
    rcases entry with ⟨name, value⟩
    by_cases hKnown : ∃ key : Key, name = key.name
    · rcases hKnown with ⟨key, rfl⟩
      rw [allowed_name_iff] at hNot
      exact Refused.of_not_inRange hNot
    · apply Refused.unknownKey name value
      intro key hName
      exact hKnown ⟨key, hName⟩

namespace Mapping

/- An absent value is in every range. -/
theorem inRange_of_isNull
    (key : Key)
    {value : Value}
    (hNull : value.isNull = true) :
    key.InRange value := by
  cases value with
  | null => cases key <;> simp [Key.InRange, Value.number?, Value.text?,
      Value.raw?]
  | _ => cases hNull

/- A mapping gives fit options if all its entries are allowed. -/
theorem fit_options_iff
    (mapping : Mapping) :
    mapping.options.Fit ↔ ∀ entry ∈ mapping.entries, Allowed entry := by
  constructor
  · rintro ⟨hUnknown, hRange⟩ ⟨name, value⟩ hEntry
    rcases unknown_options_eq_nil_iff.mp hUnknown _ hEntry with
      ⟨key, rfl⟩
    refine ⟨key, rfl, ?_⟩
    cases hNull : value.isNull with
    | true => exact inRange_of_isNull key hNull
    | false =>
        exact hRange key value
          (get?_options_eq_some_iff.mpr ⟨hEntry, hNull⟩)
  · intro hAllowed
    constructor
    · rw [unknown_options_eq_nil_iff]
      intro entry hEntry
      rcases hAllowed entry hEntry with ⟨key, hName, _⟩
      exact ⟨key, hName⟩
    · intro key value hValue
      exact allowed_name_iff.mp
        (hAllowed _ (get?_options_eq_some_iff.mp hValue).1)

end Mapping

/- What a change says is there. -/
theorem Change.isNull_of_mem_present
    {change : Change}
    {entry : Text × Value}
    (hEntry : entry ∈ change.present.entries) :
    entry.2.isNull = false := by
  have hThere := (List.mem_filter.mp hEntry).2
  rw [Bool.not_eq_true'] at hThere
  exact hThere

------------------------------------------------------------
-- Overriding Settings
------------------------------------------------------------

namespace Settings

/- Settings are settled alike by options that are alike. -/
theorem Settles.congr
    {first second : Options}
    {settings : Settings}
    (hSettles : Settles first settings)
    (hFit : second.Fit)
    (hGet :
      ∀ key, (second.get? key <|> key.standard).map key.normal =
        (first.get? key <|> key.standard).map key.normal) :
    Settles second settings where
  toFit := hFit
  get? := fun key => (hSettles.get? key).trans (hGet key).symm
  root := hSettles.root
  template := hSettles.template

/- Settled settings are fit options again. -/
theorem Settles.fit_toOptions
    {options : Options}
    {settings : Settings}
    (hSettles : Settles options settings) :
    settings.toOptions.Fit := by
  refine ⟨rfl, ?_⟩
  intro key value hValue
  exact (hSettles.stored hValue).1

/-
  Below a change, settled settings say the same as the options
  that they come from: a stored value is settled as it is.
-/
theorem Settles.normal_update_toOptions
    {options : Options}
    {settings : Settings}
    (hSettles : Settles options settings)
    (later : Options)
    (key : Key) :
    ((settings.toOptions.update later).get? key <|>
        key.standard).map key.normal =
      ((options.update later).get? key <|>
        key.standard).map key.normal := by
  have hStored := hSettles.get? key
  unfold Settings.get? at hStored
  rw [Options.get?_update, Options.get?_update, hStored]
  cases later.get? key with
  | some value => rfl
  | none =>
      cases options.get? key with
      | some value => exact congrArg some (key.normal_normal value)
      | none =>
          cases key.standard with
          | none => rfl
          | some value => exact congrArg some (key.normal_normal value)

/-
  To override settings is to settle the options that they come
  from, with the override written over them.
-/
theorem override_eq_ok_iff
    {options later : Options}
    {settings next : Settings}
    (hSettled : ofOptions options = .ok settings) :
    settings.override later = .ok next ↔
      ofOptions (options.update later) = .ok next := by
  have hSettles := settles_of_ofOptions hSettled
  have hAlike := hSettles.normal_update_toOptions later
  have hFit :
      (settings.toOptions.update later).Fit ↔
        (options.update later).Fit := by
    rw [Options.fit_update_iff hSettles.fit_toOptions,
      Options.fit_update_iff hSettles.toFit]
  unfold override
  rw [ofOptions_eq_ok_iff, ofOptions_eq_ok_iff]
  constructor
  · intro hNext
    exact hNext.congr (hFit.mp hNext.toFit) fun key => (hAlike key).symm
  · intro hNext
    exact hNext.congr (hFit.mpr hNext.toFit) hAlike

/- An override succeeds exactly with fit options. -/
theorem exists_override_iff
    {options later : Options}
    {settings : Settings}
    (hSettled : ofOptions options = .ok settings) :
    (∃ next, settings.override later = .ok next) ↔ later.Fit := by
  have hSettles := settles_of_ofOptions hSettled
  rw [← Options.fit_update_iff hSettles.fit_toOptions]
  constructor
  · rintro ⟨next, hNext⟩
    exact (settles_of_ofOptions hNext).toFit
  · exact exists_ofOptions

------------------------------------------------------------
-- Settings and Mappings
------------------------------------------------------------

/- Only the directory of the template is left open by settings. -/
theorem eq_templateDirectory_of_get?_eq_none
    {settings : Settings}
    {key : Key}
    (hNone : settings.get? key = none) :
    key = .templateDirectory := by
  cases key with
  | templateDirectory => rfl
  | _ => cases hNone

/- The value of a key in settings, which may be absent. -/
def value
    (settings : Settings)
    (key : Key) : Value :=
  (settings.get? key).getD .null

/- A key takes its value in settings. -/
theorem takes_value
    (settings : Settings)
    (key : Key) :
    key.takes (settings.value key) = true := by
  unfold value
  cases hGet : settings.get? key with
  | none =>
      cases eq_templateDirectory_of_get?_eq_none hGet
      rfl
  | some value =>
      exact Bool.or_eq_true_iff.mpr (.inl (Options.admits_of_get? hGet))

/- Settings as a mapping that has an entry for each key. -/
def toMapping
    (settings : Settings) : Mapping where
  entries := Key.all.map fun key => (key.name, settings.value key)
  nodup := by
    rw [List.map_map]
    exact (by decide : (Key.all.map Key.name).Nodup)
  typed := by
    intro entry hEntry other hOther
    rcases List.mem_map.mp hEntry with ⟨key, _, rfl⟩
    rw [← Key.name_injective (Key.ofName?_eq_some_iff.mp hOther)]
    exact settings.takes_value key

/- Each key has its entry in the mapping of settings. -/
theorem mem_toMapping_iff
    {settings : Settings}
    {key : Key}
    {value : Value} :
    (key.name, value) ∈ settings.toMapping.entries ↔
      value = settings.value key := by
  have hAll : key ∈ Key.all := by
    cases key <;> decide
  unfold toMapping
  rw [List.mem_map]
  constructor
  · rintro ⟨other, _, hEntry⟩
    rw [Prod.mk.injEq] at hEntry
    rcases hEntry with ⟨hName, rfl⟩
    rw [Key.name_injective hName]
  · rintro rfl
    exact ⟨key, hAll, rfl⟩

/- The mapping of settings has the values of the settings. -/
theorem get?_options_toMapping
    (settings : Settings)
    (key : Key) :
    settings.toMapping.options.get? key = settings.get? key := by
  ext value
  rw [Mapping.get?_options_eq_some_iff, mem_toMapping_iff,
    Settings.value]
  cases hGet : settings.get? key with
  | none =>
      constructor
      · rintro ⟨rfl, ⟨⟩⟩
      · rintro ⟨⟩
  | some given =>
      constructor
      · rintro ⟨rfl, _⟩
        rfl
      · rintro ⟨⟩
        exact ⟨rfl, Key.isNull_of_admits (Options.admits_of_get? hGet)⟩

/- The mapping of settings has no unknown key. -/
theorem unknown_toMapping
    (settings : Settings) :
    settings.toMapping.options.unknown = [] := by
  rw [Mapping.unknown_options_eq_nil_iff]
  intro entry hEntry
  rcases List.mem_map.mp hEntry with ⟨key, _, rfl⟩
  exact ⟨key, rfl⟩

/- Settled settings are settled again from their mapping. -/
theorem ofMapping_toMapping
    {options : Options}
    {settings : Settings}
    (hSettled : ofOptions options = .ok settings) :
    ofMapping settings.toMapping = .ok settings := by
  have hSettles := settles_of_ofOptions hSettled
  have hGet := get?_options_toMapping settings
  unfold ofMapping
  rw [ofOptions_eq_ok_iff]
  refine ⟨⟨unknown_toMapping settings, ?_⟩, ?_, hSettles.root,
    hSettles.template⟩
  · intro key value hValue
    rw [hGet] at hValue
    exact (hSettles.stored hValue).1
  · intro key
    rw [hGet]
    cases hValue : settings.get? key with
    | none =>
        cases eq_templateDirectory_of_get?_eq_none hValue
        rfl
    | some value =>
        exact congrArg some (hSettles.stored hValue).2.symm

/- A mapping is refused exactly by an entry that is. -/
theorem overrideBy_eq_error_iff
    {options : Options}
    {settings : Settings}
    (hSettled : ofOptions options = .ok settings)
    (change : Change) :
    (∃ fault, settings.overrideBy change = .error fault) ↔
      ∃ entry ∈ change.present.entries, Refused entry := by
  have hExists :
      (∃ next, settings.overrideBy change = .ok next) ↔
        ∀ entry ∈ change.present.entries, Allowed entry :=
    (exists_override_iff hSettled).trans change.present.fit_options_iff
  have hRefused :
      (∃ entry ∈ change.present.entries, Refused entry) ↔
        ¬∀ entry ∈ change.present.entries, Allowed entry := by
    simp only [refused_iff_not_allowed, not_forall, exists_prop]
  rw [hRefused, ← hExists]
  cases settings.overrideBy change <;> simp

/-
  Settings of a mapping, once overridden, are those of the
  mapping with the override written over it.
-/
theorem ofMapping_update_present
    {mapping : Mapping}
    {change : Change}
    {settings next : Settings}
    (hSettled : ofMapping mapping = .ok settings)
    (hNext : settings.overrideBy change = .ok next) :
    ofMapping (mapping.update change.present) = .ok next := by
  have hAllowed :=
    change.present.fit_options_iff.mp
      ((exists_override_iff hSettled).mp ⟨next, hNext⟩)
  have hBefore :=
    mapping.fit_options_iff.mp (settles_of_ofOptions hSettled).toFit
  have hSettles :=
    settles_of_ofOptions ((override_eq_ok_iff hSettled).mp hNext)
  have hGet (key : Key) :
      (mapping.update change.present).options.get? key =
        (mapping.options.update change.present.options).get? key := by
    rw [Options.get?_update]
    exact Mapping.get?_options_update mapping
      (fun _ hEntry => Change.isNull_of_mem_present hEntry) key
  unfold ofMapping
  rw [ofOptions_eq_ok_iff]
  refine hSettles.congr ?_ fun key => by rw [hGet]
  rw [Mapping.fit_options_iff]
  intro entry hEntry
  rcases Mapping.mem_update_iff.mp hEntry with ⟨hFirst, _⟩ | hLater
  · exact hBefore entry hFirst
  · exact hAllowed entry hLater

------------------------------------------------------------
-- Runs of Overrides
------------------------------------------------------------

/- The settings after a change, which a refused one leaves. -/
def keep
    (settings : Settings)
    (change : Change) : Settings :=
  match settings.overrideBy change with
  | .ok next => next
  | .error _ => settings

/- The changes that are not refused, each at its turn. -/
def accepted
    (settings : Settings) : List Change → List Change
  | [] => []
  | change :: rest =>
      match settings.overrideBy change with
      | .ok next => change :: accepted next rest
      | .error _ => accepted settings rest

/- A mapping with the present entries of changes written over it. -/
def written
    (mapping : Mapping)
    (changes : List Change) : Mapping :=
  changes.foldl (fun before change => before.update change.present)
    mapping

/- A run of changes comes to the accepted ones written in order. -/
theorem ofMapping_written_accepted
    {mapping : Mapping}
    {settings : Settings}
    (hSettled : ofMapping mapping = .ok settings)
    (changes : List Change) :
    ofMapping (written mapping (accepted settings changes)) =
      .ok (changes.foldl keep settings) := by
  induction changes generalizing mapping settings with
  | nil => exact hSettled
  | cons change rest ih =>
      rw [List.foldl_cons]
      unfold keep accepted
      cases hNext : settings.overrideBy change with
      | error fault => exact ih hSettled
      | ok next =>
          exact ih (ofMapping_update_present hSettled hNext)

/- All settings on the way are those of some mapping. -/
theorem exists_ofMapping_of_mem_scanl
    {mapping : Mapping}
    {settings : Settings}
    (hSettled : ofMapping mapping = .ok settings)
    (changes : List Change)
    {current : Settings}
    (hCurrent : current ∈ changes.scanl keep settings) :
    ∃ source, ofMapping source = .ok current := by
  induction changes generalizing mapping settings with
  | nil =>
      rw [List.scanl_nil, List.mem_singleton] at hCurrent
      exact ⟨mapping, hCurrent ▸ hSettled⟩
  | cons change rest ih =>
      rw [List.scanl_cons, List.mem_cons] at hCurrent
      rcases hCurrent with rfl | hCurrent
      · exact ⟨mapping, hSettled⟩
      · have hStep := ofMapping_written_accepted hSettled [change]
        exact ih hStep hCurrent

/- The extension of settled settings starts with no point. -/
theorem head?_fileExtension_ne
    {options : Options}
    {settings : Settings}
    (hSettled : ofOptions options = .ok settings) :
    settings.fileExtension.head? ≠ some '.' := by
  have hStored :=
    ((settles_of_ofOptions hSettled).stored
      (rfl : settings.get? .fileExtension = some _)).2
  rw [Key.normal_fileExtension] at hStored
  have hDrop := Value.ofText_injective hStored
  have hHead :=
    List.head?_dropWhile_not (· == '.') settings.fileExtension
  rw [hDrop] at hHead
  intro hPoint
  rw [hPoint] at hHead
  cases hHead

/- Settled settings have a worker at least. -/
theorem one_le_maxWorkers
    {options : Options}
    {settings : Settings}
    (hSettled : ofOptions options = .ok settings) :
    1 ≤ settings.maxWorkers := by
  have hRange :
      Key.InRange .maxWorkers (.number settings.maxWorkers) :=
    ((settles_of_ofOptions hSettled).stored rfl).1
  exact Int.ofNat_le.mp (Key.inRange_maxWorkers_iff.mp hRange)

/- Their level has the name of a level in capitals. -/
theorem exists_level_of_ofOptions
    {options : Options}
    {settings : Settings}
    (hSettled : ofOptions options = .ok settings) :
    ∃ level ∈ Level.all,
      settings.logLevel.flatMap Level.capital = level.name := by
  have hRange : Key.InRange .logLevel (.ofText settings.logLevel) :=
    ((settles_of_ofOptions hSettled).stored rfl).1
  exact Key.inRange_logLevel_iff.mp hRange

end Settings

end Marginalia
