import Marginalia.Proofs.Attempts
import Marginalia.Proofs.Path
import Marginalia.Proofs.Settings.Options
import Marginalia.Settings

/-
  This file shows what settings are settled from options: each
  key has its given or standard value, in the form in which it
  is stored. Whether options can be settled is seen from their
  values one by one.

  Key definitions include:
    * `Key.normal`
    * `Key.standard`
    * `Key.InRange`
    * `Options.InRange`
    * `Options.Fit`
    * `Settings.get?`
    * `Settings.Settles`

  Main results:
    * `Settings.ofOptions_eq_ok_iff`
    * `Settings.eq_of_get?_eq`
    * `Settings.exists_ofOptions`
    * `Settings.Settles.stored`
-/

namespace Marginalia

------------------------------------------------------------
-- Names of Levels and Formats
------------------------------------------------------------

/- A format is found by its name. -/
theorem LogFormat.ofName?_eq_some_iff
    {name : Text}
    {format : LogFormat} :
    ofName? name = some format ↔ name = format.name := by
  constructor
  · intro hFound
    have hName := List.find?_some hFound
    exact (beq_iff_eq.mp hName).symm
  · rintro rfl
    cases format <;> decide

/- A level is found by each spelling whose capitals are its name. -/
theorem Level.isSome_ofName?_iff
    {name : Text} :
    (ofName? name).isSome = true ↔
      ∃ level ∈ all, name.flatMap capital = level.name := by
  unfold ofName?
  rw [List.find?_isSome]
  constructor
  · rintro ⟨level, hLevel, hName⟩
    exact ⟨level, hLevel, (beq_iff_eq.mp hName).symm⟩
  · rintro ⟨level, hLevel, hName⟩
    exact ⟨level, hLevel, beq_iff_eq.mpr hName.symm⟩

------------------------------------------------------------
-- Values of Keys
------------------------------------------------------------

namespace Value

/- A value with its text changed, if it is a plain text. -/
def mapText
    (change : Text → Text)
    (value : Value) : Value :=
  (value.text?.map fun text => ofText (change text)).getD value

/- The text of a plain text is changed. -/
theorem mapText_ofText
    (change : Text → Text)
    (text : Text) :
    (ofText text).mapText change = ofText (change text) := by
  unfold mapText
  rw [text?_eq_some_iff.mpr rfl]
  rfl

/- A change that changes nothing more is the same twice. -/
theorem mapText_mapText
    {change : Text → Text}
    (hChange : ∀ text, change (change text) = change text)
    (value : Value) :
    (value.mapText change).mapText change = value.mapText change := by
  cases hText : value.text? with
  | none =>
      have hSame : value.mapText change = value := by
        unfold mapText
        rw [hText]
        rfl
      rw [hSame, hSame]
  | some text =>
      rw [text?_eq_some_iff.mp hText, mapText_ofText, mapText_ofText,
        hChange]

end Value

namespace Key

/- The form in which the value of a key is stored. -/
def normal
    (key : Key)
    (value : Value) : Value :=
  match key with
  | .projectRoot | .templateDirectory =>
      value.mapText fun text => (Path.ofText text).toText
  | .fileExtension => value.mapText (·.dropWhile (· == '.'))
  | _ => value

/- A root is stored as a path. -/
theorem normal_projectRoot
    (text : Text) :
    normal .projectRoot (.ofText text) =
      .ofText (Path.ofText text).toText :=
  Value.mapText_ofText _ text

/- So is the directory of the template. -/
theorem normal_templateDirectory
    (text : Text) :
    normal .templateDirectory (.ofText text) =
      .ofText (Path.ofText text).toText :=
  Value.mapText_ofText _ text

/- An extension is stored without the points at its start. -/
theorem normal_fileExtension
    (text : Text) :
    normal .fileExtension (.ofText text) =
      .ofText (text.dropWhile (· == '.')) :=
  Value.mapText_ofText _ text

/- The value of a key that is left open, if it has one. -/
def standard
    (key : Key) : Option Value :=
  (Settings.toOptions {}).get? key

/- A value that a key can have, among those of its type. -/
def InRange
    (key : Key)
    (value : Value) : Prop :=
  match key with
  | .maxWorkers => ∀ count ∈ value.number?, 1 ≤ count
  | .logFormat =>
      ∀ name ∈ value.text?, name ∈ ["console".toList, "json".toList]
  | .logLevel =>
      ∀ name ∈ value.text?, ∃ level ∈ Level.all,
        name.flatMap Level.capital = level.name
  | _ => True

/- A number of workers is in range if there is one. -/
theorem inRange_maxWorkers_iff
    {count : Int} :
    InRange .maxWorkers (.number count) ↔ 1 ≤ count := by
  simp [InRange, Value.number?]

/- A format is in range by its name. -/
theorem inRange_logFormat_iff
    {name : Text} :
    InRange .logFormat (.ofText name) ↔
      name ∈ ["console".toList, "json".toList] := by
  unfold InRange
  rw [Value.text?_eq_some_iff.mpr rfl]
  exact ⟨fun hNames => hNames name rfl, by rintro hName _ ⟨⟩; exact hName⟩

/- A level is in range by its capitals. -/
theorem inRange_logLevel_iff
    {name : Text} :
    InRange .logLevel (.ofText name) ↔
      ∃ level ∈ Level.all, name.flatMap Level.capital = level.name := by
  unfold InRange
  rw [Value.text?_eq_some_iff.mpr rfl]
  exact ⟨fun hNames => hNames name rfl, by rintro hName _ ⟨⟩; exact hName⟩

/- The stored form is stored as it is. -/
theorem normal_normal
    (key : Key)
    (value : Value) :
    key.normal (key.normal value) = key.normal value := by
  have hPath (text : Text) :
      (Path.ofText (Path.ofText text).toText).toText =
        (Path.ofText text).toText := by
    rw [Path.ofText_toText (Path.isStored_ofText text)]
  cases key with
  | projectRoot | templateDirectory =>
      exact Value.mapText_mapText hPath value
  | fileExtension =>
      exact Value.mapText_mapText
        (fun text => List.dropWhile_idempotent (· == '.') text) value
  | _ => rfl

/- Storing a value does not change whether it is in range. -/
theorem inRange_normal_iff
    (key : Key)
    (value : Value) :
    key.InRange (key.normal value) ↔ key.InRange value := by
  cases key <;> exact Iff.rfl

/- Standard values are in range. -/
theorem inRange_of_standard
    {key : Key}
    {value : Value}
    (hStandard : key.standard = some value) :
    key.InRange value := by
  cases key with
  | maxWorkers =>
      cases hStandard
      exact inRange_maxWorkers_iff.mpr
        (Int.ofNat_le.mpr (Nat.le_add_left 1 3))
  | logFormat =>
      cases hStandard
      exact inRange_logFormat_iff.mpr List.mem_cons_self
  | logLevel =>
      cases hStandard
      exact inRange_logLevel_iff.mpr
        (Level.isSome_ofName?_iff.mp (by decide))
  | templateDirectory => cases hStandard
  | _ =>
      cases hStandard
      trivial

end Key

------------------------------------------------------------
-- Values of Options
------------------------------------------------------------

namespace Options

/- Options whose values are all in range. -/
def InRange
    (options : Options) : Prop :=
  ∀ key value, options.get? key = some value → key.InRange value

/- With standard values for the rest, all are still in range. -/
theorem InRange.given_or_standard
    {options : Options}
    (hRange : options.InRange)
    {key : Key}
    {value : Value}
    (hValue : (options.get? key <|> key.standard) = some value) :
    key.InRange value := by
  cases hGet : options.get? key with
  | none =>
      rw [hGet] at hValue
      exact Key.inRange_of_standard hValue
  | some given =>
      rw [hGet] at hValue
      cases hValue
      exact hRange key value hGet

/-
  Options from which settings can be settled: without unknown
  keys and with values in range.
-/
structure Fit
    (options : Options) : Prop where
  unknown : options.unknown = []
  inRange : options.InRange

/- Fit options stay so by changes that are fit, and only so. -/
theorem fit_update_iff
    {options later : Options}
    (hFit : options.Fit) :
    (options.update later).Fit ↔ later.Fit := by
  constructor
  · rintro ⟨hUnknown, hRange⟩
    refine ⟨(List.append_eq_nil_iff.mp hUnknown).2, ?_⟩
    intro key value hValue
    apply hRange key value
    rw [get?_update, hValue]
    rfl
  · rintro ⟨hUnknown, hRange⟩
    constructor
    · exact List.append_eq_nil_iff.mpr ⟨hFit.unknown, hUnknown⟩
    · intro key value hValue
      rw [get?_update] at hValue
      cases hGet : later.get? key with
      | none =>
          rw [hGet] at hValue
          exact hFit.inRange key value hValue
      | some given =>
          rw [hGet] at hValue
          cases hValue
          exact hRange key value hGet

end Options

------------------------------------------------------------
-- Settings by Key
------------------------------------------------------------

namespace Settings

/- The value of a key in settings. -/
def get?
    (settings : Settings)
    (key : Key) : Option Value :=
  settings.toOptions.get? key

/-
  Options settle settings: there is nothing to complain of,
  and each key has the given value, or else the standard one,
  in its stored form.
-/
structure Settles
    (options : Options)
    (settings : Settings) : Prop extends options.Fit where
  get? :
    ∀ key, settings.get? key =
      (options.get? key <|> key.standard).map key.normal
  root : settings.projectRoot.IsStored
  template :
    ∀ directory ∈ settings.templateDirectory, directory.IsStored

/- Settings whose paths are stored are told apart by their keys. -/
theorem eq_of_get?_eq
    {first second : Settings}
    (hFirstRoot : first.projectRoot.IsStored)
    (hSecondRoot : second.projectRoot.IsStored)
    (hFirstTemplate :
      ∀ directory ∈ first.templateDirectory, directory.IsStored)
    (hSecondTemplate :
      ∀ directory ∈ second.templateDirectory, directory.IsStored)
    (hGet : ∀ key, first.get? key = second.get? key) :
    first = second := by
  have hPath {one other : Path}
      (hOne : one.IsStored)
      (hOther : other.IsStored)
      (hText : one.toText = other.toText) : one = other := by
    rw [← Path.ofText_toText hOne, hText, Path.ofText_toText hOther]
  have hText {one other : Text}
      (hValue : some (Value.ofText one) = some (Value.ofText other)) :
      one = other :=
    Value.ofText_injective (Option.some.inj hValue)
  have hRaw {one other : RawText}
      (hValue : some (Value.text one) = some (Value.text other)) :
      one = other :=
    Value.text.inj (Option.some.inj hValue)
  have hTexts {one other : List Text}
      (hValue :
        some (Value.ofTexts one) = some (Value.ofTexts other)) :
      one = other :=
    Value.ofTexts_injective (Option.some.inj hValue)
  have hFlag {one other : Bool}
      (hValue : some (Value.flag one) = some (Value.flag other)) :
      one = other :=
    Value.flag.inj (Option.some.inj hValue)
  have hTemplate :
      first.templateDirectory = second.templateDirectory := by
    have hValue := hGet .templateDirectory
    cases hFirst : first.templateDirectory with
    | none =>
        cases hSecond : second.templateDirectory with
        | none => rfl
        | some other =>
            simp [get?, toOptions, Options.get?, hFirst, hSecond] at hValue
    | some one =>
        cases hSecond : second.templateDirectory with
        | none =>
            simp [get?, toOptions, Options.get?, hFirst, hSecond] at hValue
        | some other =>
            simp only [get?, toOptions, Options.get?, hFirst, hSecond,
              Option.map_some] at hValue
            rw [hPath (hFirstTemplate one hFirst)
              (hSecondTemplate other hSecond) (hText hValue)]
  have hFormat : first.logFormat = second.logFormat := by
    have hName := hText (hGet .logFormat)
    have hFound := LogFormat.ofName?_eq_some_iff.mpr hName
    rw [LogFormat.ofName?_eq_some_iff.mpr rfl] at hFound
    exact Option.some.inj hFound
  rcases first with ⟨⟩
  rcases second with ⟨⟩
  rw [Settings.mk.injEq]
  exact ⟨hPath hFirstRoot hSecondRoot (hText (hGet .projectRoot)),
    hTexts (hGet .files), hTexts (hGet .directories),
    hFlag (hGet .consolidateOutput), hText (hGet .outputFile),
    hRaw (hGet .headerText), hRaw (hGet .footerText),
    hFlag (hGet .headerTable), hTexts (hGet .moduleList),
    hText (hGet .fileExtension), hFlag (hGet .showAbout),
    hFlag (hGet .skip),
    Int.ofNat.inj (Value.number.inj (Option.some.inj
      (hGet .maxWorkers))),
    hTemplate, hText (hGet .logLevel), hFormat⟩

/- What is settled from options is settled by their keys. -/
theorem settles_of_ofOptions
    {options : Options}
    {settings : Settings}
    (hSettled : ofOptions options = .ok settings) :
    Settles options settings := by
  rcases options with ⟨projectRoot, files, directories,
    consolidateOutput, outputFile, headerText, footerText,
    headerTable, moduleList, fileExtension, showAbout, skip,
    maxWorkers, templateDirectory, logLevel, logFormat, unknown⟩
  unfold ofOptions at hSettled
  extract_lets standard workers formatName level at hSettled
  rcases Attempts.ok_of_check hSettled with ⟨hUnknown, hSettled⟩
  rcases Attempts.ok_of_check hSettled with ⟨hWorkers, hSettled⟩
  split at hSettled
  · cases hSettled
  · rename_i format hFormat
    rcases Attempts.ok_of_check hSettled with ⟨hLevel, hSettled⟩
    rw [LogFormat.ofName?_eq_some_iff] at hFormat
    cases hSettled
    refine ⟨⟨?_, ?_⟩, ?_, ?_, ?_⟩
    · simpa using hUnknown
    · intro key value hGet
      cases key with
      | maxWorkers =>
          rcases Option.map_eq_some_iff.mp hGet with ⟨count, rfl, rfl⟩
          exact Key.inRange_maxWorkers_iff.mpr (Int.not_lt.mp hWorkers)
      | logFormat =>
          rcases Option.map_eq_some_iff.mp hGet with ⟨name, rfl, rfl⟩
          have hName : name = format.name := hFormat
          rw [hName, Key.inRange_logFormat_iff]
          cases format
          · exact List.mem_cons_self
          · exact List.mem_cons_of_mem _ List.mem_cons_self
      | logLevel =>
          rcases Option.map_eq_some_iff.mp hGet with ⟨name, rfl, rfl⟩
          rw [Key.inRange_logLevel_iff, ← Level.isSome_ofName?_iff,
            Option.isSome_iff_ne_none]
          intro hNone
          exact hLevel (Option.isNone_iff_eq_none.mpr hNone)
      | _ => trivial
    · have hCount : (workers.toNat : Int) = workers :=
        Int.toNat_of_nonneg (by omega)
      intro key
      cases key with
      | projectRoot =>
          cases projectRoot with
          | none => rfl
          | some text =>
              exact congrArg some (Key.normal_projectRoot text).symm
      | files => cases files <;> rfl
      | directories => cases directories <;> rfl
      | consolidateOutput => cases consolidateOutput <;> rfl
      | outputFile => cases outputFile <;> rfl
      | headerText => cases headerText <;> rfl
      | footerText => cases footerText <;> rfl
      | headerTable => cases headerTable <;> rfl
      | moduleList => cases moduleList <;> rfl
      | fileExtension =>
          cases fileExtension with
          | none => rfl
          | some text =>
              exact congrArg some (Key.normal_fileExtension text).symm
      | showAbout => cases showAbout <;> rfl
      | skip => cases skip <;> rfl
      | maxWorkers =>
          have hValue := congrArg (some ∘ Value.number) hCount
          cases maxWorkers <;> exact hValue
      | templateDirectory =>
          cases templateDirectory with
          | none => rfl
          | some text =>
              exact congrArg some (Key.normal_templateDirectory text).symm
      | logLevel => cases logLevel <;> rfl
      | logFormat =>
          have hValue := congrArg (some ∘ Value.ofText) hFormat.symm
          cases logFormat <;> exact hValue
    · cases projectRoot with
      | none => exact Path.isStored_ofText []
      | some text => exact Path.isStored_ofText text
    · intro directory hDirectory
      rcases Option.map_eq_some_iff.mp hDirectory with ⟨text, _, rfl⟩
      exact Path.isStored_ofText text

/- Options with nothing to complain of are settled. -/
theorem exists_ofOptions
    {options : Options}
    (hFit : options.Fit) :
    ∃ settings, ofOptions options = .ok settings := by
  unfold ofOptions
  extract_lets standard workers formatName level
  have hWorkers : ¬workers < 1 := by
    have hValue :
        (options.get? .maxWorkers <|> Key.standard .maxWorkers) =
          some (.number workers) := by
      unfold workers Options.get?
      cases options.maxWorkers <;> rfl
    exact Int.not_lt.mpr (Key.inRange_maxWorkers_iff.mp
      (hFit.inRange.given_or_standard hValue))
  have hFormat :
      ∃ format, LogFormat.ofName? formatName = some format := by
    have hValue :
        (options.get? .logFormat <|> Key.standard .logFormat) =
          some (.ofText formatName) := by
      unfold formatName Options.get?
      cases options.logFormat <;> rfl
    have hNames :=
      Key.inRange_logFormat_iff.mp
        (hFit.inRange.given_or_standard hValue)
    rcases List.mem_cons.mp hNames with hName | hName
    · exact ⟨.console, LogFormat.ofName?_eq_some_iff.mpr hName⟩
    · exact ⟨.json, LogFormat.ofName?_eq_some_iff.mpr
        (List.mem_singleton.mp hName)⟩
  have hLevel : ¬(Level.ofName? level).isNone = true := by
    have hValue :
        (options.get? .logLevel <|> Key.standard .logLevel) =
          some (.ofText level) := by
      unfold level Options.get?
      cases options.logLevel <;> rfl
    have hFound :=
      Level.isSome_ofName?_iff.mpr
        (Key.inRange_logLevel_iff.mp
          (hFit.inRange.given_or_standard hValue))
    rw [Option.isNone_iff_eq_none]
    exact Option.isSome_iff_ne_none.mp hFound
  rcases hFormat with ⟨format, hFormat⟩
  rw [hFit.unknown, if_neg (by simp), if_neg hWorkers, hFormat]
  simp only [if_neg hLevel]
  exact ⟨_, rfl⟩

/- Settings are settled from options exactly by their keys. -/
theorem ofOptions_eq_ok_iff
    {options : Options}
    {settings : Settings} :
    ofOptions options = .ok settings ↔ Settles options settings := by
  constructor
  · exact settles_of_ofOptions
  · intro hSettles
    rcases exists_ofOptions hSettles.toFit with ⟨other, hOther⟩
    have hAlike := settles_of_ofOptions hOther
    have hEq : other = settings := by
      apply eq_of_get?_eq hAlike.root hSettles.root hAlike.template
        hSettles.template
      intro key
      rw [hAlike.get?, hSettles.get?]
    rw [hOther, hEq]

/- What is settled is in range and in its stored form. -/
theorem Settles.stored
    {options : Options}
    {settings : Settings}
    (hSettles : Settles options settings)
    {key : Key}
    {value : Value}
    (hValue : settings.get? key = some value) :
    key.InRange value ∧ key.normal value = value := by
  rw [hSettles.get?] at hValue
  rcases Option.map_eq_some_iff.mp hValue with ⟨given, hGiven, rfl⟩
  refine ⟨?_, Key.normal_normal key given⟩
  rw [Key.inRange_normal_iff]
  exact hSettles.inRange.given_or_standard hGiven

end Settings

end Marginalia
