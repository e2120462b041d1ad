import Marginalia.Command
import Marginalia.Proofs.Settings.Override
import Marginalia.Proofs.Settings.Precedence
import Marginalia.Proofs.Text.Utf8
import Marginalia.Yaml.Loader

/-
  This file shows when the settings of a run are loaded, or
  refused by a fault that a run expects there. Whatever a file
  holds, and even if there is none, only two things let another
  fault through: bytes that the loader cannot decode, and a
  mapping with a key that is no text.

  Key definitions include:
    * `Loader.Decodes`
    * `SettingsFile.Explained`
    * `SettingsFile.Answers`
    * `SettingsFile.Legible`

  Main results:
    * `Yaml.decodes_loader`
    * `SettingsFile.explained_options_iff`
    * `Command.answers_iff_legible`
-/

namespace Marginalia

------------------------------------------------------------
-- Settings That Are Settled
------------------------------------------------------------

namespace Settings

/- Settled settings are valid. -/
theorem valid_of_ofOptions
    {options : Options}
    {settings : Settings}
    (hSettled : ofOptions options = .ok settings) :
    settings.Valid :=
  ⟨one_le_maxWorkers hSettled, head?_fileExtension_ne hSettled,
    Level.isSome_ofName?_iff.mpr (exists_level_of_ofOptions hSettled)⟩

/- Options are never refused for keys that are no texts. -/
theorem ne_keysNotTexts_of_ofOptions
    {options : Options}
    {fault : Fault}
    (hFault : ofOptions options = .error fault) :
    fault ≠ .keysNotTexts := by
  rintro rfl
  unfold ofOptions at hFault
  extract_lets standard workers format level at hFault
  repeat' split at hFault
  all_goals cases hFault

end Settings

namespace SettingsFile

------------------------------------------------------------
-- Faults That Are Expected
------------------------------------------------------------

/- An attempt that fails, if it does, for its settings. -/
def Explained
    {α : Type}
    (attempt : Except Fault α) : Prop :=
  ∀ fault, attempt = .error fault → fault.category = .config

/- An attempt that gives valid settings, or fails for them. -/
def Answers
    (attempt : Except Fault Settings) : Prop :=
  (∃ settings, attempt = .ok settings ∧ settings.Valid) ∨
    ∃ fault, attempt = .error fault ∧ fault.category = .config

/- If what is given is valid, only the faults count. -/
theorem answers_iff
    {attempt : Except Fault Settings}
    (hValid : ∀ settings, attempt = .ok settings → settings.Valid) :
    Answers attempt ↔ Explained attempt := by
  unfold Answers Explained
  cases attempt with
  | error fault => simp
  | ok settings => simpa using hValid settings rfl

/- A second attempt that is explained adds no other fault. -/
theorem explained_bind_iff
    {α β : Type}
    {first : Except Fault α}
    {next : α → Except Fault β}
    (hNext : ∀ value, Explained (next value)) :
    Explained (first >>= next) ↔ Explained first := by
  constructor
  · intro hBoth fault hFirst
    exact hBoth fault (Attempts.bind_eq_error_iff.mpr (.inl hFirst))
  · intro hFirst fault hBoth
    rcases Attempts.bind_eq_error_iff.mp hBoth with
      hError | ⟨value, _, hError⟩
    · exact hFirst fault hError
    · exact hNext value fault hError

/- Settling is explained. -/
theorem explained_settle
    (options : Options) :
    Explained (settle options) := by
  intro fault hFault
  unfold settle at hFault
  cases hSettled : Settings.ofOptions options with
  | ok settings =>
      rw [hSettled] at hFault
      cases hFault
  | error cause =>
      rw [hSettled] at hFault
      cases hFault
      have hCause := Settings.ne_keysNotTexts_of_ofOptions hSettled
      cases cause with
      | keysNotTexts => exact absurd rfl hCause
      | _ => rfl

------------------------------------------------------------
-- Files That Can Be Read
------------------------------------------------------------

variable {loader : Loader}
variable {tree : FileTree}

/-
  What a file has to hold, if there is one, so that its
  settings are loaded or refused: bytes that are decoded and,
  if they are those of a mapping, only keys that are texts.
-/
def Legible
    (loader : Loader)
    (tree : FileTree)
    (path : Path) : Prop :=
  ∀ bytes, tree.read path = .ok bytes →
    (∀ fault, loader bytes ≠ .error (.undecodable fault)) ∧
      loader bytes ≠ .ok .unnamed

/- The options of a file are explained exactly if it is legible. -/
theorem explained_options_iff
    {path : Path} :
    Explained (options loader tree path) ↔
      Legible loader tree path := by
  unfold Explained options Legible
  cases tree.read path with
  | error fault => simp [Fault.category]
  | ok bytes =>
      simp only [Except.ok.injEq, forall_eq']
      cases loader bytes with
      | error fault =>
          cases fault <;> simp [Fault.category]
      | ok content =>
          cases content with
          | mapping mapping => simp
          | unnamed => simp [Fault.category]
          | other isVoid =>
              cases isVoid <;> simp [Fault.category]

------------------------------------------------------------
-- Settings That Are Loaded
------------------------------------------------------------

/- The settings of a file fail as its options do. -/
theorem explained_load_iff
    {path : Path} :
    Explained (load loader tree path) ↔ Legible loader tree path :=
  (explained_bind_iff explained_settle).trans explained_options_iff

/- The settings of a run fail as those of its file do. -/
theorem explained_settings_iff
    {asked projectRoot : Option Text} :
    Explained (settings loader tree asked projectRoot) ↔
      ∀ path ∈ choose tree asked projectRoot,
        Legible loader tree path := by
  unfold settings
  extract_lets rooted
  have hRooted (loaded : Settings) : Explained (rooted loaded) := by
    unfold rooted
    cases projectRoot with
    | none =>
        intro fault hFault
        cases hFault
    | some root => exact explained_settle _
  cases choose tree asked projectRoot with
  | none =>
      simpa using
        (explained_bind_iff hRooted).mpr (explained_settle {})
  | some path =>
      simpa using
        (explained_bind_iff hRooted).trans explained_load_iff

end SettingsFile

------------------------------------------------------------
-- Loaders That Decode
------------------------------------------------------------

/-
  What is taken for granted of a loader: it decodes the bytes
  of every text. Whether it looks at all bytes before it finds
  a text malformed is left open.
-/
def Loader.Decodes
    (loader : Loader) : Prop :=
  ∀ text fault,
    loader (Utf8.encode text) ≠ .error (.undecodable fault)

/- The loader of the program does so. -/
theorem Yaml.decodes_loader : Loader.Decodes Yaml.loader := by
  intro text fault
  have hText : Utf8.decode (Utf8.encode text) = .ok text :=
    Utf8.decode_eq_ok_iff.mpr rfl
  unfold Yaml.loader
  rw [hText]
  dsimp only
  split
  · rintro ⟨⟩
  · rintro ⟨⟩

/- The bytes of a text are legible by their keys alone. -/
theorem SettingsFile.legible_of_encode
    {loader : Loader}
    {tree : FileTree}
    {path : Path}
    {text : Text}
    (hDecodes : loader.Decodes)
    (hRead : tree.read path = .ok (Utf8.encode text))
    (hNamed : loader (Utf8.encode text) ≠ .ok .unnamed) :
    Legible loader tree path := by
  intro bytes hBytes
  cases hRead.symm.trans hBytes
  exact ⟨hDecodes text, hNamed⟩

namespace Command

open SettingsFile

/- What a request changes in the settings adds no other fault. -/
theorem explained_request_iff
    {loader : Loader}
    {tree : FileTree}
    {request : BuildRequest} :
    Explained (BuildRequest.settings loader tree request) ↔
      ∀ path ∈ choose tree request.settingsFile request.projectRoot,
        Legible loader tree path :=
  (explained_bind_iff fun _ => explained_settle _).trans
    explained_settings_iff

/- A run by settled settings handles all its faults. -/
theorem unhandled_runSettings
    (engine : Engine)
    (tree : FileTree)
    (settings : Settings)
    (verbose : Bool) :
    (runSettings engine tree settings verbose).unhandled = none := by
  unfold runSettings
  extract_lets level opening run
  split <;> rfl

/- A build leaves no fault unhandled but those not explained. -/
theorem unhandled_eq_none_iff
    {engine : Engine}
    {loader : Loader}
    {tree : FileTree}
    {request : BuildRequest} :
    (runBuild engine loader tree request).unhandled = none ↔
      (BuildRequest.isUsable tree request = true →
        Explained (BuildRequest.settings loader tree request)) := by
  unfold runBuild
  cases hUsable : BuildRequest.isUsable tree request with
  | false => simp [misused]
  | true =>
      unfold Explained
      cases hSettings : BuildRequest.settings loader tree request with
      | ok settings => simp [unhandled_runSettings]
      | error fault =>
          by_cases hConfig : fault.category = .config <;>
            simp [hConfig]

end Command

end Marginalia
