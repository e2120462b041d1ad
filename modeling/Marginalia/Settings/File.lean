import Marginalia.Fault

/-
  This file loads settings from a file. How the bytes of a file
  are read is left open: a loader is any way to make a mapping
  of them, and all else is stated for every loader.

  Key definitions include:
    * `Loader.Content`
    * `Loader`
    * `SettingsFile.options`
    * `SettingsFile.load`
    * `SettingsFile.choose`
    * `SettingsFile.settings`
-/

namespace Marginalia

------------------------------------------------------------
-- Loaders
------------------------------------------------------------

namespace Loader

/-
  What the bytes of a settings file stand for: a mapping with
  names for its keys, a mapping with another key, or a value
  that is no mapping and may say nothing.
-/
inductive Content where
  | mapping (mapping : Mapping)
  | unnamed
  | other (isVoid : Bool)

/-
  Why the bytes of a settings file stand for nothing: the text
  is malformed, or there is no text.
-/
inductive Fault where
  | malformed
  | undecodable (fault : Utf8.Fault)
  deriving DecidableEq, Repr

end Loader

/- A way to read the bytes of a settings file. -/
abbrev Loader :=
  List UInt8 → Except Loader.Fault Loader.Content

namespace SettingsFile

------------------------------------------------------------
-- Settings Files
------------------------------------------------------------

/- The name of the settings file that is looked for by itself. -/
def standardName : Text :=
  "weavedoc.yaml".toList

/-
  The options in a settings file. A file that says nothing
  leaves all open, except that the project root is then the
  directory of the file.
-/
def options
    (loader : Loader)
    (tree : FileTree)
    (path : Path) : Except Fault Options :=
  match tree.read path with
  | .error fault => .error (.settingsUnreadable path fault)
  | .ok bytes =>
      let standard : Options :=
        { projectRoot := some path.parent.toText }
      match loader bytes with
      | .error .malformed => .error (.settingsMalformed path)
      | .error (.undecodable fault) => .error (.undecodable fault)
      | .ok (.mapping mapping) =>
          .ok (standard.update mapping.options)
      | .ok .unnamed => .error (.settings .keysNotTexts)
      | .ok (.other isVoid) =>
          if isVoid then .ok standard
          else .error (.settingsNotAMapping path)

/- Settle settings from options. -/
def settle
    (options : Options) : Except Fault Settings :=
  (Settings.ofOptions options).mapError Fault.settings

/- The settings in a settings file. -/
def load
    (loader : Loader)
    (tree : FileTree)
    (path : Path) : Except Fault Settings :=
  options loader tree path >>= settle

------------------------------------------------------------
-- Choosing a Settings File
------------------------------------------------------------

/-
  The settings file of a run: the one that is asked for, else
  the one in the project root, if there is one.
-/
def choose
    (tree : FileTree)
    (asked projectRoot : Option Text) : Option Path :=
  match asked with
  | some (c :: rest) => some (Path.ofText (c :: rest))
  | _ =>
      let standard :=
        (Path.ofText (projectRoot.getD [])).child standardName
      if tree.isFile standard then some standard else none

/-
  The settings of a run by its settings file, with the project
  root that is asked for.
-/
def settings
    (loader : Loader)
    (tree : FileTree)
    (asked projectRoot : Option Text) : Except Fault Settings := do
  let loaded ←
    match choose tree asked projectRoot with
    | some path => load loader tree path
    | none => settle {}
  match projectRoot with
  | none => pure loaded
  | some root =>
      (loaded.override { projectRoot := some root }).mapError
        Fault.settings

end SettingsFile

end Marginalia
