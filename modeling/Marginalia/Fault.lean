import Marginalia.FileTree
import Marginalia.Settings

/-
  This file gathers all that can stop a run.

  Key definitions include:
    * `TemplateFault`
    * `Fault`
    * `Fault.Category`
    * `Fault.category`
    * `Fault.message`
-/

namespace Marginalia

------------------------------------------------------------
-- Faults
------------------------------------------------------------

/-
  Why a template of its own gives no document: it is missing or
  cannot be rendered, its bytes cannot be decoded, or for a
  reason that nothing is known of.
-/
inductive TemplateFault where
  | failed (reason : Text)
  | undecodable (fault : Utf8.Fault)
  | unexpected
  deriving DecidableEq, Repr

/-
  Why a run is stopped. The settings file can be undecodable,
  and the document can have no encoding.
-/
inductive Fault where
  | settings (fault : Settings.Fault)
  | settingsUnreadable (path : Path) (fault : AccessFault)
  | settingsMalformed (path : Path)
  | settingsNotAMapping (path : Path)
  | sourceNotFound (name : Text)
  | sourceUnreadable (name : Text) (path : Path) (fault : ReadFault)
  | template (fault : TemplateFault)
  | undecodable (fault : Utf8.Fault)
  | access (path : Path) (fault : AccessFault)
  | unencodable
  deriving DecidableEq, Repr

namespace Fault

/- The part of a run that a fault belongs to. -/
inductive Category where
  | config
  | source
  | render
  | internal
  deriving DecidableEq, Repr

namespace Category

/- The name of a category. -/
def name : Category → Text
  | .config => "CONFIG".toList
  | .source => "SOURCE".toList
  | .render => "RENDER".toList
  | .internal => "INTERNAL".toList

end Category

/-
  The category of a fault. Unknown keys are listed by their
  names, and keys that are no texts have none, so that they
  stop a run where no fault is expected.
-/
def category : Fault → Category
  | .settings .keysNotTexts => .internal
  | .settings _ => .config
  | .settingsUnreadable _ _ => .config
  | .settingsMalformed _ => .config
  | .settingsNotAMapping _ => .config
  | .sourceNotFound _ => .source
  | .sourceUnreadable _ _ _ => .source
  | .template (.failed _) => .render
  | .template _ => .internal
  | .undecodable _ => .internal
  | .access _ _ => .internal
  | .unencodable => .internal

/- The name of the file that holds a template. -/
def templateName : Text :=
  "dataweave.md.j2".toList

/- The words for a fault. -/
def message : Fault → Text
  | .settings fault => fault.message
  | .settingsUnreadable path fault =>
      "Unable to load configuration '".toList ++ path.toText ++
        "': ".toList ++ fault.message path
  | .settingsMalformed path =>
      "Unable to load configuration '".toList ++ path.toText ++
        "'".toList
  | .settingsNotAMapping path =>
      "Configuration '".toList ++ path.toText ++
        "' must be a mapping".toList
  | .sourceNotFound name =>
      "Source file '".toList ++ name ++ "' doesn't exist.".toList
  | .sourceUnreadable name path fault =>
      "Unable to read '".toList ++ name ++ "': ".toList ++
        fault.message path
  | .template (.failed reason) =>
      "Error rendering template '".toList ++ templateName ++
        "': ".toList ++ reason
  | .template (.undecodable fault) => fault.message
  | .template .unexpected =>
      "The template failed unexpectedly.".toList
  | .undecodable fault => fault.message
  | .access path fault => fault.message path
  | .unencodable =>
      "The document cannot be encoded.".toList

end Fault

end Marginalia
