import Marginalia.Settings.File
import Marginalia.Yaml

/-
  This file is the loader of the program: it reads settings
  files as YAML. It knows only files in which known keys have
  values of their types, and takes others for malformed.

  Key definitions include:
    * `Yaml.content?`
    * `Yaml.loader`
-/

namespace Marginalia

namespace Yaml

------------------------------------------------------------
-- Loading Settings
------------------------------------------------------------

/- The entries of a mapping whose keys are plain texts. -/
def namedEntries?
    (entries : List (Value × Value)) : Option (List (Text × Value)) :=
  entries.mapM fun (key, value) => key.text?.map (·, value)

/- What a value stands for as the content of a settings file. -/
def content? : Value → Option Loader.Content
  | .mapping entries =>
      if entries.all (·.1.raw?.isSome) then do
        let named ← namedEntries? entries
        let mapping ← TypedEntries.ofList? named
        pure (.mapping mapping)
      else some .unnamed
  | value => some (.other value.isVoid)

/- Read the bytes of a settings file as YAML. -/
def loader : Loader :=
  fun bytes =>
    match Utf8.decode bytes with
    | .error fault => .error (.undecodable fault)
    | .ok text =>
        match read? text.unifyBreaks >>= content? with
        | some content => .ok content
        | none => .error .malformed

end Yaml

end Marginalia
