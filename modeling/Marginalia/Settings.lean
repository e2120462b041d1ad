import Marginalia.Document
import Marginalia.Event
import Marginalia.Path
import Marginalia.Settings.Mapping
import Marginalia.Text.Quoted

/-
  This file defines the settings of a run and settles them
  from options.

  Key definitions include:
    * `LogFormat`
    * `Settings`
    * `Settings.Valid`
    * `Settings.Fault`
    * `Settings.Fault.message`
    * `Settings.layout?`
    * `Settings.ofOptions`
    * `Settings.ofMapping`
    * `Settings.toOptions`
    * `Settings.override`
    * `Settings.overrideBy`
    * `Settings.check`
-/

namespace Marginalia

------------------------------------------------------------
-- Settings
------------------------------------------------------------

/- How events are written out. -/
inductive LogFormat where
  | console
  | json
  deriving DecidableEq, Repr

namespace LogFormat

/- The name of a format. -/
def name : LogFormat → Text
  | .console => "console".toList
  | .json => "json".toList

/- The format of a name. -/
def ofName?
    (name : Text) : Option LogFormat :=
  [.console, .json].find? fun format : LogFormat =>
    format.name == name

end LogFormat

/- The settings of a run. -/
structure Settings where
  projectRoot : Path := Path.here
  files : List Text := []
  directories : List Text := ["src/main/resources/dwl".toList]
  consolidateOutput : Bool := true
  outputFile : Text := "target/dataweave-doc.md".toList
  headerText : RawText := []
  footerText : RawText := []
  headerTable : Bool := false
  moduleList : List Text := []
  fileExtension : Text := "dwl".toList
  showAbout : Bool := false
  skip : Bool := false
  maxWorkers : Nat := 4
  templateDirectory : Option Path := none
  logLevel : Text := "INFO".toList
  logFormat : LogFormat := .console
  deriving DecidableEq, Repr

namespace Settings

/-
  What holds of all settings that are settled from options: a
  worker at least, an extension that starts with no point, and
  a level that has the given name.
-/
def Valid
    (settings : Settings) : Prop :=
  1 ≤ settings.maxWorkers ∧
    settings.fileExtension.head? ≠ some '.' ∧
    (Level.ofName? settings.logLevel).isSome

instance
    (settings : Settings) :
    Decidable settings.Valid := by
  unfold Valid
  infer_instance

/- The path that the document is written to. -/
def outputPath
    (settings : Settings) : Path :=
  settings.projectRoot.append (Path.ofText settings.outputFile)

/- The least level of the events that are written out. -/
def level
    (settings : Settings) : Level :=
  (Level.ofName? settings.logLevel).getD .info

/-
  What the document holds besides its sections, if the texts
  around it are plain.
-/
def layout?
    (settings : Settings) : Option Document.Layout := do
  let headerText ← settings.headerText.plain?
  let footerText ← settings.footerText.plain?
  pure
    { moduleList := settings.moduleList
      headerText
      footerText
      headerTable := settings.headerTable }

------------------------------------------------------------
-- Faults
------------------------------------------------------------

/- Why settings cannot be used. -/
inductive Fault where
  | keysNotTexts
  | unknownKeys (names : List Text)
  | tooFewWorkers (count : Int)
  | unknownLogFormat (name : Text)
  | unknownLogLevel (name : Text)
  | severalDocuments
  | noSources
  deriving DecidableEq, Repr

namespace Fault

/- Names in order, each of them once, with commas between. -/
def nameList
    (names : List Text) : Text :=
  Text.join ", ".toList (Text.sorted names.eraseDups)

/- The words for a fault. -/
def message : Fault → Text
  | .keysNotTexts =>
      "Configuration keys must be texts.".toList
  | .unknownKeys names =>
      "Unknown configuration keys: ".toList ++ nameList names
  | .tooFewWorkers count =>
      "max_workers must be at least 1, got ".toList ++
        Text.ofInt count
  | .unknownLogFormat name =>
      "log_format must be 'console' or 'json', got ".toList ++
        Text.quoted name
  | .unknownLogLevel name =>
      "log_level must be one of ".toList ++
        Text.join ", ".toList (Level.all.map (·.name)) ++
        ", got ".toList ++ Text.quoted name
  | .severalDocuments =>
      "consolidate_output is set to false but only a single output file is currently implemented.".toList
  | .noSources =>
      "No source files or directories are specified.".toList

end Fault

------------------------------------------------------------
-- Settling Settings
------------------------------------------------------------

/-
  Settle settings from options. What is left open takes its
  default. Of several faults the first of these counts: keys,
  number of workers, format of the log, level of the log.
-/
def ofOptions
    (options : Options) : Except Fault Settings :=
  let standard : Settings := {}
  let workers := options.maxWorkers.getD standard.maxWorkers
  let format := options.logFormat.getD standard.logFormat.name
  let level := options.logLevel.getD standard.logLevel
  if !options.unknown.isEmpty then
    .error (.unknownKeys options.unknown)
  else if workers < 1 then .error (.tooFewWorkers workers)
  else
    match LogFormat.ofName? format with
    | none => .error (.unknownLogFormat format)
    | some logFormat =>
        if (Level.ofName? level).isNone then
          .error (.unknownLogLevel level)
        else
          .ok
            { projectRoot :=
                (options.projectRoot.map Path.ofText).getD
                  standard.projectRoot
              files := options.files.getD standard.files
              directories :=
                options.directories.getD standard.directories
              consolidateOutput :=
                options.consolidateOutput.getD
                  standard.consolidateOutput
              outputFile :=
                options.outputFile.getD standard.outputFile
              headerText :=
                options.headerText.getD standard.headerText
              footerText :=
                options.footerText.getD standard.footerText
              headerTable :=
                options.headerTable.getD standard.headerTable
              moduleList :=
                options.moduleList.getD standard.moduleList
              fileExtension :=
                (options.fileExtension.getD
                  standard.fileExtension).dropWhile (· == '.')
              showAbout :=
                options.showAbout.getD standard.showAbout
              skip := options.skip.getD standard.skip
              maxWorkers := workers.toNat
              templateDirectory :=
                options.templateDirectory.map Path.ofText
              logLevel := level
              logFormat }

/- Settle settings from a mapping. -/
def ofMapping
    (mapping : Mapping) : Except Fault Settings :=
  ofOptions mapping.options

/- Settings as options that leave nothing open. -/
def toOptions
    (settings : Settings) : Options :=
  { projectRoot := some settings.projectRoot.toText
    files := some settings.files
    directories := some settings.directories
    consolidateOutput := some settings.consolidateOutput
    outputFile := some settings.outputFile
    headerText := some settings.headerText
    footerText := some settings.footerText
    headerTable := some settings.headerTable
    moduleList := some settings.moduleList
    fileExtension := some settings.fileExtension
    showAbout := some settings.showAbout
    skip := some settings.skip
    maxWorkers := some settings.maxWorkers
    templateDirectory := settings.templateDirectory.map Path.toText
    logLevel := some settings.logLevel
    logFormat := some settings.logFormat.name }

/- Settings changed by options, which come first where given. -/
def override
    (settings : Settings)
    (options : Options) : Except Fault Settings :=
  ofOptions (settings.toOptions.update options)

/- Settings changed by what a change says. -/
def overrideBy
    (settings : Settings)
    (change : Change) : Except Fault Settings :=
  settings.override change.present.options

/- Settings from which a document can be made. -/
def check
    (settings : Settings) : Except Fault Unit :=
  if !settings.consolidateOutput then .error .severalDocuments
  else if settings.files.isEmpty && settings.directories.isEmpty then
    .error .noSources
  else .ok ()

end Settings

end Marginalia
