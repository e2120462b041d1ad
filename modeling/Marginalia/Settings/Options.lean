import Marginalia.Value

/-
  This file defines options: settings of which any may be left
  open, as a settings file or a command line gives them.

  Key definitions include:
    * `Key`
    * `Key.ofName?`
    * `Key.admits`
    * `Options`
    * `Options.put`
    * `Options.ofEntries`
    * `Options.update`
-/

namespace Marginalia

------------------------------------------------------------
-- Keys
------------------------------------------------------------

/- The keys of a settings file. -/
inductive Key where
  | projectRoot
  | files
  | directories
  | consolidateOutput
  | outputFile
  | headerText
  | footerText
  | headerTable
  | moduleList
  | fileExtension
  | showAbout
  | skip
  | maxWorkers
  | templateDirectory
  | logLevel
  | logFormat
  deriving DecidableEq, Repr

namespace Key

/- All keys. -/
def all : List Key :=
  [.projectRoot, .files, .directories, .consolidateOutput,
    .outputFile, .headerText, .footerText, .headerTable,
    .moduleList, .fileExtension, .showAbout, .skip, .maxWorkers,
    .templateDirectory, .logLevel, .logFormat]

/- The name of a key. -/
def name : Key → Text
  | .projectRoot => "project_root".toList
  | .files => "files".toList
  | .directories => "directories".toList
  | .consolidateOutput => "consolidate_output".toList
  | .outputFile => "output_file".toList
  | .headerText => "output_header_text".toList
  | .footerText => "output_footer_text".toList
  | .headerTable => "write_header_table".toList
  | .moduleList => "module_list".toList
  | .fileExtension => "file_ext".toList
  | .showAbout => "show_about".toList
  | .skip => "skip".toList
  | .maxWorkers => "max_workers".toList
  | .templateDirectory => "template_dir".toList
  | .logLevel => "log_level".toList
  | .logFormat => "log_format".toList

/- The key of a name. -/
def ofName?
    (name : Text) : Option Key :=
  all.find? (·.name == name)

/-
  A value of the type that a key has. The texts around the
  document are raw, all others are plain.
-/
def admits
    (key : Key)
    (value : Value) : Bool :=
  match key with
  | .files | .directories | .moduleList => value.texts?.isSome
  | .consolidateOutput | .headerTable | .showAbout | .skip =>
      value.flag?.isSome
  | .maxWorkers => value.number?.isSome
  | .headerText | .footerText => value.raw?.isSome
  | .projectRoot | .outputFile | .fileExtension
  | .templateDirectory | .logLevel | .logFormat =>
      value.text?.isSome

end Key

------------------------------------------------------------
-- Options
------------------------------------------------------------

/-
  Settings of which any may be left open, with the names of
  unknown keys.
-/
structure Options where
  projectRoot : Option Text := none
  files : Option (List Text) := none
  directories : Option (List Text) := none
  consolidateOutput : Option Bool := none
  outputFile : Option Text := none
  headerText : Option RawText := none
  footerText : Option RawText := none
  headerTable : Option Bool := none
  moduleList : Option (List Text) := none
  fileExtension : Option Text := none
  showAbout : Option Bool := none
  skip : Option Bool := none
  maxWorkers : Option Int := none
  templateDirectory : Option Text := none
  logLevel : Option Text := none
  logFormat : Option Text := none
  unknown : List Text := []
  deriving DecidableEq, Repr

namespace Options

/-
  Set a known key to a value of its type. Any other value, such
  as an absent one, leaves the key as it is.
-/
def set
    (options : Options)
    (key : Key)
    (value : Value) : Options :=
  let raw (put : RawText → Options) : Options :=
    (value.raw?.map put).getD options
  let text (put : Text → Options) : Options :=
    (value.text?.map put).getD options
  let texts (put : List Text → Options) : Options :=
    (value.texts?.map put).getD options
  let flag (put : Bool → Options) : Options :=
    (value.flag?.map put).getD options
  let number (put : Int → Options) : Options :=
    (value.number?.map put).getD options
  match key with
  | .projectRoot => text ({ options with projectRoot := some · })
  | .files => texts ({ options with files := some · })
  | .directories => texts ({ options with directories := some · })
  | .consolidateOutput =>
      flag ({ options with consolidateOutput := some · })
  | .outputFile => text ({ options with outputFile := some · })
  | .headerText => raw ({ options with headerText := some · })
  | .footerText => raw ({ options with footerText := some · })
  | .headerTable => flag ({ options with headerTable := some · })
  | .moduleList => texts ({ options with moduleList := some · })
  | .fileExtension =>
      text ({ options with fileExtension := some · })
  | .showAbout => flag ({ options with showAbout := some · })
  | .skip => flag ({ options with skip := some · })
  | .maxWorkers => number ({ options with maxWorkers := some · })
  | .templateDirectory =>
      text ({ options with templateDirectory := some · })
  | .logLevel => text ({ options with logLevel := some · })
  | .logFormat => text ({ options with logFormat := some · })

/- Put an entry of a mapping into the options. -/
def put
    (options : Options)
    (entry : Text × Value) : Options :=
  match Key.ofName? entry.1 with
  | some key => options.set key entry.2
  | none =>
      { options with unknown := options.unknown ++ [entry.1] }

/- The options of entries. -/
def ofEntries
    (entries : List (Text × Value)) : Options :=
  entries.foldl put {}

/- Options changed by others, which come first where given. -/
def update
    (options later : Options) : Options :=
  { projectRoot := later.projectRoot <|> options.projectRoot
    files := later.files <|> options.files
    directories := later.directories <|> options.directories
    consolidateOutput :=
      later.consolidateOutput <|> options.consolidateOutput
    outputFile := later.outputFile <|> options.outputFile
    headerText := later.headerText <|> options.headerText
    footerText := later.footerText <|> options.footerText
    headerTable := later.headerTable <|> options.headerTable
    moduleList := later.moduleList <|> options.moduleList
    fileExtension := later.fileExtension <|> options.fileExtension
    showAbout := later.showAbout <|> options.showAbout
    skip := later.skip <|> options.skip
    maxWorkers := later.maxWorkers <|> options.maxWorkers
    templateDirectory :=
      later.templateDirectory <|> options.templateDirectory
    logLevel := later.logLevel <|> options.logLevel
    logFormat := later.logFormat <|> options.logFormat
    unknown := options.unknown ++ later.unknown }

end Options

end Marginalia
