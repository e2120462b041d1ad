import Marginalia.Settings.Options
import Marginalia.Text.Numeral

/-
  This file reads the arguments of the command line.

  Key definitions include:
    * `Usage.Form`
    * `Usage.Reading`
    * `Usage.parse?`
    * `BuildRequest`
    * `ExtractRequest`
    * `Command`
    * `Command.ofArguments?`
-/

namespace Marginalia

namespace Usage

------------------------------------------------------------
-- Options in Arguments
------------------------------------------------------------

/-
  The form of an option: its long name, the letter that stands
  for it if there is one, and whether a value comes with it.
-/
structure Form (α : Type) where
  option : α
  long : Text
  letter : Option Char := none
  takesValue : Bool := false

/-
  What one argument says: options with their values, which are
  empty for options without one. The last option may still
  want the next argument as its value.
-/
inductive Reading (α : Type) where
  | complete (given : List (α × Text))
  | wanting (given : List (α × Text)) (option : α)

variable {α : Type}

/-
  Read an argument as a long option. Its value, if it takes
  one, follows an equals sign or is the next argument.
-/
def long?
    (form : Form α)
    (value : Option Text) : Option (Reading α) :=
  match form.takesValue, value with
  | true, some value => some (.complete [(form.option, value)])
  | true, none => some (.wanting [] form.option)
  | false, none => some (.complete [(form.option, [])])
  | false, some _ => none

/-
  Read letters as options. A letter whose option takes a value
  takes the rest of the letters, or else the next argument.
-/
def letters?
    (forms : List (Form α)) : Text → Option (Reading α)
  | [] => some (.complete [])
  | c :: rest =>
      match forms.find? (·.letter == some c) with
      | none => none
      | some form =>
          if form.takesValue then
            if rest.isEmpty then some (.wanting [] form.option)
            else some (.complete [(form.option, rest)])
          else
            (letters? forms rest).map fun
              | .complete given =>
                  .complete ((form.option, []) :: given)
              | .wanting given option =>
                  .wanting ((form.option, []) :: given) option

/- Read an argument that starts with a hyphen. -/
def option?
    (forms : List (Form α))
    (argument : Text) : Option (Reading α) :=
  let (name, value) :=
    match Text.cut? ['='] argument with
    | some (name, value) => (name, some value)
    | none => (argument, none)
  match forms.find? (·.long == name) with
  | some form => long? form value
  | none =>
      match argument with
      | '-' :: '-' :: _ => none
      | _ => letters? forms (argument.drop 1)

/- An argument that is read as options. -/
def isOption : Text → Bool
  | '-' :: _ :: _ => true
  | _ => false

/-
  Read arguments: the options that are given, in order, and
  the other words. Two hyphens end the options, and so does
  the first word unless options may follow words.
-/
def parse?
    (forms : List (Form α))
    (mixed : Bool) :
    List Text → Option (List (α × Text) × List Text)
  | [] => some ([], [])
  | argument :: rest =>
      if argument = ['-', '-'] then some ([], rest)
      else if isOption argument then
        match option? forms argument with
        | none => none
        | some (.complete given) =>
            (parse? forms mixed rest).map fun (more, words) =>
              (given ++ more, words)
        | some (.wanting given option) =>
            match rest with
            | [] => none
            | value :: rest =>
                (parse? forms mixed rest).map fun (more, words) =>
                  (given ++ (option, value) :: more, words)
      else if mixed then
        (parse? forms mixed rest).map fun (more, words) =>
          (more, argument :: words)
      else some ([], argument :: rest)

/- The last value that is given for an option. -/
def last?
    [DecidableEq α]
    (given : List (α × Text))
    (option : α) : Option Text :=
  (given.reverse.find? (·.1 = option)).map (·.2)

/- The values that are given for an option, in order. -/
def values
    [DecidableEq α]
    (given : List (α × Text))
    (option : α) : List Text :=
  (given.filter (·.1 = option)).map (·.2)

/- Whether an option is given. -/
def has
    [DecidableEq α]
    (given : List (α × Text))
    (option : α) : Bool :=
  given.any (·.1 = option)

end Usage

------------------------------------------------------------
-- Requests
------------------------------------------------------------

/- What `build` is asked for. -/
structure BuildRequest where
  projectRoot : Option Text := none
  settingsFile : Option Text := none
  files : List Text := []
  directories : List Text := []
  outputFile : Option Text := none
  headerTable : Option Bool := none
  moduleList : List Text := []
  fileExtension : Option Text := none
  headerText : Option RawText := none
  footerText : Option RawText := none
  maxWorkers : Option Int := none
  skip : Bool := false
  showAbout : Bool := false
  verbose : Bool := false

/- What `extract` is asked for. -/
structure ExtractRequest where
  path : Text
  fileExtension : Option Text := none
  json : Bool := false

/- What the command line asks for. -/
inductive Command where
  | help
  | version
  | about
  | build (request : BuildRequest)
  | extract (request : ExtractRequest)

namespace Command

------------------------------------------------------------
-- Build
------------------------------------------------------------

/- The options of `build`. -/
inductive BuildOption where
  | projectRoot
  | settingsFile
  | file
  | directory
  | output
  | headerTable
  | noHeaderTable
  | listedModule
  | fileExtension
  | headerText
  | footerText
  | workers
  | skip
  | about
  | verbose
  | help
  deriving DecidableEq, Repr

/- The forms of the options of `build`. -/
def buildForms : List (Usage.Form BuildOption) :=
  [⟨.projectRoot, "--project-root".toList, some 'p', true⟩,
    ⟨.settingsFile, "--config".toList, some 'c', true⟩,
    ⟨.file, "--file".toList, some 'f', true⟩,
    ⟨.directory, "--directory".toList, some 'd', true⟩,
    ⟨.output, "--output".toList, some 'o', true⟩,
    ⟨.headerTable, "--header-table".toList, none, false⟩,
    ⟨.noHeaderTable, "--no-header-table".toList, none, false⟩,
    ⟨.listedModule, "--module".toList, some 'm', true⟩,
    ⟨.fileExtension, "--ext".toList, none, true⟩,
    ⟨.headerText, "--header-text".toList, none, true⟩,
    ⟨.footerText, "--footer-text".toList, none, true⟩,
    ⟨.workers, "--workers".toList, none, true⟩,
    ⟨.skip, "--skip".toList, none, false⟩,
    ⟨.about, "--about".toList, none, false⟩,
    ⟨.verbose, "--verbose".toList, some 'v', false⟩,
    ⟨.help, "--help".toList, none, false⟩]

/- A number of workers that is given; it must be at least one. -/
def workers? : Option Text → Option (Option Int)
  | none => some none
  | some text =>
      match Numeral.value? text with
      | none => none
      | some count => if 1 ≤ count then some (some count) else none

/- The last of the two options on the navigation table. -/
def headerTable
    (given : List (BuildOption × Text)) : Option Bool :=
  (given.reverse.find? fun (option, _) =>
    option == .headerTable || option == .noHeaderTable).map
      fun (option, _) => option == .headerTable

/- What the arguments of `build` ask for. -/
def build?
    (arguments : List Text) : Option Command :=
  match Usage.parse? buildForms true arguments with
  | none => none
  | some (given, words) =>
      if Usage.has given .help then some .help
      else if !words.isEmpty then none
      else
        (workers? (Usage.last? given .workers)).map fun maxWorkers =>
          .build
            { projectRoot := Usage.last? given .projectRoot
              settingsFile := Usage.last? given .settingsFile
              files := Usage.values given .file
              directories := Usage.values given .directory
              outputFile := Usage.last? given .output
              headerTable := headerTable given
              moduleList := Usage.values given .listedModule
              fileExtension := Usage.last? given .fileExtension
              headerText :=
                (Usage.last? given .headerText).map RawText.ofText
              footerText :=
                (Usage.last? given .footerText).map RawText.ofText
              maxWorkers
              skip := Usage.has given .skip
              showAbout := Usage.has given .about
              verbose := Usage.has given .verbose }

------------------------------------------------------------
-- Extract
------------------------------------------------------------

/- The options of `extract`. -/
inductive ExtractOption where
  | fileExtension
  | json
  | help
  deriving DecidableEq, Repr

/- The forms of the options of `extract`. -/
def extractForms : List (Usage.Form ExtractOption) :=
  [⟨.fileExtension, "--ext".toList, none, true⟩,
    ⟨.json, "--json".toList, none, false⟩,
    ⟨.help, "--help".toList, none, false⟩]

/- What the arguments of `extract` ask for. -/
def extract?
    (arguments : List Text) : Option Command :=
  match Usage.parse? extractForms true arguments with
  | none => none
  | some (given, words) =>
      if Usage.has given .help then some .help
      else
        match words with
        | [path] =>
            some
              (.extract
                { path
                  fileExtension := Usage.last? given .fileExtension
                  json := Usage.has given .json })
        | _ => none

------------------------------------------------------------
-- All Commands
------------------------------------------------------------

/- The options that stand before a command. -/
inductive GeneralOption where
  | version
  | help
  deriving DecidableEq, Repr

/- The forms of the options that stand before a command. -/
def generalForms : List (Usage.Form GeneralOption) :=
  [⟨.version, "--version".toList, none, false⟩,
    ⟨.help, "--help".toList, none, false⟩]

/- What the arguments of `about` ask for. -/
def about?
    (arguments : List Text) : Option Command :=
  let forms : List (Usage.Form GeneralOption) :=
    [⟨.help, "--help".toList, none, false⟩]
  match Usage.parse? forms true arguments with
  | some ((.help, _) :: _, _) => some .help
  | some ([], []) => some .about
  | _ => none

/- What the first of the given options that stand alone asks for. -/
def general?
    (given : List (GeneralOption × Text)) : Option Command :=
  match given with
  | (.version, _) :: _ => some .version
  | (.help, _) :: _ => some .help
  | [] => none

/-
  What a name and its arguments ask for. Where the name of a
  command should stand, an option may also stand, even after
  two hyphens.
-/
def named?
    (name : Text)
    (arguments : List Text) : Option Command :=
  if name = "build".toList then build? arguments
  else if name = "extract".toList then extract? arguments
  else if name = "about".toList then about? arguments
  else
    (Usage.parse? generalForms false (name :: arguments)).bind
      fun (given, _) => general? given

/- What the command line asks for, if it can be read. -/
def ofArguments?
    (arguments : List Text) : Option Command :=
  match Usage.parse? generalForms false arguments with
  | none => none
  | some ([], []) => none
  | some ([], name :: rest) => named? name rest
  | some (given, _) => general? given

end Command

end Marginalia
