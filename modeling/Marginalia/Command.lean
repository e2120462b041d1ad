import Marginalia.Command.Display
import Marginalia.Command.Dump
import Marginalia.Command.Outline
import Marginalia.Command.Usage
import Marginalia.Settings.File

/-
  This file runs the commands of the program on a file tree.

  Key definitions include:
    * `Command.Outcome`
    * `Command.runBuild`
    * `Command.runExtract`
    * `Command.run`
-/

namespace Marginalia

namespace Command

------------------------------------------------------------
-- Outcomes
------------------------------------------------------------

/-
  What a command does: its exit code, its output and error
  output, the format and the events of its log, a fault that
  it does not handle, and the file tree after it. There is no
  format if the command never starts a log.
-/
structure Outcome where
  exitCode : Nat := 0
  output : Text := []
  errors : Text := []
  logFormat : Option LogFormat := none
  events : List Event := []
  unhandled : Option Fault := none
  tree : FileTree

/- A line that reports an error. -/
def errorLine
    (message : Text) : Text :=
  Console.shown
    (Markup.styled "bold red" "Error:".toList ++ ' ' ::
      Markup.escape message)

/- The outcome of a command line that cannot be used. -/
def misused
    (tree : FileTree) : Outcome :=
  { exitCode := 2, tree }

/- The events of a log that shows a level and all graver ones. -/
def logged
    (least : Level)
    (events : List Event) : List Event :=
  events.filter fun event => least.rank ≤ event.level.rank

------------------------------------------------------------
-- Paths in Arguments
------------------------------------------------------------

/- A path that is written as one of a directory. -/
def endsAsDirectory
    (text : Text) : Bool :=
  match (Text.splitAt '/' text).getLast? with
  | some last => !Path.keeps last
  | none => false

/- An argument that names a directory. -/
def namesDirectory
    (tree : FileTree)
    (text : Text) : Bool :=
  !text.isEmpty && tree.isDirectory (Path.ofText text)

/- An argument that names a file. -/
def namesFile
    (tree : FileTree)
    (text : Text) : Bool :=
  !text.isEmpty && !endsAsDirectory text &&
    tree.isFile (Path.ofText text)

------------------------------------------------------------
-- Build
------------------------------------------------------------

/- The paths of a request lead to what they should. -/
def BuildRequest.isUsable
    (tree : FileTree)
    (request : BuildRequest) : Bool :=
  request.projectRoot.all (namesDirectory tree) &&
    request.settingsFile.all (namesFile tree)

/- Values that are given, or none of them. -/
def someValues
    (values : List Text) : Option (List Text) :=
  if values.isEmpty then none else some values

/- A flag that is present, or nothing. -/
def someFlag
    (flag : Bool) : Option Bool :=
  if flag then some true else none

/- What a request changes in the settings of its file. -/
def BuildRequest.options
    (request : BuildRequest) : Options :=
  { files := someValues request.files
    directories := someValues request.directories
    outputFile := request.outputFile
    headerTable := request.headerTable
    moduleList := someValues request.moduleList
    fileExtension := request.fileExtension
    headerText := request.headerText
    footerText := request.footerText
    maxWorkers := request.maxWorkers
    skip := someFlag request.skip
    showAbout := someFlag request.showAbout }

/- The settings that a request asks for. -/
def BuildRequest.settings
    (loader : Loader)
    (tree : FileTree)
    (request : BuildRequest) : Except Fault Settings := do
  let loaded ←
    SettingsFile.settings loader tree request.settingsFile
      request.projectRoot
  (loaded.override (BuildRequest.options request)).mapError
    Fault.settings

/- Whether a fault of a run is reported by its own words. -/
def isExplained : Fault → Bool
  | .sourceNotFound _ => true
  | fault => fault.category == .config

/- The line that reports the fault of a run. -/
def faultLine
    (fault : Fault) : Text :=
  if isExplained fault then errorLine fault.message
  else if fault.category = .internal then
    errorLine "documentation generation failed unexpectedly.".toList
  else errorLine "documentation generation failed.".toList

/- The event that reports the fault of a run. -/
def faultEvents
    (fault : Fault) : List Event :=
  if isExplained fault then []
  else [.generationFailed fault.category.name]

/- What is shown of a run that was not stopped. -/
def reportText
    (report : Report) : Text :=
  if report.skipped then
    "Info: skipping doc generation. (skip=true)\n".toList
  else
    Display.summary report ++
      Console.shown
        ("Document has been written to '".toList ++
          Markup.escape ((report.outputPath.map Path.toText).getD []) ++
          "'.".toList)

/- Make the document that settings ask for, and report on it. -/
def runSettings
    (engine : Engine)
    (tree : FileTree)
    (settings : Settings)
    (verbose : Bool) : Outcome :=
  let level := if verbose then Level.debug else settings.level
  let opening :=
    (if settings.showAbout then Display.banner else []) ++
      "Running weavedoc ...\n".toList
  let run := Generation.run engine tree settings
  match run.outcome with
  | .ok report =>
      { output := opening ++ reportText report
        logFormat := some settings.logFormat
        events := logged level run.events
        tree := run.tree }
  | .error fault =>
      { exitCode := 1
        output := opening
        errors := faultLine fault
        logFormat := some settings.logFormat
        events := logged level (run.events ++ faultEvents fault)
        tree := run.tree }

/- Run `build`. -/
def runBuild
    (engine : Engine)
    (loader : Loader)
    (tree : FileTree)
    (request : BuildRequest) : Outcome :=
  if !BuildRequest.isUsable tree request then misused tree
  else
    match BuildRequest.settings loader tree request with
    | .ok settings =>
        runSettings engine tree settings request.verbose
    | .error fault =>
        if fault.category = .config then
          { exitCode := 1, errors := errorLine fault.message, tree }
        else { exitCode := 1, unhandled := some fault, tree }

------------------------------------------------------------
-- Extract
------------------------------------------------------------

/-
  The extension of a source: the one asked for, else that of
  the file, else that of all source files.
-/
def sourceExtension
    (asked : Option Text)
    (path : Path) : Text :=
  match asked, path.extension with
  | some (c :: rest), _ => c :: rest
  | _, c :: rest => c :: rest
  | _, [] => "dwl".toList

/- Run `extract`. -/
def runExtract
    (tree : FileTree)
    (request : ExtractRequest) : Outcome :=
  if !namesFile tree request.path then misused tree
  else
    let path := Path.ofText request.path
    match Source.readPath tree path path.toText with
    | .error fault =>
        { exitCode := 1
          errors := errorLine fault.message
          logFormat := some .console
          tree }
    | .ok text =>
        let root := path.parent.toText
        let module :=
          ModuleDoc.ofText text path.toText root
            (sourceExtension request.fileExtension path)
        { output :=
            if request.json then Dump.json module
            else Outline.text module
          logFormat := some .console
          events :=
            logged .warning (ModuleDoc.events text path.toText root)
          tree }

------------------------------------------------------------
-- Commands
------------------------------------------------------------

/- How the program is called. -/
def usageText : Text :=
  "Usage: cli [--version] (build | extract | about) [OPTIONS]\n".toList

/- Run the command that the command line asks for. -/
def run
    (engine : Engine)
    (loader : Loader)
    (tree : FileTree)
    (arguments : List Text) : Outcome :=
  match ofArguments? arguments with
  | none => misused tree
  | some .help => { output := usageText, tree }
  | some .version =>
      { output :=
          "cli, version ".toList ++ Display.programVersion ++ ['\n']
        tree }
  | some .about => { output := Display.banner, tree }
  | some (.build request) => runBuild engine loader tree request
  | some (.extract request) => runExtract tree request

end Command

end Marginalia
