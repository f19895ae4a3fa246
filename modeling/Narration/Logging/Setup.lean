import Narration.Environment
import Narration.Files
import Narration.Logging.Directive
import Narration.Logging.Settings
/-! Setting up the log: what is logged, in which format and where to. Variables of the environment
come before the settings. -/
namespace Narration.Logging

/-- Why the log cannot be set up. -/
inductive SetupError where
  | directive
  | settings (problem : Problem)
  | noFile
  | folder
  | file
  deriving DecidableEq, Repr

/-- The details of refused directives, folders and files are left to those who refuse them. -/
def SetupError.message : SetupError → String
  | .directive => "Invalid log directive"
  | .settings problem => "Logging setup failed: " ++ problem.message
  | .noFile => "Logging setup failed: No log file path could be determined"
  | .folder => "Failed to create log directory"
  | .file => "Failed to open log file"

namespace Setup

def filterVariable : String := "RENDITION_LOG"
def modulesVariable : String := "RENDITION_LOG_MODULES"
def formatVariable : String := "RENDITION_LOG_FORMAT"
def outputVariable : String := "RENDITION_LOG_OUTPUT"

/-- The directives of a filter. -/
abbrev Filter := List String

def parts (text : String) : List String :=
  (Text.splitOn ',' text.toList).map String.ofList

/-- The filter that a text spells out, if each of its parts is a directive. -/
def filterOfText? (text : String) : Option Filter :=
  let directives := (parts text).filter (· ≠ "")
  if directives.all Directive.isValid then some directives else none

def moduleDirective (entry : String × String) : Except SetupError String :=
  let directive := entry.1 ++ "=" ++ entry.2
  if Directive.isValid directive then .ok directive else .error .directive

def trimmed (s : List Char) : String := String.ofList (Text.trimBlank s)

/-- The levels of modules that a text lists; parts without a level do not count. -/
def modulesOfText (text : String) : List (String × String) :=
  (parts text).filterMap fun part =>
    (Text.splitOnce? '=' part.toList).map fun entry => (trimmed entry.1, trimmed entry.2)

/-- With the level `off` no module is looked at. -/
def filter (environment : Environment) (settings : Option Settings) : Except SetupError Filter :=
  match (environment.get? filterVariable).bind filterOfText? with
  | some filter => .ok filter
  | none =>
    let level := (settings.map Settings.level).getD Settings.standard.level
    if level = "off" then .ok [level]
    else do
      let configured := (settings.map (·.modules.entries)).getD []
      let listed := ((environment.get? modulesVariable).map modulesOfText).getD []
      return level :: (← (configured ++ listed).mapM moduleDirective)

/-- A variable without the name of a format does not count. -/
def format (environment : Environment) (settings : Option Settings) : Except SetupError Format :=
  let configured := Format.ofName ((settings.map Settings.format).getD Settings.standard.format)
  match (environment.get? formatVariable).map Format.ofName with
  | some (.ok format) => .ok format
  | _ => configured.mapError .settings

def output (environment : Environment) (settings : Option Settings) : Except SetupError Output :=
  let configured := (settings.map Settings.output).getD Settings.standard.output
  (Output.ofName ((environment.get? outputVariable).getD configured)).mapError .settings

def logFile? (environment : Environment) (settings : Option Settings) : Option String :=
  (settings.bind Settings.file).or environment.logFile?

/-- The files with the log file among them, made with its folders if it is not there. -/
def openLog (files : Files) (path : Option String) : Except SetupError Files := do
  let some path := path | throw .noFile
  let some files := files.makeWay? path | throw .folder
  let some files := files.touch? path | throw .file
  return files

/-- How events are logged. -/
structure Log where
  filter : Filter
  format : Format
  output : Output
  deriving DecidableEq, Repr

def choose (environment : Environment) (settings : Option Settings) : Except SetupError Log := do
  return ⟨← filter environment settings, ← format environment settings,
    ← output environment settings⟩

end Setup

/-- Sets up the log and opens the log file, if there is one. -/
def setUp (files : Files) (environment : Environment) (settings : Option Settings) :
    Except SetupError (Setup.Log × Files) := do
  let log ← Setup.choose environment settings
  if log.output = .file then
    return (log, ← Setup.openLog files (Setup.logFile? environment settings))
  return (log, files)

end Narration.Logging
