import Narration.SortedMap
/-! Settings of the log and their validation. -/
namespace Narration.Logging

structure Settings where
  level : String
  format : String
  output : String
  /-- The log file, where the output is a file. -/
  file : Option String
  color : Bool
  /-- Levels of single modules. -/
  modules : SortedMap String String
  deriving DecidableEq, Repr

def Settings.standard : Settings := ⟨"info", "text", "stderr", none, true, .empty⟩

inductive Format where
  | json
  | text
  deriving DecidableEq, Repr

inductive Output where
  | stdout
  | stderr
  | file
  deriving DecidableEq, Repr

/-- Why settings are refused. -/
inductive Problem where
  | level (name : String)
  | format (name : String)
  | output (name : String)
  deriving DecidableEq, Repr

def Problem.message : Problem → String
  | .level name => "Invalid log level: " ++ name
  | .format name => "Invalid log format: " ++ name ++ " (must be 'json' or 'text')"
  | .output name => "Invalid log output: " ++ name ++ " (must be 'stdout', 'stderr', or 'file')"

def levelNames : List String := ["trace", "debug", "info", "warn", "error", "off"]

def Format.ofName (name : String) : Except Problem Format :=
  if name = "json" then .ok .json
  else if name = "text" then .ok .text
  else .error (.format name)

def Output.ofName (name : String) : Except Problem Output :=
  if name = "stdout" then .ok .stdout
  else if name = "stderr" then .ok .stderr
  else if name = "file" then .ok .file
  else .error (.output name)

/-- The first problem of level, format and output. Levels of modules are not looked at. -/
def Settings.validate (settings : Settings) : Except Problem Unit := do
  unless levelNames.contains settings.level do throw (.level settings.level)
  let _ ← Format.ofName settings.format
  let _ ← Output.ofName settings.output

end Narration.Logging
