import Narration.Config.Reading
import Narration.Files
import Narration.Table.Document
/-! Settings from the file of the user, a file that is named, and the environment. -/
namespace Narration

/-- Why there are no settings. -/
inductive SettingsError where
  /-- A named file is missing, a file is malformed, or a value is of the wrong kind. -/
  | unreadable
  | invalid (problems : List Settings.Problem)
  deriving DecidableEq, Repr

/-- The texts for unreadable settings are left to those who read them. -/
def SettingsError.message? : SettingsError → Option String
  | .unreadable => none
  | .invalid problems =>
    some ("Invalid configuration: " ++ "; ".intercalate (problems.map Settings.Problem.message))

namespace Settings

open Config

def layerAt (files : Files) (path : String) : Except SettingsError Layer :=
  match (files.read? path).bind Layer.ofSource? with
  | none => .error .unreadable
  | some layer => .ok layer

/-- The file of the user counts if it is there. -/
def userLayers (files : Files) (environment : Environment) : Except SettingsError (List Layer) :=
  match environment.settingsFile?.filter files.isFile with
  | none => .ok []
  | some path => (layerAt files path).map ([·])

/-- A file that is named has to be there. -/
def namedLayers (files : Files) : Option String → Except SettingsError (List Layer)
  | none => .ok []
  | some path => (layerAt files path).map ([·])

/-- The settings of layers, if they are valid. -/
def ofLayers (files : Files) (layers : List Layer) : Except SettingsError Settings :=
  match (Value.table (Layer.combine layers)).settings? with
  | none => .error .unreadable
  | some settings =>
    match settings.problems files.isFile with
    | [] => .ok settings
    | problems => .error (.invalid problems)

/-- Variables of the environment count most, then the named file, then the file of the user. -/
def load (files : Files) (environment : Environment) (named : Option String) :
    Except SettingsError Settings := do
  let user ← userLayers files environment
  let named ← namedLayers files named
  ofLayers files (user ++ named ++ [.ofEnvironment environment])

/-- The settings of one file alone. -/
def loadFile (files : Files) (path : String) : Except SettingsError Settings := do
  ofLayers files (← namedLayers files (some path))

/-- The table of expressions that the settings name. -/
def loadTable (files : Files) (settings : Settings) : Except TableError (Option Table) :=
  match settings.formats with
  | none => .ok none
  | some path =>
    match files.read? path with
    | none => .error .unreadable
    | some source => (Table.ofSource source).map some

end Settings
end Narration
