import Narration.Engine
import Narration.Logging.Settings
/-! The settings of an application that presents objects. -/
namespace Narration

structure Settings where
  engine : EngineSettings
  logging : Logging.Settings
  /-- The file that holds the table of expressions. -/
  formats : Option String
  deriving DecidableEq, Repr

namespace Settings

def standard : Settings := ⟨.standard, .standard, none⟩

/-- What is wrong with settings. -/
inductive Problem where
  | completeValue (value : UInt32)
  | logging (problem : Logging.Problem)
  | formats (path : String)
  deriving DecidableEq, Repr

def Problem.message : Problem → String
  | .completeValue value =>
    "engine.progress.complete_value must be between 1 and 100 (got " ++ toString value.toNat ++ ")"
  | .logging problem => "logging: " ++ problem.message
  | .formats path => "formats: " ++ path ++ " is not a file"

/-- Every problem, where `isFile` tells the files that there are. -/
def problems (isFile : String → Bool) (settings : Settings) : List Problem :=
  let complete := settings.engine.progress.completeValue
  (if complete = 0 || 100 < complete then [.completeValue complete] else []) ++
  (match settings.logging.validate with
    | .ok () => []
    | .error problem => [.logging problem]) ++
  (match settings.formats with
    | none => []
    | some path => if isFile path then [] else [.formats path])

end Settings
end Narration
