import Narration.Path
import Narration.SortedMap
/-! The variables of the environment and the places of files that they decide on. -/
namespace Narration

structure Environment where
  values : SortedMap String String
  /-- The home folder where no variable names one. -/
  accountHome : Option String
  deriving Repr

/-- The name under which settings and logs are kept. -/
def applicationName : String := "rendition"

namespace Environment

def get? (environment : Environment) (name : String) : Option String :=
  environment.values.get? name

/-- A variable that says something. -/
def nonempty? (environment : Environment) (name : String) : Option String :=
  (environment.get? name).filter (· ≠ "")

/-- The file with the settings of the user. -/
def settingsFile? (environment : Environment) : Option String := do
  let folder ← (environment.nonempty? "XDG_CONFIG_HOME").or
    ((environment.get? "HOME").map (Path.join · ".config"))
  return Path.join (Path.join folder applicationName) "config.toml"

/-- The log file where the settings name none. -/
def logFile? (environment : Environment) : Option String := do
  let home ← (environment.nonempty? "HOME").or environment.accountHome
  let folder := ((environment.get? "XDG_DATA_HOME").filter Path.isAbsolute).getD
    (Path.join home ".local/share")
  return Path.join (Path.join folder applicationName) (applicationName ++ ".log")

end Environment
end Narration
