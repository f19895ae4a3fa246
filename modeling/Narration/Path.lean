import Narration.Text.Split
/-! Paths of files in their written form. -/
namespace Narration.Path

def steps (path : String) : List String :=
  (Text.splitOn '/' path.toList).map String.ofList

/-- Whether the path starts at the root. -/
def isAbsolute (path : String) : Bool := path.toList.head? = some '/'

/-- The path that leads from `base` along `path`. -/
def join (base path : String) : String :=
  if isAbsolute path || base = "" then path
  else if base.toList.getLast? = some '/' then base ++ path
  else base ++ "/" ++ path

/-- The steps to the folder that holds the file at the path. -/
def folderSteps (path : String) : List String :=
  ((steps path).filter fun step => step ≠ "" && step ≠ ".").dropLast

end Narration.Path
