import Narration.Path
import Narration.SortedMap
/-! Files and folders. -/
namespace Narration

/-- The names on the way from the root. -/
abbrev Location := List String

structure Files where
  /-- The text of each file. -/
  texts : List (Location × String)
  folders : List Location
  /-- Where paths start that do not start at the root. -/
  here : Location
  deriving Repr

namespace Files

def text? (files : Files) (location : Location) : Option String := files.texts.lookup location

def isFolder (files : Files) (location : Location) : Bool :=
  location.isEmpty || files.folders.contains location

def start (files : Files) (path : String) : Location :=
  if Path.isAbsolute path then [] else files.here

def follow (location : Location) (step : String) : Location :=
  if step = "" || step = "." then location
  else if step = ".." then location.dropLast
  else location ++ [step]

/-- Where steps lead, each of which has to start at a folder. -/
def walk (files : Files) (location : Location) : List String → Option Location
  | [] => some location
  | step :: rest =>
    if files.isFolder location then files.walk (follow location step) rest else none

/-- The location of a path, whether or not there is something. -/
def locate? (files : Files) (path : String) : Option Location :=
  if path = "" || path.toList.contains '\x00' then none
  else files.walk (files.start path) (Path.steps path)

def read? (files : Files) (path : String) : Option String := do
  files.text? (← files.locate? path)

def isFile (files : Files) (path : String) : Bool := (files.read? path).isSome

/-- The folders on the way to a location. -/
def foldersTo (location : Location) : List Location :=
  (List.range location.length).map location.take

/-- Files at paths from `here`, and the folders that hold them. -/
def ofTexts (here : Location) (texts : List (String × String)) : Files :=
  let texts := texts.map fun entry => (here ++ Path.steps entry.1, entry.2)
  ⟨texts, here :: foldersTo here ++ texts.flatMap fun entry => foldersTo entry.1, here⟩

/-- The paths from `here` of all files below it, in ascending order. -/
def paths (files : Files) : List String :=
  let below := files.texts.filter fun entry => files.here.isPrefixOf entry.1
  SortedMap.keys (.ofList (below.map fun entry =>
    ("/".intercalate (entry.1.drop files.here.length), ())))

/-- The most bytes that a name may have. -/
def nameLimit : Nat := 255

/-- Whether there can be something at a location. -/
def isNameable (location : Location) : Bool :=
  location.all fun name => name.utf8ByteSize ≤ nameLimit

/-- Makes a folder where there is none; there must not be a file. -/
def makeFolder? (files : Files) (location : Location) : Option Files :=
  if files.isFolder location then some files
  else if (files.text? location).isSome || !isNameable location then none
  else some { files with folders := location :: files.folders }

def makeFolders? (files : Files) (location : Location) : List String → Option Files
  | [] => some files
  | step :: rest => do
    let next := follow location step
    (← files.makeFolder? next).makeFolders? next rest

/-- Makes the folders on the way to the file at a path. -/
def makeWay? (files : Files) (path : String) : Option Files :=
  let steps := Path.folderSteps path
  if steps.any fun step => step.toList.contains '\x00' then none
  else files.makeFolders? (files.start path) steps

/-- Makes an empty file at a path, if there is none. -/
def touch? (files : Files) (path : String) : Option Files := do
  let location ← files.locate? path
  if files.isFolder location then none
  else if (files.text? location).isSome then files
  else if !isNameable location then none
  else some { files with texts := (location, "") :: files.texts }

end Files
end Narration
