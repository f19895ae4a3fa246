import Narration.Table
import Narration.Toml.Document
/-! Loading tables from documents. A document gives for each mode the leads, the trails and, by
category, the expressions for each format type. -/
namespace Narration

/-- Sources of expressions by the names of their format types. -/
abbrev Sources := SortedMap String String

/-- What a document says about one mode. -/
structure ModeDocument where
  leads : Sources
  trails : Sources
  roles : SortedMap String Sources
  deriving DecidableEq, Repr

abbrev Document := SortedMap String ModeDocument

/-- Why there is no table. -/
inductive TableError where
  /-- The text is no document of the expected form. -/
  | malformed
  | unreadable
  | unknownMode (name : String)
  | invalidFormatType (place : String) (error : KeyError)
  deriving DecidableEq, Repr

/-- The texts for malformed and unreadable documents are left to those who read them. -/
def TableError.message? : TableError → Option String
  | .malformed | .unreadable => none
  | .unknownMode name => some ("Unknown mode '" ++ name ++ "' in format table")
  | .invalidFormatType place error =>
    some ("Invalid format type in " ++ place ++ ": " ++ error.message)

/-- Where the expressions of a mode stand in a document. -/
inductive Group where
  | leads
  | trails
  | role (category : String)
  deriving DecidableEq, Repr

namespace Group

def path : Group → String
  | .leads => "prefix"
  | .trails => "suffix"
  | .role category => "roles." ++ category

def site (mode : Mode) (formatType : FormatType) : Group → Site
  | .leads => .lead mode formatType
  | .trails => .trail mode formatType
  | .role category => .category ⟨⟨category⟩, mode, formatType⟩

end Group

/-- One expression of a document. -/
structure DocumentEntry where
  group : Group
  formatName : String
  source : String
  deriving DecidableEq, Repr

namespace DocumentEntry

def place (mode : Mode) (entry : DocumentEntry) : String :=
  mode.name ++ "." ++ entry.group.path ++ "." ++ entry.formatName

/-- Stores an expression, or keeps its source aside if it does not parse. -/
def load (mode : Mode) (table : Table) (entry : DocumentEntry) : Except TableError Table :=
  match FormatType.ofName entry.formatName with
  | .error error => .error (.invalidFormatType (entry.place mode) error)
  | .ok formatType =>
    match Expr.parse entry.source with
    | .ok expr => .ok (table.set (entry.group.site mode formatType) expr)
    | .error error =>
      .ok { table with rejected := table.rejected ++ [⟨entry.place mode, entry.source, error⟩] }

def ofSources (group : Group) (sources : Sources) : List DocumentEntry :=
  sources.entries.map fun entry => ⟨group, entry.1, entry.2⟩

end DocumentEntry

namespace ModeDocument

/-- Leads, then trails, then the categories in order. -/
def entries (document : ModeDocument) : List DocumentEntry :=
  DocumentEntry.ofSources .leads document.leads ++
    DocumentEntry.ofSources .trails document.trails ++
    document.roles.entries.flatMap fun role => DocumentEntry.ofSources (.role role.1) role.2

end ModeDocument

def Table.loadMode (table : Table) (name : String) (document : ModeDocument) :
    Except TableError Table :=
  match Mode.ofName? name with
  | none => .error (.unknownMode name)
  | some mode => document.entries.foldlM (DocumentEntry.load mode) table

/-- The table that a document describes. Of two names for one format type the later one counts. -/
def Table.ofDocument (document : Document) : Except TableError Table :=
  document.entries.foldlM (fun table entry => table.loadMode entry.1 entry.2) .empty

namespace Toml.Value

def sources? : Value → Option Sources
  | .table _ entries => do
    return .ofList (← entries.mapM fun entry => do return (entry.1, ← entry.2.string?))
  | .datetime text => some ⟨[(datetimeName, text)]⟩
  | _ => none

def roles? : Value → Option (SortedMap String Sources)
  | .table _ entries => do
    return .ofList (← entries.mapM fun entry => do return (entry.1, ← entry.2.sources?))
  | _ => none

def optionally {α : Type} (read : Value → Option α) (missing : α) : Option Value → Option α
  | none => some missing
  | some value => read value

def modeFields? (leads trails roles : Option Value) : Option ModeDocument := do
  return ⟨← optionally sources? .empty leads, ← optionally sources? .empty trails,
    ← optionally roles? .empty roles⟩

/-- A table of three known names, or an array of what would stand under them. -/
def modeDocument? : Value → Option ModeDocument
  | .table _ entries =>
    if entries.all fun entry => ["prefix", "suffix", "roles"].contains entry.1 then
      modeFields? (entries.lookup "prefix") (entries.lookup "suffix") (entries.lookup "roles")
    else none
  | .array items => modeFields? items[0]? items[1]? items[2]?
  | .tables items =>
    let item (index : Nat) : Option Value := items[index]?.map (.table .headed)
    modeFields? (item 0) (item 1) (item 2)
  | _ => none

end Toml.Value

def Document.ofToml? (entries : Toml.Entries) : Option Document := do
  return .ofList (← entries.mapM fun entry => do return (entry.1, ← entry.2.modeDocument?))

/-- The table that a text in TOML describes. -/
def Table.ofSource (source : String) : Except TableError Table :=
  match (Toml.parse source).bind Document.ofToml? with
  | none => .error .malformed
  | some document => Table.ofDocument document

end Narration
