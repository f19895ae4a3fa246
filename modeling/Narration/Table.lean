import Narration.Context
import Narration.Expr.Parser
import Narration.SortedMap
/-! The store of format expressions. -/
namespace Narration

/-- An expression that was left out because its source does not parse. -/
structure Rejected where
  place : String
  source : String
  error : Expr.SyntaxError
  deriving DecidableEq, Repr

structure Table where
  sites : SortedMap Site Expr
  rejected : List Rejected
  deriving DecidableEq, Repr

namespace Table

def empty : Table := ⟨.empty, []⟩

instance : Inhabited Table := ⟨empty⟩

/-- The table in which `site` has `expr`, whatever it had before. -/
def set (table : Table) (site : Site) (expr : Expr) : Table :=
  { table with sites := table.sites.insert site expr }

def insert (table : Table) (key : FormatKey) (expr : Expr) : Table :=
  table.set (.category key) expr

def setLead (table : Table) (mode : Mode) (formatType : FormatType) (expr : Expr) : Table :=
  table.set (.lead mode formatType) expr

def setTrail (table : Table) (mode : Mode) (formatType : FormatType) (expr : Expr) : Table :=
  table.set (.trail mode formatType) expr

def insertSource (table : Table) (key : FormatKey) (source : String) :
    Except Expr.SyntaxError Table :=
  (Expr.parse source).map (table.insert key)

def at? (table : Table) (site : Site) : Option Expr := table.sites.get? site

def get? (table : Table) (key : FormatKey) : Option Expr := table.at? (.category key)

/-- The lead for a context, which has to name its mode. -/
def leadFor? (table : Table) (context : Context) : Option Expr := do
  table.at? (.lead (← context.mode) context.effectiveFormatType)

def trailFor? (table : Table) (context : Context) : Option Expr := do
  table.at? (.trail (← context.mode) context.effectiveFormatType)

/-- Categories, then leads, then trails, each sorted. -/
def entries (table : Table) : List (Site × Expr) := table.sites.entries

/-- The number of expressions for categories. -/
def size (table : Table) : Nat := table.entries.countP fun entry => entry.1.isCategory

end Table
end Narration
