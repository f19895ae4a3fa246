import Narration.Expr.Evaluation
import Narration.Format
/-! The quantities that one pass has computed. -/
namespace Narration

/-- Values in the order in which they were bound; the category is that of the pass, if there is one. -/
structure Bindings where
  category : Option Category
  values : List (QuantityName × List Fragment)
  deriving DecidableEq, Repr

namespace Bindings

def empty : Bindings := ⟨none, []⟩

instance : Inhabited Bindings := ⟨empty⟩

def ofCategory (category : Category) : Bindings := ⟨some category, []⟩

def value? (bindings : Bindings) (name : QuantityName) : Option (List Fragment) :=
  (bindings.values.find? fun entry => entry.1 = name).map Prod.snd

/-- The value under exactly this spelling. -/
def get? (bindings : Bindings) (name : String) : Option (List Fragment) :=
  bindings.value? ⟨name⟩

def contains (bindings : Bindings) (name : String) : Bool := (bindings.get? name).isSome

/-- Reserved names say nothing in every pass. -/
def lookup (bindings : Bindings) : Scope := fun name =>
  if name.isReserved then some [] else bindings.value? name

/-- Adds a value, unless the name is reserved or bound already. -/
def bind (bindings : Bindings) (name : QuantityName) (value : List Fragment) : Option Bindings :=
  if name.isReserved || (bindings.value? name).isSome then none
  else some { bindings with values := bindings.values ++ [(name, value)] }

/-- Every name bound to nothing. -/
def placeholders (names : List QuantityName) : Bindings :=
  ⟨none, names.eraseDups.map fun name => (name, [])⟩

def size (bindings : Bindings) : Nat := bindings.values.length

theorem lookup_eq_none {bindings : Bindings} {name : QuantityName} :
    bindings.lookup name = none ↔ name.isReserved = false ∧ bindings.value? name = none := by
  unfold lookup
  split <;> simp_all

theorem bind_of_lookup_eq_none {bindings : Bindings} {name : QuantityName}
    (unbound : bindings.lookup name = none) (value : List Fragment) :
    bindings.bind name value =
      some { bindings with values := bindings.values ++ [(name, value)] } := by
  have := lookup_eq_none.mp unbound
  simp [bind, this]

theorem value?_append (bindings : Bindings) (name other : QuantityName) (value : List Fragment) :
    Bindings.value? { bindings with values := bindings.values ++ [(name, value)] } other =
      (bindings.value? other).or (if name = other then some value else none) := by
  simp only [value?, List.find?_append, Option.map_or]
  congr 1
  by_cases same : name = other <;> simp [same]

end Bindings
end Narration
