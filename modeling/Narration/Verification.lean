import Narration.Demand
import Narration.Registry
import Narration.Table
/-! Static check that stored expressions refer to registered quantities only. -/
namespace Narration

/-- An expression refers to a quantity that nobody provides. -/
structure Defect where
  site : Site
  quantity : QuantityName
  deriving DecidableEq, Repr

def Defect.message (defect : Defect) : String :=
  "Expression for " ++ defect.site.display ++ " references unknown quantity '" ++
    defect.quantity.text ++ "'"

namespace Verification

/-- The unknown names that evaluation reaches, in this order, where every quantity says nothing. -/
def reached (known : List QuantityName) (expr : Expr) : List QuantityName :=
  let note (name : QuantityName) : Action (List QuantityName) (List Fragment) := do
    modify (· ++ [name])
    return []
  match expr.settle (some ∘ note) (.placeholders known) [] with
  | .ok _ names | .error _ names => names

/-- Evaluation with nothing bound to anything does not enter the right side of an `and`, so the
other references follow from left to right. -/
def unknowns (known : List QuantityName) (expr : Expr) : List QuantityName :=
  if expr.isEmpty then []
  else
    expr.references.foldl (fun reported name =>
      if name.isReserved || known.contains name || reported.contains name then reported
      else reported ++ [name]) (reached known expr)

def defects (known : List QuantityName) (entries : List (Site × Expr)) : List Defect :=
  entries.flatMap fun entry => (unknowns known entry.2).map (⟨entry.1, ·⟩)

end Verification

def Table.verify {π : Type} (table : Table) (registry : Registry π) : List Defect :=
  Verification.defects registry.names table.entries

end Narration
