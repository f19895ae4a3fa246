import Narration.QuantityName
import Narration.SortedMap
/-! Registration of the fields that compute quantities. -/
namespace Narration

/-- What computes a quantity, under the name of its implementation. -/
structure Field (π : Type) where
  implementation : String
  provider : π

inductive RegistryError where
  | duplicate (name : QuantityName) (first second : String)
  | reserved (name : QuantityName)
  | emptyName (implementation : String)
  deriving DecidableEq, Repr

def RegistryError.message : RegistryError → String
  | .duplicate name first second =>
    "Duplicate quantity name '" ++ name.text ++ "' (derived from '" ++ first ++ "' and '" ++
      second ++ "')"
  | .reserved name =>
    "Quantity name '" ++ name.text ++ "' is reserved for the binding environment"
  | .emptyName implementation =>
    "Provider '" ++ implementation ++ "' derives an empty quantity name"

structure Registry (π : Type) where
  fields : SortedMap QuantityName (Field π)

namespace Registry

variable {π : Type}

def empty : Registry π := ⟨.empty⟩

instance : Inhabited (Registry π) := ⟨empty⟩

def add (registry : Registry π) (name : QuantityName) (field : Field π) :
    Except RegistryError (Registry π) :=
  if name.isEmpty then .error (.emptyName field.implementation)
  else if name.isReserved then .error (.reserved name)
  else
    match registry.fields.get? name with
    | some first => .error (.duplicate name first.implementation field.implementation)
    | none => .ok ⟨registry.fields.insert name field⟩

/-- Registers `provider` under a name that is its implementation's name as well. -/
def register (registry : Registry π) (name : String) (provider : π) :
    Except RegistryError (Registry π) :=
  registry.add (.normalize name) ⟨name, provider⟩

/-- Registers fields under the names that their implementations suggest, up to the first refusal. -/
def ofManifest (manifest : List (Field π)) : Except RegistryError (Registry π) :=
  manifest.foldlM (fun registry field => registry.add (.ofImplementation field.implementation) field)
    empty

def provider? (registry : Registry π) (name : QuantityName) : Option π :=
  (registry.fields.get? name).map Field.provider

def contains (registry : Registry π) (name : QuantityName) : Bool := registry.fields.contains name

def implementation? (registry : Registry π) (name : QuantityName) : Option String :=
  (registry.fields.get? name).map Field.implementation

/-- The registered names in ascending order. -/
def names (registry : Registry π) : List QuantityName := registry.fields.keys

def size (registry : Registry π) : Nat := registry.fields.size

end Registry
end Narration
