import Narration.Text.Case
/-! Names of the quantities that expressions refer to. -/
namespace Narration

/-- Name of a piece of content that can be computed on its own. -/
structure QuantityName where
  text : String
  deriving DecidableEq, Repr, Inhabited

namespace QuantityName

/-- The name as written, except that it starts in lower case. -/
def normalize (raw : String) : QuantityName :=
  ⟨String.ofList (Text.lowerFirst raw.toList)⟩

def isEmpty (name : QuantityName) : Bool := name.text == ""

/-- Names that stand for the target and its category and never reach a field. -/
def isReserved (name : QuantityName) : Bool := name.text == "obj" || name.text == "role"

instance : Ord QuantityName := ⟨compareOn QuantityName.text⟩

instance : Std.LawfulEqOrd QuantityName where
  compare_self {name} := (Std.compare_self : compare name.text name.text = .eq)
  eq_of_compare {first second} same := by
    have texts : first.text = second.text := Std.compare_eq_iff_eq.mp same
    cases first
    cases texts
    rfl

def implementationLead : List Char := "generate".toList

def dropUnderscores (s : List Char) : List Char := s.dropWhile (· == '_')

/-- Joins the words that underscores separate. `started` says that a character was kept already and
`raise` that the next one starts a later word. -/
def joinWords (started raise : Bool) : List Char → List Char
  | [] => []
  | c :: rest =>
    if c = '_' then joinWords started started rest
    else (if raise then Text.upperChar c else [c]) ++ joinWords true false rest

/-- The quantity that an implementation provides by its name: `generate_label_and_name` and
`generateLabelAndName` both provide `labelAndName`. -/
def ofImplementation (implementation : String) : QuantityName :=
  let name := implementation.toList
  let stem := (implementationLead.isPrefixOf? (dropUnderscores name)).getD name
  normalize (String.ofList (joinWords false false (dropUnderscores stem)))

end QuantityName
end Narration
