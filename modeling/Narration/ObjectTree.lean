import Narration.ObjectModel
import Narration.Text.Bytes
/-! Object trees in memory. -/
namespace Narration

/-- The queries about an object that can break down. -/
inductive QueryKind where
  | isValid
  | category
  | name
  | description
  | label
  | text
  | unrelatedLabels
  | attributes
  | parent
  | application
  | activeDescendant
  | substring
  | caretLine
  | value
  | percent
  deriving DecidableEq, Repr

namespace QueryKind

def all : List QueryKind :=
  [isValid, category, name, description, label, text, unrelatedLabels, attributes, parent,
    application, activeDescendant, substring, caretLine, value, percent]

def display : QueryKind → String
  | isValid => "is_valid"
  | category => "category"
  | name => "name"
  | description => "description"
  | label => "label"
  | text => "text"
  | unrelatedLabels => "unrelated_labels"
  | attributes => "attributes"
  | parent => "parent"
  | application => "application"
  | activeDescendant => "active_descendant"
  | substring => "substring"
  | caretLine => "caret_line"
  | value => "value"
  | percent => "percent"

end QueryKind

structure Node where
  id : Target
  category : Option Category
  name : Option String
  description : Option String
  label : Option String
  text : Option String
  caretLine : Option String
  value : Option String
  percent : Option UInt32
  parent : Option Target
  application : Option Target
  activeDescendant : Option Target
  unrelatedLabels : List String
  attributes : List (String × String)
  /-- The queries that break down. -/
  broken : List QueryKind
  deriving Repr

structure ObjectTree where
  nodes : List Node
  dead : List Target
  /-- Names of categories that differ from what the category is called anyway. -/
  roleNames : List (String × Option String)
  deriving Repr

namespace ObjectTree

def find? (tree : ObjectTree) (target : Target) : Option Node :=
  tree.nodes.find? (·.id = target)

def contains (tree : ObjectTree) (target : Target) : Bool := (tree.find? target).isSome

def isDead (tree : ObjectTree) (target : Target) : Bool := tree.dead.contains target

def kill (tree : ObjectTree) (target : Target) : ObjectTree :=
  { tree with dead := target :: tree.dead.filter (· ≠ target) }

def revive (tree : ObjectTree) (target : Target) : ObjectTree :=
  { tree with dead := tree.dead.filter (· ≠ target) }

def remove (tree : ObjectTree) (target : Target) : ObjectTree :=
  { tree with nodes := tree.nodes.filter (·.id ≠ target) }

/-- Takes the place of a node with the same identity. -/
def add (tree : ObjectTree) (node : Node) : ObjectTree :=
  { tree with nodes := node :: (tree.remove node.id).nodes }

def ofNodes (nodes : List Node) (dead : List Target) (roleNames : List (String × Option String)) :
    ObjectTree :=
  ⟨(nodes.foldl add ⟨[], [], []⟩).nodes, dead.eraseDups, roleNames⟩

def setPercent (tree : ObjectTree) (target : Target) (percent : Option UInt32) : ObjectTree :=
  { tree with
    nodes := tree.nodes.map fun node => if node.id = target then { node with percent } else node }

/-- Reads a node; there is nothing to read where there is none. -/
def query {α : Type} (kind : QueryKind) (nothing : α) (read : Node → α) (tree : ObjectTree)
    (target : Target) : Query α :=
  match tree.find? target with
  | none => .ok nothing
  | some node =>
    if node.broken.contains kind then .error (kind.display ++ " query failed") else .ok (read node)

/-- Validity and category only. -/
def basicModel : ObjectModel ObjectTree where
  isValid tree target := query .isValid false (fun _ => !tree.isDead target) tree target
  category := query .category none Node.category

def model : ObjectModel ObjectTree where
  isValid := basicModel.isValid
  category := basicModel.category
  name := query .name none Node.name
  description := query .description none Node.description
  label := query .label none Node.label
  displayedText := query .text none Node.text
  unrelatedLabels := query .unrelatedLabels [] Node.unrelatedLabels
  attributes := query .attributes [] Node.attributes
  parent := query .parent none Node.parent
  application := query .application none Node.application
  activeDescendant := query .activeDescendant none Node.activeDescendant
  substring tree target first last :=
    query .substring none
      (fun node => node.text.bind fun text => Text.slice? text first.toNat last.toNat) tree target
  lineAtCaret := query .caretLine none Node.caretLine
  valueText := query .value none Node.value
  percent := query .percent none Node.percent
  roleName tree category :=
    .ok ((tree.roleNames.lookup category.name).getD (some category.name))

end ObjectTree
end Narration
