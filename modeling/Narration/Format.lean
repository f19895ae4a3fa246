/-! What selects an expression: the category of an object, the mode of output and the format type,
and the sites at which expressions are stored. -/
namespace Narration

/-- Accessible role of an object. -/
structure Category where
  name : String
  deriving DecidableEq, Repr, Inhabited

namespace Category

def comboBox : Category := ⟨"combo box"⟩
def icon : Category := ⟨"icon"⟩
def label : Category := ⟨"label"⟩
def link : Category := ⟨"link"⟩
def panel : Category := ⟨"panel"⟩
def progressBar : Category := ⟨"progress bar"⟩
def tableCell : Category := ⟨"table cell"⟩
def unknown : Category := ⟨"unknown"⟩

def wellKnown : List Category :=
  [comboBox, icon, label, link, panel, progressBar, tableCell, unknown]

end Category

/-- Kind of output that an expression is written for. -/
inductive Mode where
  | speech
  | braille
  | sound
  deriving DecidableEq, Repr, Inhabited

namespace Mode

def all : List Mode := [.speech, .braille, .sound]

def name : Mode → String
  | .speech => "speech"
  | .braille => "braille"
  | .sound => "sound"

def ofName? (name : String) : Option Mode := all.find? (·.name == name)

def rank : Mode → Nat
  | .speech => 0
  | .braille => 1
  | .sound => 2

instance : Ord Mode := ⟨compareOn rank⟩

/-- Speech is presented where nobody asks for another mode. -/
def standard : Mode := .speech

end Mode

/-- Focus state, or another circumstance, that an expression is written for. -/
inductive FormatType where
  | focused
  | unfocused
  | basicWhereAmI
  | detailedWhereAmI
  | custom (name : String)
  deriving DecidableEq, Repr, Inhabited

namespace FormatType

def name : FormatType → String
  | .focused => "focused"
  | .unfocused => "unfocused"
  | .basicWhereAmI => "basicWhereAmI"
  | .detailedWhereAmI => "detailedWhereAmI"
  | .custom name => name

/-- Known names and their other spellings select the known types; any other name is a custom type,
except that there is no type without a name. -/
def ofName? (name : String) : Option FormatType :=
  if name = "" then none
  else if name = "focused" then some .focused
  else if name = "unfocused" then some .unfocused
  else if name = "basicWhereAmI" || name = "basic_where_am_i" then some .basicWhereAmI
  else if name = "detailedWhereAmI" || name = "detailed_where_am_i" then some .detailedWhereAmI
  else some (.custom name)

def ofFocus (alreadyFocused : Bool) : FormatType :=
  if alreadyFocused then .focused else .unfocused

def isCustom : FormatType → Bool
  | .custom _ => true
  | _ => false

def rank : FormatType → Nat
  | .focused => 0
  | .unfocused => 1
  | .basicWhereAmI => 2
  | .detailedWhereAmI => 3
  | .custom _ => 4

/-- Known types in the order of their declaration, then the custom ones by name. -/
instance : Ord FormatType := ⟨compareLex (compareOn rank) (compareOn name)⟩

end FormatType

/-- Why a name in a key is refused. -/
inductive KeyError where
  | unknownMode (name : String)
  | emptyFormatType
  deriving DecidableEq, Repr

def KeyError.message : KeyError → String
  | .unknownMode name => "unknown mode '" ++ name ++ "' (expected speech, braille, or sound)"
  | .emptyFormatType => "format type cannot be empty"

def Mode.ofName (name : String) : Except KeyError Mode :=
  match Mode.ofName? name with
  | some mode => .ok mode
  | none => .error (.unknownMode name)

def FormatType.ofName (name : String) : Except KeyError FormatType :=
  match FormatType.ofName? name with
  | some formatType => .ok formatType
  | none => .error .emptyFormatType

/-- What selects the expression of a category. -/
structure FormatKey where
  category : Category
  mode : Mode
  formatType : FormatType
  deriving DecidableEq, Repr, Inhabited

def FormatKey.display (key : FormatKey) : String :=
  key.mode.name ++ "/" ++ key.category.name ++ "/" ++ key.formatType.name

instance : Ord FormatKey :=
  ⟨compareLex (compareOn fun key => key.category.name)
    (compareLex (compareOn FormatKey.mode) (compareOn FormatKey.formatType))⟩

/-- Where an expression is stored: for a category, or for the context in front of or behind any
category's expression. -/
inductive Site where
  | category (key : FormatKey)
  | lead (mode : Mode) (formatType : FormatType)
  | trail (mode : Mode) (formatType : FormatType)
  deriving DecidableEq, Repr, Inhabited

namespace Site

def display : Site → String
  | .category key => key.display
  | .lead mode formatType => mode.name ++ "/prefix/" ++ formatType.name
  | .trail mode formatType => mode.name ++ "/suffix/" ++ formatType.name

def isCategory : Site → Bool
  | .category _ => true
  | .lead _ _ | .trail _ _ => false

def rank : Site → Nat
  | .category _ => 0
  | .lead _ _ => 1
  | .trail _ _ => 2

def mode : Site → Mode
  | .category key => key.mode
  | .lead mode _ | .trail mode _ => mode

def formatType : Site → FormatType
  | .category key => key.formatType
  | .lead _ formatType | .trail _ formatType => formatType

/-- Empty for a context site, which serves every category. -/
def categoryName : Site → String
  | .category key => key.category.name
  | .lead _ _ | .trail _ _ => ""

/-- Categories, then leads, then trails; each by category, mode and format type. -/
instance : Ord Site :=
  ⟨compareLex (compareOn rank) (compareLex (compareOn categoryName)
    (compareLex (compareOn mode) (compareOn formatType)))⟩

end Site
end Narration
