import Mathlib.Data.String.Basic
import Mathlib.Order.Defs.Unbundled
import Narration.Proofs.Stored
/-! The order in which a table lists its sites: categories, then leads, then trails, and names by their
bytes. The main result: it is a strict total order, so that sites which are displayed alike stay apart. -/
namespace Narration

namespace Text

/-- The bytes of a text in UTF-8. -/
def bytes (s : String) : List UInt8 := s.toUTF8.data.toList

theorem bytes_eq (s : String) : bytes s = s.toList.flatMap String.utf8EncodeChar := by
  rw [bytes, String.toUTF8, ← String.utf8Encode_toList, List.utf8Encode, List.data_toByteArray]

/-- The first bytes of two characters decide, as no encoding begins another. -/
theorem utf8EncodeChar_append_lt {c d : Char} (less : c < d) (s t : List UInt8) :
    String.utf8EncodeChar c ++ s < String.utf8EncodeChar d ++ t := by
  have codes : c.val.toNat < d.val.toNat := less
  have bound : d.val.toNat < 0x110000 := by
    rcases d.valid with low | ⟨-, high⟩
    · exact Nat.lt_trans low (by decide)
    · exact high
  rw [String.utf8EncodeChar, String.utf8EncodeChar]
  generalize c.val.toNat = v at *
  generalize d.val.toNat = w at *
  -- One case for each pair of lengths; the digits to the base 64 are compared one after another.
  split_ifs <;>
    simp only [List.cons_append, List.nil_append, List.cons_lt_cons_iff, UInt8.lt_iff_toNat_lt,
      ← UInt8.toNat_inj, UInt8.toNat_ofNat']
  all_goals
    simp (disch := omega) only [Nat.mod_eq_of_lt]
    omega

theorem flatMap_utf8EncodeChar_lt {s t : List Char} (less : s < t) :
    s.flatMap String.utf8EncodeChar < t.flatMap String.utf8EncodeChar := by
  induction s generalizing t with
  | nil =>
      cases t with
      | nil => exact absurd less (List.lt_irrefl _)
      | cons d t =>
          have nonempty : String.utf8EncodeChar d ≠ [] := String.utf8EncodeChar_ne_nil
          obtain ⟨first, rest, encoded⟩ := List.exists_cons_of_ne_nil nonempty
          rw [List.flatMap_cons, encoded]
          exact List.Lex.nil
  | cons c s ih =>
      cases t with
      | nil => cases less
      | cons d t =>
          rw [List.flatMap_cons, List.flatMap_cons]
          rcases List.cons_lt_cons_iff.mp less with first | ⟨rfl, rest⟩
          · exact utf8EncodeChar_append_lt first _ _
          · exact List.Lex.append_left _ (ih rest) _

/-- Texts are in the order of their bytes. -/
theorem bytes_lt_bytes {s t : String} : bytes s < bytes t ↔ s < t := by
  have keeps {s t : String} (less : s < t) : bytes s < bytes t := by
    rw [bytes_eq, bytes_eq]
    exact flatMap_utf8EncodeChar_lt (String.lt_iff_toList_lt.mp less)
  constructor
  · intro less
    rcases lt_trichotomy s t with below | rfl | above
    · exact below
    · exact absurd less (List.lt_irrefl _)
    · exact absurd less (List.lt_asymm (keeps above))
  · exact keeps

theorem compare_eq_lt_iff {s t : String} : compare s t = .lt ↔ bytes s < bytes t := by
  rw [bytes_lt_bytes]
  exact Std.LawfulLTCmp.eq_lt_iff_lt

end Text

section Orders

/-- Modes in the order of their declaration. -/
def Mode.Precedes (first second : Mode) : Prop := [first, second].Sublist Mode.all

namespace FormatType

/-- The known types in the order of their declaration. -/
def known : List FormatType := [.focused, .unfocused, .basicWhereAmI, .detailedWhereAmI]

/-- The known types as declared, then the custom ones by the bytes of their names. -/
inductive Precedes : FormatType → FormatType → Prop
  | declared {first second : FormatType} (inOrder : [first, second].Sublist known) :
      Precedes first second
  | custom {first : FormatType} (isKnown : first ∈ known) (name : String) :
      Precedes first (.custom name)
  | names {first second : String} (bytes : Text.bytes first < Text.bytes second) :
      Precedes (.custom first) (.custom second)

end FormatType

/-- When an expression is for: in which mode, and of which format type. -/
abbrev Occasion := Mode × FormatType

/-- By mode, then by format type. -/
def Occasion.Precedes (first second : Occasion) : Prop :=
  first.1.Precedes second.1 ∨ first.1 = second.1 ∧ first.2.Precedes second.2

/-- Keys by category, mode and format type. -/
inductive FormatKey.Precedes : FormatKey → FormatKey → Prop
  | categories {first second : FormatKey}
      (bytes : Text.bytes first.category.name < Text.bytes second.category.name) :
      Precedes first second
  | occasions {category : Category} {first second : Occasion} (earlier : first.Precedes second) :
      Precedes ⟨category, first.1, first.2⟩ ⟨category, second.1, second.2⟩

/-- Categories, then leads, then trails, each in its own order. -/
inductive Site.Precedes : Site → Site → Prop
  | categories {first second : FormatKey} (earlier : first.Precedes second) :
      Precedes (.category first) (.category second)
  | categoryLead (key : FormatKey) (occasion : Occasion) :
      Precedes (.category key) (.lead occasion.1 occasion.2)
  | categoryTrail (key : FormatKey) (occasion : Occasion) :
      Precedes (.category key) (.trail occasion.1 occasion.2)
  | leadTrail (first second : Occasion) :
      Precedes (.lead first.1 first.2) (.trail second.1 second.2)
  | leads {first second : Occasion} (earlier : first.Precedes second) :
      Precedes (.lead first.1 first.2) (.lead second.1 second.2)
  | trails {first second : Occasion} (earlier : first.Precedes second) :
      Precedes (.trail first.1 first.2) (.trail second.1 second.2)

end Orders

section Comparisons

instance : Std.LawfulEqOrd Mode where
  eq_of_compare {first second} same := by
    cases first <;> cases second <;> first | rfl | cases same

theorem Mode.compare_eq_lt_iff {first second : Mode} :
    compare first second = .lt ↔ first.Precedes second := by
  unfold Mode.Precedes
  cases first <;> cases second <;> decide

theorem FormatType.compare_eq (first second : FormatType) :
    compare first second = (compare first.rank second.rank).then (compare first.name second.name) :=
  rfl

instance : Std.LawfulEqOrd FormatType where
  eq_of_compare {first second} same := by
    rw [FormatType.compare_eq, Ordering.then_eq_eq, Std.compare_eq_iff_eq,
      Std.compare_eq_iff_eq] at same
    obtain ⟨ranks, names⟩ := same
    cases first <;> cases second <;> first
      | rfl
      | exact congrArg _ names
      | cases ranks

theorem FormatType.compare_eq_lt_iff {first second : FormatType} :
    compare first second = .lt ↔ first.Precedes second := by
  constructor
  · intro less
    cases first <;> cases second <;> first
      | exact .declared (by decide)
      | exact .custom (by decide) _
      | exact .names (Text.compare_eq_lt_iff.mp less)
      | cases less
  · intro precedes
    cases precedes with
    | declared inOrder =>
        have knownBoth := inOrder.subset
        simp only [known, List.cons_subset, List.mem_cons, List.not_mem_nil, or_false] at knownBoth
        obtain ⟨rfl | rfl | rfl | rfl, rfl | rfl | rfl | rfl, -⟩ := knownBoth <;> first
          | rfl
          | exact absurd inOrder (by decide)
    | custom isKnown name =>
        simp only [known, List.mem_cons, List.not_mem_nil, or_false] at isKnown
        rcases isKnown with rfl | rfl | rfl | rfl <;> rfl
    | names bytes => exact Text.compare_eq_lt_iff.mpr bytes

/-- Keys and the sites for contexts end with this comparison. -/
theorem Occasion.compare_eq_lt_iff (first second : Occasion) :
    (compare first.1 second.1).then (compare first.2 second.2) = .lt ↔ first.Precedes second := by
  rw [Ordering.then_eq_lt, Mode.compare_eq_lt_iff, FormatType.compare_eq_lt_iff,
    Std.compare_eq_iff_eq]
  rfl

theorem Occasion.compare_eq_eq_iff (first second : Occasion) :
    (compare first.1 second.1).then (compare first.2 second.2) = .eq ↔ first = second := by
  rw [Ordering.then_eq_eq, Std.compare_eq_iff_eq, Std.compare_eq_iff_eq, Prod.ext_iff]

namespace FormatKey

variable {first second : FormatKey}

theorem compare_eq (first second : FormatKey) :
    compare first second = (compare first.category.name second.category.name).then
      ((compare first.mode second.mode).then (compare first.formatType second.formatType)) := rfl

theorem compare_eq_lt_iff : compare first second = .lt ↔ first.Precedes second := by
  obtain ⟨⟨name⟩, mode, formatType⟩ := first
  obtain ⟨⟨other⟩, otherMode, otherType⟩ := second
  have occasions := Occasion.compare_eq_lt_iff (mode, formatType) (otherMode, otherType)
  rw [compare_eq, Ordering.then_eq_lt, Text.compare_eq_lt_iff, Std.compare_eq_iff_eq, occasions]
  constructor
  · rintro (bytes | ⟨rfl, earlier⟩)
    · exact .categories bytes
    · exact .occasions earlier
  · intro precedes
    cases precedes with
    | categories bytes => exact .inl bytes
    | occasions earlier => exact .inr ⟨rfl, earlier⟩

instance : Std.TransOrd FormatKey :=
  inferInstanceAs (Std.TransCmp (compareLex (compareOn fun key => key.category.name)
    (compareLex (compareOn FormatKey.mode) (compareOn FormatKey.formatType))))

instance : Std.LawfulEqOrd FormatKey where
  eq_of_compare {first second} same := by
    obtain ⟨⟨name⟩, mode, formatType⟩ := first
    obtain ⟨⟨other⟩, otherMode, otherType⟩ := second
    rw [compare_eq, Ordering.then_eq_eq, Std.compare_eq_iff_eq] at same
    obtain ⟨rfl, occasions⟩ := same
    cases (Occasion.compare_eq_eq_iff (mode, formatType) (otherMode, otherType)).mp occasions
    rfl

end FormatKey

namespace Site

variable {first second : Site}

theorem compare_eq_lt_iff : compare first second = .lt ↔ first.Precedes second := by
  constructor
  · intro less
    cases first with
    | category key =>
        cases second with
        | category other => exact .categories (FormatKey.compare_eq_lt_iff.mp less)
        | lead mode formatType => exact .categoryLead key (mode, formatType)
        | trail mode formatType => exact .categoryTrail key (mode, formatType)
    | lead mode formatType =>
        cases second with
        | category other => cases less
        | lead other after =>
            exact .leads ((Occasion.compare_eq_lt_iff (mode, formatType) (other, after)).mp less)
        | trail other after => exact .leadTrail (mode, formatType) (other, after)
    | trail mode formatType =>
        cases second with
        | category other => cases less
        | lead other after => cases less
        | trail other after =>
            exact .trails ((Occasion.compare_eq_lt_iff (mode, formatType) (other, after)).mp less)
  · intro precedes
    cases precedes with
    | categories earlier => exact FormatKey.compare_eq_lt_iff.mpr earlier
    | categoryLead => rfl
    | categoryTrail => rfl
    | leadTrail => rfl
    | leads earlier => exact (Occasion.compare_eq_lt_iff _ _).mpr earlier
    | trails earlier => exact (Occasion.compare_eq_lt_iff _ _).mpr earlier

instance : Std.LawfulEqOrd Site where
  eq_of_compare {first second} same := by
    cases first with
    | category key =>
        cases second with
        | category other => exact congrArg _ (Std.compare_eq_iff_eq.mp same)
        | lead => cases same
        | trail => cases same
    | lead mode formatType =>
        cases second with
        | lead other after =>
            cases (Occasion.compare_eq_eq_iff (mode, formatType) (other, after)).mp same
            rfl
        | category => cases same
        | trail => cases same
    | trail mode formatType =>
        cases second with
        | trail other after =>
            cases (Occasion.compare_eq_eq_iff (mode, formatType) (other, after)).mp same
            rfl
        | category => cases same
        | lead => cases same

/-- The order is total, and it tells all sites apart. -/
theorem isStrictTotalOrder : IsStrictTotalOrder Site Site.Precedes where
  irrefl site precedes := by
    have below := compare_eq_lt_iff.mpr precedes
    rw [Std.compare_self] at below
    cases below
  trans first second third earlier later := by
    rw [← compare_eq_lt_iff] at *
    exact Std.TransCmp.lt_trans earlier later
  trichotomous first second notBefore notBehind := by
    rw [← compare_eq_lt_iff] at notBefore notBehind
    cases order : compare first second with
    | lt => exact absurd order notBefore
    | eq => exact Std.compare_eq_iff_eq.mp order
    | gt => exact absurd (Std.OrientedCmp.lt_of_gt order) notBehind

end Site

end Comparisons

end Narration
