import Narration.Table.Document
/-! Tables as they are built, in memory or from a document: each site has one expression. -/
namespace Narration

instance : Std.TransOrd Mode := inferInstanceAs (Std.TransCmp (compareOn Mode.rank))

instance : Std.TransOrd FormatType :=
  inferInstanceAs (Std.TransCmp (compareLex (compareOn FormatType.rank) (compareOn FormatType.name)))

instance : Std.TransOrd Site :=
  inferInstanceAs (Std.TransCmp (compareLex (compareOn Site.rank) (compareLex
    (compareOn Site.categoryName) (compareLex (compareOn Site.mode) (compareOn Site.formatType)))))

namespace SortedMap

variable {κ α : Type} [Ord κ] {map : SortedMap κ α} {key : κ} {value : α}

/-- Whether the keys ascend, so that each of them has one entry. -/
def IsSorted (map : SortedMap κ α) : Prop :=
  map.entries.Pairwise fun first second => compare first.1 second.1 = .lt

theorem isSorted_empty : (empty : SortedMap κ α).IsSorted := List.Pairwise.nil

theorem mem_insertEntry {entry : κ × α} {entries : List (κ × α)}
    (member : entry ∈ insertEntry key value entries) : entry = (key, value) ∨ entry ∈ entries := by
  induction entries with
  | nil => simpa [insertEntry] using member
  | cons first rest ih =>
      rw [insertEntry] at member
      cases order : compare key first.1 with
      | lt => simpa [order] using member
      | eq =>
          simp only [order, List.mem_cons] at member ⊢
          exact member.imp_right Or.inr
      | gt =>
          simp only [order, List.mem_cons] at member ⊢
          rcases member with here | later
          · exact .inr (.inl here)
          · exact (ih later).imp_right Or.inr

theorem IsSorted.insert [Std.TransOrd κ] (sorted : map.IsSorted) (key : κ) (value : α) :
    (map.insert key value).IsSorted := by
  obtain ⟨entries⟩ := map
  unfold IsSorted SortedMap.insert at *
  induction entries with
  | nil => simp [insertEntry]
  | cons first rest ih =>
      obtain ⟨least, ascending⟩ := List.pairwise_cons.mp sorted
      simp only [insertEntry]
      cases order : compare key first.1 with
      | lt =>
          apply List.Pairwise.cons _ sorted
          intro entry member
          rcases List.mem_cons.mp member with rfl | later
          · exact order
          · exact Std.TransCmp.lt_trans order (least entry later)
      | eq =>
          apply List.Pairwise.cons _ ascending
          intro entry later
          exact Std.TransCmp.lt_of_eq_of_lt order (least entry later)
      | gt =>
          apply List.Pairwise.cons _ (ih ascending)
          intro entry member
          rcases mem_insertEntry member with rfl | later
          · exact Std.OrientedCmp.lt_of_gt order
          · exact least entry later

/-- In a sorted map, every entry is found under its key. -/
theorem IsSorted.get?_eq_some_iff [Std.ReflOrd κ] [DecidableEq κ] (sorted : map.IsSorted) :
    map.get? key = some value ↔ (key, value) ∈ map.entries := by
  constructor
  · exact mem_entries_of_get?
  · intro member
    obtain ⟨entries⟩ := map
    unfold IsSorted get? at *
    induction entries with
    | nil => cases member
    | cons first rest ih =>
        obtain ⟨least, ascending⟩ := List.pairwise_cons.mp sorted
        rcases List.mem_cons.mp member with rfl | later
        · simp
        · have below := least _ later
          have apart : first.1 ≠ key := by
            intro same
            simp [same, Std.ReflCmp.compare_self] at below
          simpa [apart] using ih ascending later

end SortedMap

/-- What each step of a fold that can fail preserves, the fold preserves. -/
theorem holds_of_foldlM {ε β ι : Type} {step : β → ι → Except ε β} (holds : β → Prop)
    (kept : ∀ {before item after}, holds before → step before item = .ok after → holds after)
    {items : List ι} {start final : β} (before : holds start)
    (folded : items.foldlM step start = .ok final) : holds final := by
  induction items generalizing start with
  | nil =>
      cases folded
      exact before
  | cons item rest ih =>
      rw [List.foldlM_cons] at folded
      cases stepped : step start item with
      | error error =>
          rw [stepped] at folded
          cases folded
      | ok between =>
          rw [stepped] at folded
          exact ih (kept before stepped) folded

namespace Table

/-- The tables that can be built: from the empty one, by storing expressions and by keeping sources
aside that do not parse. -/
inductive IsBuilt : Table → Prop
  | empty : IsBuilt .empty
  | set {table : Table} (built : IsBuilt table) (site : Site) (expr : Expr) :
      IsBuilt (table.set site expr)
  | reject {table : Table} (built : IsBuilt table) (entry : Rejected) :
      IsBuilt { table with rejected := table.rejected ++ [entry] }

theorem IsBuilt.isSorted {table : Table} (built : table.IsBuilt) : table.sites.IsSorted := by
  induction built with
  | empty => exact SortedMap.isSorted_empty
  | set built site expr ih => exact ih.insert site expr
  | reject built entry ih => exact ih

/-- A table has an expression at a site exactly if its entries list it there. -/
theorem IsBuilt.at?_eq_some_iff {table : Table} (built : table.IsBuilt) {site : Site} {expr : Expr} :
    table.at? site = some expr ↔ (site, expr) ∈ table.entries :=
  built.isSorted.get?_eq_some_iff

theorem IsBuilt.load {mode : Mode} {table next : Table} {entry : DocumentEntry}
    (built : table.IsBuilt) (loaded : entry.load mode table = .ok next) : next.IsBuilt := by
  unfold DocumentEntry.load at loaded
  split at loaded
  · cases loaded
  · split at loaded
    · cases loaded
      exact built.set _ _
    · cases loaded
      exact built.reject _

theorem IsBuilt.loadMode {name : String} {document : ModeDocument} {table next : Table}
    (built : table.IsBuilt) (loaded : table.loadMode name document = .ok next) : next.IsBuilt := by
  unfold Table.loadMode at loaded
  split at loaded
  · cases loaded
  · exact holds_of_foldlM IsBuilt IsBuilt.load built loaded

/-- Every table that is read from a text is built. -/
theorem isBuilt_ofSource {source : String} {table : Table} (read : ofSource source = .ok table) :
    table.IsBuilt := by
  unfold ofSource at read
  split at read
  · cases read
  · exact holds_of_foldlM IsBuilt IsBuilt.loadMode .empty read

end Table
end Narration
