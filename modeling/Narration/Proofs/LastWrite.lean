import Narration.Proofs.Action
import Narration.Proofs.LastValue
import Narration.Proofs.SiteOrder
/-! Tables that are written in memory. The main result: after any writes, each site has what the last
successful write to it stored, the entries list every written site once and in order, and a write whose
source does not parse changes nothing. -/
namespace Narration

/-- A change of a table. -/
inductive Write where
  | insert (key : FormatKey) (expr : Expr)
  | insertSource (key : FormatKey) (source : String)
  | setLead (mode : Mode) (formatType : FormatType) (expr : Expr)
  | setTrail (mode : Mode) (formatType : FormatType) (expr : Expr)
  deriving DecidableEq, Repr

namespace Write

/-- The expression that a write stores and its site, or why there is none. -/
def stores : Write → Except Expr.SyntaxError (Site × Expr)
  | .insert key expr => .ok (.category key, expr)
  | .insertSource key source => (Expr.parse source).map fun expr => (.category key, expr)
  | .setLead mode formatType expr => .ok (.lead mode formatType, expr)
  | .setTrail mode formatType expr => .ok (.trail mode formatType, expr)

/-- Performs a write in place. A source is read before anything changes. -/
def perform : Write → EStateM Expr.SyntaxError Table Unit
  | .insert key expr => modify (·.insert key expr)
  | .insertSource key source => do
    let expr ← match Expr.parse source with
      | .ok expr => pure expr
      | .error error => throw error
    modify (·.insert key expr)
  | .setLead mode formatType expr => modify (·.setLead mode formatType expr)
  | .setTrail mode formatType expr => modify (·.setTrail mode formatType expr)

/-- What the writes store that succeed. -/
def stored (writes : List Write) : List (Site × Expr) :=
  writes.filterMap fun write => write.stores.toOption

/-- What the last successful write to a site stored. -/
def last? (writes : List Write) (site : Site) : Option Expr := SortedMap.last? (stored writes) site

variable {write : Write} {writes : List Write} {table : Table}

theorem perform_eq : write.perform table =
    match write.stores with
    | .ok entry => .ok () (table.set entry.1 entry.2)
    | .error error => .error error table := by
  cases write with
  | insert key expr => rfl
  | setLead mode formatType expr => rfl
  | setTrail mode formatType expr => rfl
  | insertSource key source =>
      rw [perform, stores]
      cases Expr.parse source <;> rfl

/-- In place, a source is stored exactly as it is in a new table. -/
theorem perform_insertSource (key : FormatKey) (source : String) :
    (insertSource key source).perform table =
      match table.insertSource key source with
      | .ok next => .ok () next
      | .error error => .error error table := by
  rw [perform, Table.insertSource]
  cases Expr.parse source <;> rfl

end Write

namespace Table

/-- The table that writes leave, from the empty one on. -/
def ofWrites (writes : List Write) : Table :=
  writes.foldl (fun table write => finalState (write.perform table)) .empty

theorem ofWrites_append_singleton (writes : List Write) (write : Write) :
    ofWrites (writes ++ [write]) = finalState (write.perform (ofWrites writes)) := by
  rw [ofWrites, ofWrites, List.foldl_append]
  rfl

theorem ofWrites_eq (writes : List Write) :
    ofWrites writes = ⟨.ofList (Write.stored writes), []⟩ := by
  induction writes using List.reverseRecOn with
  | nil => rfl
  | append_singleton writes write ih =>
      rw [ofWrites_append_singleton, ih, Write.perform_eq, Write.stored, Write.stored,
        List.filterMap_append]
      cases stores : write.stores with
      | error error => simp [stores, finalState, Except.toOption]
      | ok entry =>
          simp only [List.filterMap_cons, List.filterMap_nil, stores, Except.toOption,
            SortedMap.ofList_append_singleton]
          rfl

theorem at?_ofWrites (writes : List Write) (site : Site) :
    (ofWrites writes).at? site = Write.last? writes site := by
  rw [ofWrites_eq]
  exact SortedMap.get?_ofList _ _

/-- Whether a table answers as a store that keeps the last write to each site: by site, for a context,
and in the list of all entries, where each site that was written stands once and in order. -/
structure KeepsLast (writes : List Write) (table : Table) : Prop where
  get? : ∀ key, table.get? key = Write.last? writes (.category key)
  leadFor? : ∀ context : Context, table.leadFor? context =
    context.mode.bind fun mode => Write.last? writes (.lead mode context.effectiveFormatType)
  trailFor? : ∀ context : Context, table.trailFor? context =
    context.mode.bind fun mode => Write.last? writes (.trail mode context.effectiveFormatType)
  listed : ∀ site expr, (site, expr) ∈ table.entries ↔ Write.last? writes site = some expr
  ascending : table.entries.Pairwise fun first second => first.1.Precedes second.1
  size : table.size = (((Write.stored writes).map Prod.fst).dedup.filter Site.isCategory).length
  nothingRejected : table.rejected = []

theorem keepsLast_ofWrites (writes : List Write) : (ofWrites writes).KeepsLast writes where
  get? key := at?_ofWrites writes (.category key)
  leadFor? context := by
    rw [leadFor?]
    cases context.mode with
    | none => rfl
    | some mode => exact at?_ofWrites writes (.lead mode context.effectiveFormatType)
  trailFor? context := by
    rw [trailFor?]
    cases context.mode with
    | none => rfl
    | some mode => exact at?_ofWrites writes (.trail mode context.effectiveFormatType)
  listed site expr := by
    rw [ofWrites_eq]
    exact SortedMap.mem_entries_ofList
  ascending := by
    rw [ofWrites_eq]
    exact (SortedMap.isSorted_ofList _).imp fun below => Site.compare_eq_lt_iff.mp below
  size := by
    have listed := (SortedMap.perm_keys_ofList (Write.stored writes)).countP_eq Site.isCategory
    rw [SortedMap.keys, List.countP_map] at listed
    rw [ofWrites_eq, ← List.countP_eq_length_filter]
    exact listed
  nothingRejected := by rw [ofWrites_eq]

/-- After any writes a table has, at each site, what the last successful write to exactly this site
stored, and lists the written sites once and in order. A source that does not parse gives the error of
the parser and changes nothing. The order is total and tells all sites apart, those of a known format
type and of a custom one with its name too, although they are displayed alike. -/
theorem last_write_wins (writes : List Write) :
    (ofWrites writes).KeepsLast writes ∧
      (∀ key source, (Write.insertSource key source).perform (ofWrites writes) =
        match Expr.parse source with
        | .ok expr => .ok () ((ofWrites writes).insert key expr)
        | .error error => .error error (ofWrites writes)) ∧
      ((∀ first second : Site, compare first second = .lt ↔ first.Precedes second) ∧
        (∀ first second : Site, compare first second = .eq ↔ first = second) ∧
        IsStrictTotalOrder Site Site.Precedes) ∧
      ∀ known ∈ FormatType.known, ∀ (group : Group) (mode : Mode),
        (group.site mode known).display = (group.site mode (.custom known.name)).display ∧
          (group.site mode known).Precedes (group.site mode (.custom known.name)) := by
  refine ⟨keepsLast_ofWrites writes, fun key source => ?_,
    ⟨fun _ _ => Site.compare_eq_lt_iff, fun _ _ => Std.compare_eq_iff_eq,
      Site.isStrictTotalOrder⟩, fun known isKnown group mode => ?_⟩
  · rw [Write.perform_insertSource, insertSource]
    cases Expr.parse source <;> rfl
  · have earlier : Occasion.Precedes (mode, known) (mode, .custom known.name) :=
      .inr ⟨rfl, .custom isKnown known.name⟩
    cases group with
    | leads => exact ⟨rfl, .leads earlier⟩
    | trails => exact ⟨rfl, .trails earlier⟩
    | role category => exact ⟨rfl, .categories (.occasions earlier)⟩

def namesake : FormatKey := ⟨.label, .speech, .custom "focused"⟩

/-- Writes to the sites of a known type and of its namesake. -/
def namesakes : List Write :=
  [.insert ⟨.label, .speech, .focused⟩ .empty, .insert namesake (.text "other"),
    .insert ⟨.label, .speech, .focused⟩ (.text "last")]

theorem last_write_wins_namesakes :
    FormatType.focused ∈ FormatType.known ∧
      (ofWrites namesakes).get? ⟨.label, .speech, .focused⟩ = some (.text "last") ∧
      (ofWrites namesakes).get? namesake = some (.text "other") ∧
      (Site.category ⟨.label, .speech, .focused⟩).Precedes (.category namesake) := by
  have isKnown : FormatType.focused ∈ FormatType.known := by decide
  obtain ⟨keeps, -, -, apart⟩ := last_write_wins namesakes
  refine ⟨isKnown, ?_, ?_, (apart .focused isKnown (.role "label") .speech).2⟩
  · rw [keeps.get?]
    decide
  · rw [keeps.get?]
    decide

end Table

end Narration
