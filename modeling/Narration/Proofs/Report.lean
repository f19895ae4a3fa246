import Narration.Proofs.Calls
import Narration.Verification
/-! What the static check reports: the unknown names of each expression, each of them once. First come
those that evaluation reaches where nothing is said, then the others from left to right. -/
namespace Narration

/-- These names and the reserved ones say nothing; nothing else is known. -/
def Scope.silent (names : List QuantityName) : Scope := fun name =>
  if name.isReserved || names.contains name then some [] else none

namespace Verification

/-- The names that evaluation reaches one after another and does not know, where each of them says
nothing from then on, as the names in `silent` do. -/
inductive Demands (expr : Expr) : (silent : List QuantityName) → List QuantityName → Prop
  | none {silent : List QuantityName} {fragments : List Fragment}
      (done : expr.evaluate (.silent silent) = .complete fragments) : Demands expr silent []
  | next {silent later : List QuantityName} {name : QuantityName}
      (needed : expr.evaluate (.silent silent) = .needs name)
      (further : Demands expr (silent ++ [name]) later) : Demands expr silent (name :: later)

/-- Whether a name is neither reserved nor among `names`. -/
def isMissing (names : List QuantityName) (name : QuantityName) : Bool :=
  !name.isReserved && !names.contains name

/-- The missing names among the references, from left to right. -/
def missingIn (names : List QuantityName) (expr : Expr) : List QuantityName :=
  (expr.references.filter (isMissing names)).eraseDups

section Reached

variable {expr : Expr} {silent later : List QuantityName} {name : QuantityName}

theorem isMissing_of_silent (unbound : Scope.silent silent name = none) : isMissing silent name := by
  unfold Scope.silent at unbound
  split at unbound
  · cases unbound
  · rename_i missing
    simpa [isMissing] using missing

theorem isMissing_append :
    isMissing (silent ++ later) name = (isMissing silent name && !later.contains name) := by
  simp [isMissing, Bool.and_assoc]

/-- What evaluation reaches is missing and occurs. -/
theorem Demands.missing (demands : Demands expr silent later) :
    ∀ name ∈ later, name ∈ expr.references ∧ isMissing silent name := by
  induction demands with
  | none done => exact fun _ member => nomatch member
  | next needed further ih =>
      obtain ⟨occurs, unbound⟩ := Expr.evaluate_needs needed
      refine List.forall_mem_cons.mpr ⟨⟨occurs, isMissing_of_silent unbound⟩, fun other member => ?_⟩
      obtain ⟨occurs, missing⟩ := ih other member
      rw [isMissing_append, Bool.and_eq_true] at missing
      exact ⟨occurs, missing.1⟩

theorem Demands.nodup (demands : Demands expr silent later) : later.Nodup := by
  induction demands with
  | none done => exact List.nodup_nil
  | @next silent later name needed further ih =>
      refine List.nodup_cons.mpr ⟨fun again => ?_, ih⟩
      have missing := (further.missing name again).2
      simp [isMissing_append] at missing

end Reached

section Reaching

variable {expr : Expr} {silent names : List QuantityName} {name : QuantityName}

theorem lookup_placeholders (names : List QuantityName) :
    (Bindings.placeholders names).lookup = .silent names := by
  funext name
  have bound : (Bindings.placeholders names).value? name =
      if names.contains name then some [] else none := by
    rw [Bindings.value?, Bindings.placeholders, List.find?_map]
    cases found : names.eraseDups.find? ((fun entry => decide (entry.1 = name)) ∘
        fun name => (name, ([] : List Fragment))) with
    | none =>
        have absent : names.contains name = false := by
          simpa using List.find?_eq_none.mp found name
        rw [absent]
        rfl
    | some other =>
        have same : other = name := by simpa using List.find?_some found
        have member : names.contains name := by
          simpa [same] using List.mem_of_find?_eq_some found
        rw [if_pos member]
        rfl
  rw [Bindings.lookup, bound, Scope.silent]
  cases name.isReserved <;> rfl

/-- A name that evaluation needs and that is then bound to nothing is silent like the others. -/
theorem lookup_extend_silent {bindings : Bindings} (same : bindings.lookup = .silent silent)
    (unbound : bindings.lookup name = none) :
    (bindings.extend name []).lookup = .silent (silent ++ [name]) := by
  funext other
  rw [Bindings.lookup_extend unbound, same]
  by_cases here : other = name
  · simp [Scope.silent, here]
  · simp [Scope.silent, here]

/-- What notes a name as reached and says nothing. -/
def note (name : QuantityName) : Action (List QuantityName) (List Fragment) := do
  modify (· ++ [name])
  return []

/-- Evaluation that notes the names it needs goes on to the end. -/
theorem settle_note {bindings : Bindings} (same : bindings.lookup = .silent silent) :
    ∃ settled later, expr.settle (some ∘ note) bindings names = .ok settled (names ++ later) ∧
      Demands expr silent later := by
  fun_induction Expr.settle (some ∘ note) expr bindings names generalizing silent with
  | case1 bindings names fragments done =>
      rw [same] at done
      exact ⟨_, [], by rw [List.append_nil], .none done⟩
  | case2 bindings names name needed unknown =>
      cases unknown
  | case3 bindings names name needed compute provided value next computed ih =>
      cases provided
      cases computed
      have unbound := (Expr.evaluate_needs needed).2
      obtain ⟨settled, later, ran, demands⟩ := ih (lookup_extend_silent same unbound)
      rw [same] at needed
      refine ⟨settled, name :: later, ?_, .next needed demands⟩
      rw [ran, List.append_assoc, List.singleton_append]
  | case4 bindings names name needed compute provided error next failed =>
      cases provided
      cases failed
  | case5 bindings names name needed compute provided halt next serious halted =>
      cases provided
      cases halted

theorem demands_reached (known : List QuantityName) (expr : Expr) :
    Demands expr known (reached known expr) := by
  have silent := lookup_placeholders known
  obtain ⟨settled, later, ran, demands⟩ := @settle_note expr known [] _ silent
  simp only [reached]
  split
  · rename_i settling
    cases ran.symm.trans settling
    exact demands
  · rename_i settling
    cases ran.symm.trans settling

end Reaching

/-- The second part of the check adds the missing names that are not reported yet. -/
theorem foldl_report (known names reported : List QuantityName) :
    names.foldl (fun reported name =>
      if name.isReserved || known.contains name || reported.contains name then reported
      else reported ++ [name]) reported =
    reported ++ (names.filter (isMissing (known ++ reported))).eraseDups := by
  induction names generalizing reported with
  | nil => simp
  | cons name rest ih =>
      rw [List.foldl_cons, ih]
      have skips : (name.isReserved || known.contains name || reported.contains name) =
          !isMissing (known ++ reported) name := by
        simp [isMissing, Bool.or_assoc]
      rw [skips]
      cases missing : isMissing (known ++ reported) name with
      | false => simp [missing]
      | true =>
          have others : rest.filter (isMissing (known ++ (reported ++ [name]))) =
              (rest.filter (isMissing (known ++ reported))).filter (!· == name) := by
            rw [List.filter_filter]
            refine List.filter_congr fun other _ => ?_
            rw [← List.append_assoc, isMissing_append, Bool.and_comm, Bool.eq_iff_iff]
            simp
          rw [List.filter_cons_of_pos missing, List.eraseDups_cons, ← others]
          simp

theorem nodup_eraseDups (names : List QuantityName) : names.eraseDups.Nodup := by
  match names with
  | [] => exact List.nodup_nil
  | name :: rest =>
      rw [List.eraseDups_cons]
      refine List.nodup_cons.mpr ⟨fun again => ?_, nodup_eraseDups _⟩
      have kept := (List.mem_filter.mp (List.mem_eraseDups.mp again)).2
      simp at kept
termination_by names.length
decreasing_by
  have shorter := List.length_filter_le (fun other => !other == name) rest
  rw [List.length_cons]
  omega

theorem unknowns_eq {known : List QuantityName} {expr : Expr} (nonempty : expr.isEmpty = false) :
    unknowns known expr =
      reached known expr ++ missingIn (known ++ reached known expr) expr := by
  rw [unknowns, if_neg (by simp [nonempty]), foldl_report]
  rfl

theorem mem_unknowns_iff {known : List QuantityName} {expr : Expr} {name : QuantityName}
    (nonempty : expr.isEmpty = false) :
    name ∈ unknowns known expr ↔ name ∈ expr.references ∧ isMissing known name := by
  rw [unknowns_eq nonempty, List.mem_append, missingIn, List.mem_eraseDups, List.mem_filter,
    isMissing_append, Bool.and_eq_true]
  constructor
  · rintro (first | ⟨occurs, missing, -⟩)
    · exact (demands_reached known expr).missing name first
    · exact ⟨occurs, missing⟩
  · rintro ⟨occurs, missing⟩
    by_cases first : name ∈ reached known expr
    · exact .inl first
    · exact .inr ⟨occurs, missing, by simpa using first⟩

theorem nodup_unknowns (known : List QuantityName) (expr : Expr) : (unknowns known expr).Nodup := by
  cases nonempty : expr.isEmpty with
  | true =>
      rw [unknowns, if_pos nonempty]
      exact List.nodup_nil
  | false =>
      rw [unknowns_eq nonempty]
      refine List.nodup_append.mpr ⟨(demands_reached known expr).nodup, nodup_eraseDups _, ?_⟩
      rintro name first other later rfl
      rw [missingIn, List.mem_eraseDups, List.mem_filter, isMissing_append] at later
      simp [first] at later

theorem isMissing_names {π : Type} (registry : Registry π) (name : QuantityName) :
    isMissing registry.names name ↔ name.isReserved = false ∧ registry.contains name = false := by
  rw [isMissing, Registry.names, SortedMap.contains_keys, Registry.contains, Bool.and_eq_true,
    Bool.not_eq_true', Bool.not_eq_true']

/-- What the check reports for an expression: each name once that the expression refers to and nobody
knows. Those that evaluation reaches come first. -/
structure Reports {π : Type} (registry : Registry π) (expr : Expr) (names : List QuantityName) :
    Prop where
  silent : expr.isEmpty → names = []
  distinct : names.Nodup
  unknown : expr.isEmpty = false → ∀ name, name ∈ names ↔
    name ∈ expr.references ∧ name.isReserved = false ∧ registry.contains name = false
  ordered : expr.isEmpty = false → ∃ reached, Demands expr registry.names reached ∧
    names = reached ++ missingIn (registry.names ++ reached) expr

theorem reports_unknowns {π : Type} (registry : Registry π) (expr : Expr) :
    Reports registry expr (unknowns registry.names expr) where
  silent empty := by rw [unknowns, if_pos empty]
  distinct := nodup_unknowns registry.names expr
  unknown nonempty name := by rw [mem_unknowns_iff nonempty, isMissing_names]
  ordered nonempty := ⟨reached registry.names expr, demands_reached _ _, unknowns_eq nonempty⟩

/-- The check reports the unknown names of each expression under its site, entry by entry. -/
theorem defects_reports {π : Type} (registry : Registry π) (entries : List (Site × Expr)) :
    ∃ report : Expr → List QuantityName, (∀ expr, Reports registry expr (report expr)) ∧
      defects registry.names entries =
        entries.flatMap fun entry => (report entry.2).map (⟨entry.1, ·⟩) :=
  ⟨unknowns registry.names, reports_unknowns registry, rfl⟩

end Verification
end Narration
