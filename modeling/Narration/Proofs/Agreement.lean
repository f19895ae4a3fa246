import Narration.Proofs.Announcement
import Narration.Proofs.Stored
/-! What an outermost pass leaves out and what the static check reports. The main result: the lead and
the trail that can say anything are left out exactly where the check has a defect at their site. -/
namespace Narration.Engine

variable {ω : Type} (engine : Engine ω)

/-- Whether an expression refers to a quantity that nobody provides. -/
def RefersToUnknown (expr : Expr) : Prop :=
  ∃ name ∈ expr.references, name.isReserved = false ∧ engine.registry.contains name = false

/-- Whether the static check has a defect at a site. -/
def Reports (site : Site) : Prop := ∃ defect ∈ engine.verify, defect.site = site

/-- What an outermost pass uses of the expression that is stored at a site for contexts. -/
def inUse (site : Site) : Option Expr := (engine.table.at? site).filter engine.usable

variable {engine} {site : Site} {part : Expr}

theorem refersToUnknown_iff : engine.RefersToUnknown part ↔ engine.usable part = false := by
  simp [RefersToUnknown, usable]

theorem inUse_of_stored (stored : engine.table.at? site = some part) :
    engine.inUse site = if engine.usable part then some part else none := by
  rw [inUse, stored, Option.filter_some]

theorem inUse_eq_none_iff (stored : engine.table.at? site = some part) :
    engine.inUse site = none ↔ engine.RefersToUnknown part := by
  rw [inUse_of_stored stored, refersToUnknown_iff]
  simp

/-- The check reports a site exactly if the expression there can say something and refers to an unknown
quantity. -/
theorem reports_iff (built : engine.table.IsBuilt) (stored : engine.table.at? site = some part) :
    engine.Reports site ↔ part.isEmpty = false ∧ engine.RefersToUnknown part := by
  constructor
  · rintro ⟨defect, reported, rfl⟩
    obtain ⟨⟨place, expr⟩, listed, inReport⟩ := List.mem_flatMap.mp reported
    obtain ⟨name, unknown, rfl⟩ := List.mem_map.mp inReport
    -- A site has one expression, so the reported one is the one that is stored there.
    have found := built.at?_eq_some_iff.mpr listed
    cases found.symm.trans stored
    have nonempty : part.isEmpty = false := by
      cases empty : part.isEmpty with
      | false => rfl
      | true => simp [Verification.unknowns, empty] at unknown
    obtain ⟨occurs, missing⟩ := (Verification.mem_unknowns_iff nonempty).mp unknown
    have absent := (Verification.isMissing_names engine.registry name).mp missing
    exact ⟨nonempty, name, occurs, absent⟩
  · rintro ⟨nonempty, name, occurs, free, absent⟩
    have reported : ⟨site, name⟩ ∈ engine.verify :=
      Table.mem_verify stored nonempty occurs free absent
    exact ⟨_, reported, rfl⟩

theorem evaluated_of_outermost {context : Context} (outermost : context.recursing = false)
    (included : context.includeContext = true) (key : FormatKey) (body : Expr) :
    engine.evaluated context key body =
      .wrap (engine.inUse (.lead key.mode key.formatType)) body
        (engine.inUse (.trail key.mode key.formatType)) := by
  have wraps : (keyedContext context key).includeContext = true := included
  rw [evaluated, outermost, Engine.outermost, if_neg Bool.false_ne_true, if_pos wraps]
  rfl

/-- An outermost pass that stands in its context evaluates the expression of its key between the lead
and the trail in use. A stored one that can say something is left out exactly where the static check
has a defect at its site. One that can say nothing is never reported; it is left out where it refers to
an unknown quantity. -/
theorem leftOut_iff_reports (built : engine.table.IsBuilt) {target : Target} {context : Context}
    {state : State ω} {key : FormatKey} {body : Expr}
    (opens : engine.opening? target context state = some (key, body))
    (outermost : context.recursing = false) (included : context.includeContext = true)
    (below : Host ω) :
    engine.pass below target context state =
        contained (engine.present below target (innerContext context key) key
          (.wrap (engine.inUse (.lead key.mode key.formatType)) body
            (engine.inUse (.trail key.mode key.formatType)))) { state with fallbacks := .none } ∧
      ∀ site ∈ [Site.lead key.mode key.formatType, Site.trail key.mode key.formatType],
        ∀ part, engine.table.at? site = some part →
          (engine.inUse site = none ∨ engine.inUse site = some part) ∧
          (part.isEmpty = false → (engine.inUse site = none ↔ engine.Reports site)) ∧
          (part.isEmpty = true → ¬ engine.Reports site ∧
            (engine.inUse site = none ↔ engine.RefersToUnknown part)) := by
  constructor
  · rw [pass_of_opening opens, evaluated_of_outermost outermost included]
    simp [started, outermost]
  · intro site among part stored
    have used := inUse_of_stored stored
    have reported := reports_iff built stored
    have left := inUse_eq_none_iff stored
    refine ⟨?_, ?_, ?_⟩
    · rw [used]
      cases engine.usable part with
      | false => exact .inl rfl
      | true => exact .inr rfl
    · intro nonempty
      rw [left, reported]
      simp [nonempty]
    · intro empty
      refine ⟨?_, left⟩
      rw [reported]
      simp [empty]

section Example

def framedKey : FormatKey := ⟨⟨"push button"⟩, .standard, .unfocused⟩

/-- An engine without fields. The lead of its table refers to an unknown quantity, and so does the
trail, which can say nothing. -/
def misframed : Engine Unit where
  objects := { isValid := fun _ _ => .ok true, category := fun _ _ => .ok (some framedKey.category) }
  table := ((Table.empty.insert framedKey (.text "button")).setLead .standard .unfocused
    (.reference "typo")).setTrail .standard .unfocused (.and .empty (.reference "lost"))
  registry := .empty
  settings := .standard

theorem isBuilt_misframed : misframed.table.IsBuilt :=
  ((Table.IsBuilt.empty.set _ _).set _ _).set _ _

theorem opening_misframed :
    misframed.opening? 1 .standard (.start .standard 0 ()) = some (framedKey, .text "button") :=
  rfl

/-- The lead is left out and reported. -/
theorem leftOut_iff_reports_misframed :
    misframed.inUse (.lead .standard .unfocused) = none ∧
      misframed.Reports (.lead .standard .unfocused) := by
  have leftOut : misframed.inUse (.lead .standard .unfocused) = none := by decide +kernel
  have agree := (leftOut_iff_reports isBuilt_misframed opening_misframed rfl rfl
    (misframed.host 0)).2
  have stored : misframed.table.at? (.lead .standard .unfocused) = some (.reference "typo") := by
    decide +kernel
  have reported := (agree _ (by decide) _ stored).2.1 rfl
  exact ⟨leftOut, reported.mp leftOut⟩

/-- It is not so that all that is left out is reported: the trail is left out, and the check reports
nothing at its site. -/
theorem not_leftOut_iff_reports : ¬ ∀ (engine : Engine Unit) (target : Target) (context : Context)
    (state : State Unit) (key : FormatKey) (body : Expr), engine.table.IsBuilt →
    engine.opening? target context state = some (key, body) → context.recursing = false →
    context.includeContext = true →
    ∀ site ∈ [Site.lead key.mode key.formatType, Site.trail key.mode key.formatType],
      ∀ part, engine.table.at? site = some part →
        (engine.inUse site = none ↔ engine.Reports site) := by
  intro agree
  have stored : misframed.table.at? (.trail .standard .unfocused) =
      some (.and .empty (.reference "lost")) := by
    decide +kernel
  have trail := agree misframed 1 .standard _ _ _ isBuilt_misframed opening_misframed rfl rfl
    (.trail .standard .unfocused) (by decide) _ stored
  have leftOut : misframed.inUse (.trail .standard .unfocused) = none := by decide +kernel
  have reported := (reports_iff isBuilt_misframed stored).mp (trail.mp leftOut)
  cases reported.1

end Example

end Narration.Engine
