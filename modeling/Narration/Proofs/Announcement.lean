import Narration.Proofs.Report
import Narration.Proofs.Sweep
/-! The static check announces every unknown quantity at which a pass can end. -/
namespace Narration

theorem Table.mem_verify {π : Type} {table : Table} {registry : Registry π} {site : Site}
    {expr : Expr} {name : QuantityName} (stored : table.at? site = some expr)
    (nonempty : expr.isEmpty = false) (occurs : name ∈ expr.references)
    (free : name.isReserved = false) (absent : registry.contains name = false) :
    ⟨site, name⟩ ∈ table.verify registry := by
  have missing := (Verification.isMissing_names registry name).mpr ⟨free, absent⟩
  have reported := (Verification.mem_unknowns_iff nonempty).mpr ⟨occurs, missing⟩
  refine List.mem_flatMap.mpr ⟨(site, expr), SortedMap.mem_entries_of_get? stored, ?_⟩
  exact List.mem_map.mpr ⟨name, reported, rfl⟩

namespace Expr

theorem mem_references_wrap {lead trail : Option Expr} {body : Expr} {name : QuantityName}
    (occurs : name ∈ (wrap lead body trail).references) :
    name ∈ body.references ∨ ∃ part, (lead = some part ∨ trail = some part) ∧
      name ∈ part.references := by
  cases lead <;> cases trail <;> simp only [wrap, references, List.mem_append] at occurs <;> grind

end Expr

namespace Engine

variable {ω : Type} (engine : Engine ω)

/-- What the expression of a pass adds to the stored one refers to no unknown quantity. -/
theorem mem_references_evaluated {context : Context} {key : FormatKey} {body : Expr}
    {name : QuantityName} (occurs : name ∈ (engine.evaluated context key body).references)
    (unknown : ∀ part, engine.usable part → name ∉ part.references) : name ∈ body.references := by
  unfold evaluated at occurs
  split at occurs
  · exact occurs
  · unfold outermost at occurs
    split at occurs
    · rcases Expr.mem_references_wrap occurs with inBody | ⟨part, chosen, inPart⟩
      · exact inBody
      · refine absurd inPart (unknown part ?_)
        rcases chosen with lead | trail
        · exact (Option.filter_eq_some_iff.mp lead).2
        · exact (Option.filter_eq_some_iff.mp trail).2
    · exact occurs

theorem contains_of_fields_eq_none {below : Host ω} {target : Target} {context : Context}
    {key : FormatKey} {expression : Expr} {name : QuantityName}
    (unprovided : engine.fields below target context key expression name = none) :
    engine.registry.contains name = false := by
  simpa [fields, Registry.provider?, Registry.contains, SortedMap.contains] using unprovided

/-- A pass that ends at an unknown quantity has evaluated an expression that refers to it, and nobody
provides it. -/
theorem unknown_of_pass {below : Host ω} {target : Target} {context : Context}
    {state next : State ω} {resolution : Resolution} {name : QuantityName}
    (ran : engine.pass below target context state = .ok resolution next)
    (ended : resolution.outcome = .unknownQuantity name) :
    ∃ key body, resolution.key = some key ∧
      engine.Evaluates below target context state resolution next key body ∧
      name ∈ (engine.evaluated context key body).references ∧ name.isReserved = false ∧
      engine.registry.contains name = false := by
  rcases engine.pass_cases ran with ⟨outcome, key, skipped, early⟩ | ⟨key, body, evaluates⟩
  · rw [skipped] at ended
    rw [show outcome = .unknownQuantity name from ended] at early
    cases early
  · obtain ⟨settled, between, settling, concluded⟩ := engine.present_cases evaluates.ran
    have told := engine.conclude_eq_ok concluded
    have honest := Expr.settle_ending settling
    cases ending : settled.ending with
    | complete fragments =>
        rw [ending] at told
        rw [told] at ended
        cases ended
    | failed other =>
        rw [ending] at told
        rw [told] at ended
        cases ended
    | unknown other =>
        rw [ending] at told honest
        rw [told] at ended
        cases ended
        obtain ⟨needed, unprovided⟩ := honest
        obtain ⟨occurs, unbound⟩ := Expr.evaluate_needs needed
        exact ⟨key, body, by rw [told], evaluates, occurs, (Bindings.lookup_eq_none.mp unbound).1,
          engine.contains_of_fields_eq_none unprovided⟩

/-- A pass that ends at an unknown quantity has a key, the expression stored for this key refers to
the quantity, and the static check of the table has reported it there. Leads and trails in use never
refer to it. -/
theorem unknownQuantity_announced {below : Host ω} {target : Target} {context : Context}
    {state next : State ω} {resolution : Resolution} {name : QuantityName}
    (ran : engine.pass below target context state = .ok resolution next)
    (ended : resolution.outcome = .unknownQuantity name) :
    ∃ key body, resolution.key = some key ∧ engine.table.get? key = some body ∧
      name ∈ body.references ∧ (∀ part, engine.usable part → name ∉ part.references) ∧
      ⟨.category key, name⟩ ∈ engine.verify := by
  obtain ⟨key, body, keyed, evaluates, occurs, free, absent⟩ := engine.unknown_of_pass ran ended
  have unusable (part : Expr) (usable : engine.usable part) : name ∉ part.references := by
    intro inPart
    have known := List.all_eq_true.mp usable name inPart
    rw [free, absent] at known
    cases known
  have inBody := engine.mem_references_evaluated occurs unusable
  exact ⟨key, body, keyed, evaluates.stored, inBody, unusable,
    Table.mem_verify evaluates.stored evaluates.nonempty inBody free absent⟩

def sliderKey : FormatKey := ⟨⟨"slider"⟩, .standard, .unfocused⟩

/-- An engine without fields, whose table has a wrong name behind an empty operand and in a lead. -/
def misspelled : Engine Unit where
  objects := { isValid := fun _ _ => .ok true, category := fun _ _ => .ok (some sliderKey.category) }
  table := (Table.empty.insert sliderKey (.or .empty (.reference "typo"))).setLead .standard .unfocused
    (.reference "lost")
  registry := .empty
  settings := .standard

theorem unknownQuantity_misspelled : ∃ key body, some sliderKey = some key ∧
    misspelled.table.get? key = some body ∧ ⟨"typo"⟩ ∈ body.references ∧
    (∀ part, misspelled.usable part → ⟨"typo"⟩ ∉ part.references) ∧
    ⟨.category key, ⟨"typo"⟩⟩ ∈ misspelled.verify := by
  have ran : misspelled.pass (misspelled.host 0) 1 .standard (.start .standard 0 ()) =
      .ok ⟨[], .ofCategory sliderKey.category, .unknownQuantity ⟨"typo"⟩, some sliderKey⟩
        (.start .standard 0 ()) := by
    simp only [pass, present_eq, Expr.settle_eq_settleOnce]
    rfl
  exact misspelled.unknownQuantity_announced ran rfl

end Engine
end Narration
