import Narration.Logging.Setup
import Narration.Proofs.Directives
/-! Setting up the log with settings that were validated. The main result: where no variable says anything
about the log, this fails exactly if the log is on and an entry of its modules is no directive. -/
namespace Narration.Logging.Setup

/-- The variables that come before the settings. -/
def logVariables : List String := [filterVariable, modulesVariable, formatVariable, outputVariable]

/-- Whether an environment leaves the log to the settings. -/
def LeavesLog (environment : Environment) : Prop :=
  ∀ name ∈ logVariables, environment.get? name = none

/-- How the level of a module is spelled as a directive. -/
def spelled (entry : String × String) : String := entry.1 ++ "=" ++ entry.2

variable {environment : Environment} {settings : Settings}

theorem moduleDirective_eq (entry : String × String) :
    moduleDirective entry =
      if Directive.isValid (spelled entry) then .ok (spelled entry) else .error .directive := rfl

/-- The first entry that is no directive stops the set-up. -/
theorem mapM_moduleDirective (entries : List (String × String)) :
    entries.mapM moduleDirective =
      if ∀ entry ∈ entries, Directive.isValid (spelled entry) then .ok (entries.map spelled)
      else .error .directive := by
  induction entries with
  | nil => rfl
  | cons entry entries ih =>
      rw [List.mapM_cons, ih, moduleDirective_eq]
      simp only [List.forall_mem_cons]
      by_cases valid : Directive.isValid (spelled entry)
      · simp only [valid, if_true, true_and]
        split <;> rfl
      · simp only [valid, if_false, false_and, Bool.false_eq_true]
        rfl

theorem exists_of_validate (accepted : settings.validate = .ok ()) :
    ∃ chosen target, Format.ofName settings.format = .ok chosen ∧
      Output.ofName settings.output = .ok target := by
  unfold Settings.validate at accepted
  cases isFormat : Format.ofName settings.format with
  | error problem =>
      rw [isFormat] at accepted
      split at accepted <;> cases accepted
  | ok chosen =>
      cases isOutput : Output.ofName settings.output with
      | error problem =>
          rw [isFormat, isOutput] at accepted
          split at accepted <;> cases accepted
      | ok target => exact ⟨chosen, target, rfl, rfl⟩

theorem filter_of_leavesLog (leaves : LeavesLog environment) (settings : Settings) :
    filter environment (some settings) =
      if settings.level = "off" then .ok ["off"]
      else (settings.modules.entries.mapM moduleDirective).map (settings.level :: ·) := by
  have noFilter : environment.get? filterVariable = none := leaves _ (by decide)
  have noModules : environment.get? modulesVariable = none := leaves _ (by decide)
  simp only [filter, noFilter, noModules, Option.bind_none, Option.map_some, Option.getD_some,
    Option.map_none, Option.getD_none, List.append_nil]
  split
  · rename_i off
    rw [off]
  · cases settings.modules.entries.mapM moduleDirective <;> rfl

theorem format_of_leavesLog (leaves : LeavesLog environment) {chosen : Format}
    (named : Format.ofName settings.format = .ok chosen) :
    format environment (some settings) = .ok chosen := by
  have noFormat : environment.get? formatVariable = none := leaves _ (by decide)
  simp only [format, noFormat, Option.map_none, Option.map_some, Option.getD_some, named]
  rfl

theorem output_of_leavesLog (leaves : LeavesLog environment) {chosen : Output}
    (named : Output.ofName settings.output = .ok chosen) :
    output environment (some settings) = .ok chosen := by
  have noOutput : environment.get? outputVariable = none := leaves _ (by decide)
  simp only [output, noOutput, Option.getD_none, Option.map_some, Option.getD_some, named]
  rfl

/-- What is chosen, or why nothing is. -/
theorem choose_eq (leaves : LeavesLog environment) (accepted : settings.validate = .ok ()) :
    ∃ format output, choose environment (some settings) =
      if settings.level = "off" then .ok ⟨["off"], format, output⟩
      else if ∀ entry ∈ settings.modules.entries, Directive.isValid (spelled entry) then
        .ok ⟨settings.level :: settings.modules.entries.map spelled, format, output⟩
      else .error .directive := by
  obtain ⟨chosen, target, isFormat, isOutput⟩ := exists_of_validate accepted
  refine ⟨chosen, target, ?_⟩
  rw [choose, filter_of_leavesLog leaves, format_of_leavesLog leaves isFormat,
    output_of_leavesLog leaves isOutput, mapM_moduleDirective]
  split
  · rfl
  · split <;> rfl

theorem isValid_spelled {entry : String × String} (plain : Directive.IsPlain entry.1.toList) :
    Directive.isValid (spelled entry) ↔ Directive.GivesLevel entry.2.toList := by
  have same : spelled entry = String.ofList (entry.1.toList ++ '=' :: entry.2.toList) := by
    apply String.toList_injective
    simp [spelled]
  rw [same, Directive.isValid_iff_givesLevel plain]

/-- Where no variable says anything about the log, what validated settings ask for can be chosen exactly
if the log is off or each entry of the modules is a directive; only such an entry is refused. With plain
names of the modules, the entries have to give them levels. -/
theorem choose_of_validated (leaves : LeavesLog environment) (accepted : settings.validate = .ok ()) :
    ((∃ log, choose environment (some settings) = .ok log) ↔
      settings.level = "off" ∨
        ∀ entry ∈ settings.modules.entries, Directive.isValid (spelled entry)) ∧
    (∀ error, choose environment (some settings) = .error error → error = .directive) ∧
    ((∀ entry ∈ settings.modules.entries, Directive.IsPlain entry.1.toList) →
      ((∃ log, choose environment (some settings) = .ok log) ↔
        settings.level = "off" ∨
          ∀ entry ∈ settings.modules.entries, Directive.GivesLevel entry.2.toList)) := by
  obtain ⟨chosen, target, told⟩ := choose_eq leaves accepted
  have succeeds : (∃ log, choose environment (some settings) = .ok log) ↔
      settings.level = "off" ∨
        ∀ entry ∈ settings.modules.entries, Directive.isValid (spelled entry) := by
    rw [told]
    split
    · rename_i off
      exact iff_of_true ⟨_, rfl⟩ (.inl off)
    · rename_i on
      split
      · rename_i valid
        exact iff_of_true ⟨_, rfl⟩ (.inr valid)
      · rename_i invalid
        exact iff_of_false nofun (not_or.mpr ⟨on, invalid⟩)
  refine ⟨succeeds, fun error failed => ?_, fun plain => ?_⟩
  · rw [told] at failed
    split at failed
    · cases failed
    · split at failed
      · cases failed
      · cases failed
        rfl
  · rw [succeeds]
    exact or_congr_right
      (forall₂_congr fun entry member => isValid_spelled (plain entry member))

/-- An engine that is traced, and everything else as usual. -/
def traced : Settings := { Settings.standard with modules := ⟨[("rendition::engine", "trace")]⟩ }

theorem choose_of_validated_traced :
    LeavesLog ⟨.empty, none⟩ ∧ traced.validate = .ok () ∧
      ∃ log, choose ⟨.empty, none⟩ (some traced) = .ok log := by
  have leaves : LeavesLog ⟨.empty, none⟩ := fun name listed => rfl
  have accepted : traced.validate = .ok () := rfl
  have plain : Directive.IsPlain "rendition::engine".toList :=
    ⟨⟨'r', _, rfl, by decide⟩, by decide, by decide, by decide⟩
  have level : Directive.GivesLevel "trace".toList := .inl (by decide)
  obtain ⟨-, -, succeeds⟩ := choose_of_validated leaves accepted
  exact ⟨leaves, accepted, (succeeds (List.forall_mem_singleton.mpr plain)).mpr
    (.inr (List.forall_mem_singleton.mpr level))⟩

/-- `loud` is no level. -/
def loud : Settings := { Settings.standard with modules := ⟨[("rendition", "loud")]⟩ }

/-- Validation does not look at the levels of modules. -/
theorem not_choosable_of_validated :
    ¬ ∀ (environment : Environment) (settings : Settings), LeavesLog environment →
      settings.validate = .ok () → ∃ log, choose environment (some settings) = .ok log := by
  intro always
  have refused : choose ⟨.empty, none⟩ (some loud) = .error .directive := by decide +kernel
  obtain ⟨log, chosen⟩ := always ⟨.empty, none⟩ loud (fun name listed => rfl) rfl
  cases refused.symm.trans chosen

end Narration.Logging.Setup
