import Narration.Proofs.Action
import Narration.Proofs.LastValue
import Narration.Registry
/-! Registration, which keeps what came first. The main result: a manifest is accepted exactly if its
names are fit and differ, and then each name has the field that was offered under it first, whatever is
registered later on. -/
namespace Narration

instance : Std.TransOrd QuantityName := inferInstanceAs (Std.TransCmp (compareOn QuantityName.text))

/-- Whether registration takes a name if nothing has it yet. -/
def QuantityName.IsFit (name : QuantityName) : Prop :=
  name.text ≠ "" ∧ name.text ≠ "obj" ∧ name.text ≠ "role"

instance : DecidablePred QuantityName.IsFit := fun name =>
  inferInstanceAs (Decidable (name.text ≠ "" ∧ name.text ≠ "obj" ∧ name.text ≠ "role"))

theorem QuantityName.isEmpty_iff {name : QuantityName} : name.isEmpty ↔ name.text = "" := by
  simp [isEmpty]

theorem QuantityName.isReserved_iff {name : QuantityName} :
    name.isReserved ↔ name.text = "obj" ∨ name.text = "role" := by
  simp [isReserved]

theorem QuantityName.isFit_iff {name : QuantityName} :
    name.IsFit ↔ name.isEmpty = false ∧ name.isReserved = false := by
  simp [IsFit, isEmpty, isReserved]

/-- A field that is offered under a name. -/
structure Offer (π : Type) where
  name : QuantityName
  field : Field π

variable {π : Type}

namespace Offer

/-- What an entry of a manifest offers. -/
def ofField (field : Field π) : Offer π := ⟨.ofImplementation field.implementation, field⟩

/-- What a call offers, whose name is that of the implementation as well. -/
def ofCall (call : String × π) : Offer π := ⟨.normalize call.1, ⟨call.1, call.2⟩⟩

/-- Registers an offer in place. Nothing is stored before its name has passed all checks. -/
def enter (offer : Offer π) : EStateM RegistryError (Registry π) Unit := do
  if offer.name.isEmpty then throw (.emptyName offer.field.implementation)
  if offer.name.isReserved then throw (.reserved offer.name)
  let registry ← get
  match registry.fields.get? offer.name with
  | some first => throw (.duplicate offer.name first.implementation offer.field.implementation)
  | none => set (⟨registry.fields.insert offer.name offer.field⟩ : Registry π)

/-- In place, an offer is registered exactly as it is in a new registry. -/
theorem enter_eq (offer : Offer π) (registry : Registry π) :
    offer.enter registry =
      match registry.add offer.name offer.field with
      | .ok next => .ok () next
      | .error refusal => .error refusal registry := by
  rw [enter, Registry.add]
  cases offer.name.isEmpty with
  | true => rfl
  | false =>
      cases offer.name.isReserved with
      | true => rfl
      | false =>
          have asked : (get : EStateM RegistryError (Registry π) (Registry π)) registry =
            .ok registry registry := rfl
          simp only [Bool.false_eq_true, if_false, bind_of_ok asked]
          cases registry.fields.get? offer.name <;> rfl

theorem register_eq (registry : Registry π) (name : String) (provider : π) :
    registry.register name provider =
      registry.add (ofCall (name, provider)).name (ofCall (name, provider)).field :=
  rfl

/-- The field that a name has after offers made in turn: the first one under it, if the name is fit. -/
def held? (offers : List (Offer π)) (name : QuantityName) : Option (Field π) :=
  if name.IsFit then (offers.find? fun offer => offer.name = name).map field else none

/-- Why an offer is refused after earlier ones. -/
inductive Refuses (earlier : List (Offer π)) (offer : Offer π) : RegistryError → Prop
  | emptyName (empty : offer.name.text = "") :
      Refuses earlier offer (.emptyName offer.field.implementation)
  | reserved (reserved : offer.name.text = "obj" ∨ offer.name.text = "role") :
      Refuses earlier offer (.reserved offer.name)
  | duplicate {first : Field π} (taken : held? earlier offer.name = some first) :
      Refuses earlier offer
        (.duplicate offer.name first.implementation offer.field.implementation)

section Holding

variable {offers more : List (Offer π)} {offer : Offer π} {name : QuantityName} {field : Field π}

theorem held?_append :
    held? (offers ++ more) name = (held? offers name).or (held? more name) := by
  by_cases fit : name.IsFit
  · rw [held?, held?, held?, if_pos fit, if_pos fit, if_pos fit, List.find?_append]
    cases offers.find? fun offer => offer.name = name <;> rfl
  · rw [held?, held?, held?, if_neg fit, if_neg fit, if_neg fit]
    rfl

theorem held?_singleton :
    held? [offer] name = if name.IsFit ∧ offer.name = name then some offer.field else none := by
  by_cases fit : name.IsFit <;> by_cases same : offer.name = name <;> simp [held?, fit, same]

theorem isSome_held?_iff : (held? offers name).isSome ↔ name.IsFit ∧ name ∈ offers.map Offer.name := by
  by_cases fit : name.IsFit
  · rw [held?, if_pos fit, Option.isSome_map, List.find?_isSome]
    simp [fit]
  · rw [held?, if_neg fit]
    simp [fit]

theorem held?_eq_none_iff (fit : name.IsFit) :
    held? offers name = none ↔ name ∉ offers.map Offer.name := by
  rw [← Option.not_isSome_iff_eq_none, isSome_held?_iff]
  simp only [fit, true_and]

theorem mem_of_held? (held : held? offers name = some field) : ⟨name, field⟩ ∈ offers := by
  rw [held?] at held
  split at held
  · obtain ⟨offer, found, rfl⟩ := Option.map_eq_some_iff.mp held
    obtain rfl : offer.name = name := by simpa using List.find?_some found
    exact List.mem_of_find?_eq_some found
  · cases held

/-- Where all names are fit and differ, each has the field that is offered under it. -/
theorem held?_eq_some_iff (fits : ∀ name ∈ offers.map Offer.name, name.IsFit)
    (distinct : (offers.map Offer.name).Nodup) :
    held? offers name = some field ↔ ⟨name, field⟩ ∈ offers := by
  constructor
  · exact mem_of_held?
  · intro member
    have named : name ∈ offers.map Offer.name := List.mem_map.mpr ⟨_, member, rfl⟩
    obtain ⟨other, held⟩ :=
      Option.isSome_iff_exists.mp (isSome_held?_iff.mpr ⟨fits name named, named⟩)
    cases List.inj_on_of_nodup_map distinct (mem_of_held? held) member rfl
    exact held

end Holding

end Offer

namespace Registry

open Offer

/-- Whether a registry has the first field for each fit name and nothing else. -/
structure HasFirst (offers : List (Offer π)) (registry : Registry π) : Prop where
  get? : ∀ name, registry.fields.get? name = held? offers name
  sorted : registry.fields.IsSorted

namespace HasFirst

variable {offers : List (Offer π)} {registry next : Registry π} {offer : Offer π}
  {refusal : RegistryError}

theorem add_eq_ok_iff (hasFirst : registry.HasFirst offers) (offer : Offer π) :
    registry.add offer.name offer.field = .ok next ↔
      offer.name.IsFit ∧ held? offers offer.name = none ∧
        next = ⟨registry.fields.insert offer.name offer.field⟩ := by
  rw [add, hasFirst.get?, QuantityName.isFit_iff]
  cases offer.name.isEmpty with
  | true => simp
  | false =>
      cases offer.name.isReserved with
      | true => simp
      | false => cases held? offers offer.name <;> simp [eq_comm]

theorem add_eq_error_iff (hasFirst : registry.HasFirst offers) (offer : Offer π) :
    registry.add offer.name offer.field = .error refusal ↔ Refuses offers offer refusal := by
  rw [add, hasFirst.get?]
  constructor
  · intro refused
    split at refused
    · rename_i empty
      cases refused
      exact .emptyName (QuantityName.isEmpty_iff.mp empty)
    · split at refused
      · rename_i reserved
        cases refused
        exact .reserved (QuantityName.isReserved_iff.mp reserved)
      · split at refused
        · rename_i taken
          cases refused
          exact .duplicate taken
        · cases refused
  · intro refuses
    cases refuses with
    | emptyName empty => rw [if_pos (QuantityName.isEmpty_iff.mpr empty)]
    | reserved reserved =>
        have nonempty : ¬ offer.name.isEmpty := by
          rw [QuantityName.isEmpty_iff]
          rcases reserved with same | same <;> simp [same]
        rw [if_neg nonempty, if_pos (QuantityName.isReserved_iff.mpr reserved)]
    | duplicate taken =>
        obtain ⟨fit, -⟩ := isSome_held?_iff.mp (Option.isSome_of_eq_some taken)
        obtain ⟨nonempty, free⟩ := QuantityName.isFit_iff.mp fit
        rw [nonempty, free, taken]
        rfl

theorem insert (hasFirst : registry.HasFirst offers) (fit : offer.name.IsFit)
    (fresh : held? offers offer.name = none) :
    HasFirst (offers ++ [offer]) ⟨registry.fields.insert offer.name offer.field⟩ where
  sorted := hasFirst.sorted.insert _ _
  get? name := by
    rw [SortedMap.get?_insert, hasFirst.get?, held?_append, held?_singleton]
    by_cases same : offer.name = name
    · subst same
      simp [fresh, fit]
    · simp [same]

theorem append_of_refuses (hasFirst : registry.HasFirst offers)
    (refuses : Refuses offers offer refusal) : registry.HasFirst (offers ++ [offer]) where
  sorted := hasFirst.sorted
  get? name := by
    rw [hasFirst.get?, held?_append, held?_singleton]
    split_ifs with taken
    · obtain ⟨fit, rfl⟩ := taken
      cases refuses with
      | emptyName empty => exact absurd empty fit.1
      | reserved reserved => exact absurd reserved (not_or.mpr fit.2)
      | duplicate taken => rw [taken, Option.some_or]
    · rw [Option.or_none]

/-- Whether it is taken or refused, an offer leaves the first fields in place. -/
theorem enter (hasFirst : registry.HasFirst offers) (offer : Offer π) :
    (finalState (offer.enter registry)).HasFirst (offers ++ [offer]) := by
  rw [enter_eq]
  cases added : registry.add offer.name offer.field with
  | ok next =>
      obtain ⟨fit, fresh, rfl⟩ := (hasFirst.add_eq_ok_iff offer).mp added
      exact hasFirst.insert fit fresh
  | error refusal => exact hasFirst.append_of_refuses ((hasFirst.add_eq_error_iff offer).mp added)

end HasFirst

/-- The registry that calls leave, those that are refused included. -/
def afterCalls (registry : Registry π) (calls : List (String × π)) : Registry π :=
  calls.foldl (fun registry call => finalState ((Offer.ofCall call).enter registry)) registry

/-- The names that a manifest asks for. -/
def asked (manifest : List (Field π)) : List QuantityName :=
  manifest.map fun field => .ofImplementation field.implementation

/-- What a manifest and the calls after it offer. -/
def offered (manifest : List (Field π)) (calls : List (String × π)) : List (Offer π) :=
  manifest.map Offer.ofField ++ calls.map Offer.ofCall

theorem offered_append (manifest : List (Field π)) (calls more : List (String × π)) :
    offered manifest (calls ++ more) = offered manifest calls ++ more.map Offer.ofCall := by
  rw [offered, offered, List.map_append, List.append_assoc]

section Runs

variable {offers : List (Offer π)} {registry next : Registry π} {manifest : List (Field π)}
  {field : Field π} {refusal : RegistryError}

theorem hasFirst_empty : (empty : Registry π).HasFirst [] where
  sorted := SortedMap.isSorted_empty
  get? name := by
    rw [held?]
    split <;> rfl

theorem HasFirst.afterCalls (hasFirst : registry.HasFirst offers) (calls : List (String × π)) :
    (afterCalls registry calls).HasFirst (offers ++ calls.map Offer.ofCall) := by
  induction calls using List.reverseRecOn with
  | nil => simpa [Registry.afterCalls] using hasFirst
  | append_singleton calls call ih =>
      rw [Registry.afterCalls, List.foldl_append, List.map_append, ← List.append_assoc]
      exact ih.enter (Offer.ofCall call)

theorem ofManifest_append_singleton (manifest : List (Field π)) (field : Field π) :
    ofManifest (manifest ++ [field]) = (ofManifest manifest).bind fun registry =>
      registry.add (Offer.ofField field).name (Offer.ofField field).field := by
  rw [ofManifest, ofManifest, List.foldlM_append]
  simp only [List.foldlM_cons, List.foldlM_nil, bind_pure]
  rfl

theorem ofManifest_append_eq_ok_iff : ofManifest (manifest ++ [field]) = .ok next ↔
    ∃ registry, ofManifest manifest = .ok registry ∧
      registry.add (Offer.ofField field).name (Offer.ofField field).field = .ok next := by
  rw [ofManifest_append_singleton]
  cases ofManifest manifest <;> simp [Except.bind]

theorem ofManifest_append_eq_error_iff : ofManifest (manifest ++ [field]) = .error refusal ↔
    ofManifest manifest = .error refusal ∨ ∃ registry, ofManifest manifest = .ok registry ∧
      registry.add (Offer.ofField field).name (Offer.ofField field).field = .error refusal := by
  rw [ofManifest_append_singleton]
  cases ofManifest manifest <;> simp [Except.bind]

theorem hasFirst_ofManifest (made : ofManifest manifest = .ok registry) :
    registry.HasFirst (manifest.map Offer.ofField) := by
  induction manifest using List.reverseRecOn generalizing registry with
  | nil =>
      cases made
      exact hasFirst_empty
  | append_singleton manifest field ih =>
      obtain ⟨before, accepted, added⟩ := ofManifest_append_eq_ok_iff.mp made
      obtain ⟨fit, fresh, rfl⟩ := ((ih accepted).add_eq_ok_iff _).mp added
      rw [List.map_append]
      exact (ih accepted).insert fit fresh

theorem map_name_ofField (manifest : List (Field π)) :
    (manifest.map Offer.ofField).map Offer.name = asked manifest := by
  rw [List.map_map]
  rfl

/-- A manifest is accepted exactly if its names are fit and differ from each other. -/
theorem exists_ofManifest_iff : (∃ registry, ofManifest manifest = .ok registry) ↔
    (∀ name ∈ asked manifest, name.IsFit) ∧ (asked manifest).Nodup := by
  induction manifest using List.reverseRecOn with
  | nil => exact iff_of_true ⟨empty, rfl⟩ ⟨nofun, List.nodup_nil⟩
  | append_singleton manifest field ih =>
      have names : asked (manifest ++ [field]) = asked manifest ++ [(Offer.ofField field).name] :=
        List.map_append
      rw [names, List.forall_mem_append, List.forall_mem_singleton, List.nodup_middle,
        List.append_nil, List.nodup_cons]
      constructor
      · rintro ⟨next, made⟩
        obtain ⟨registry, accepted, added⟩ := ofManifest_append_eq_ok_iff.mp made
        obtain ⟨fit, fresh, -⟩ := ((hasFirst_ofManifest accepted).add_eq_ok_iff _).mp added
        obtain ⟨fits, distinct⟩ := ih.mp ⟨registry, accepted⟩
        rw [held?_eq_none_iff fit, map_name_ofField] at fresh
        exact ⟨⟨fits, fit⟩, fresh, distinct⟩
      · rintro ⟨⟨fits, fit⟩, new, distinct⟩
        obtain ⟨registry, accepted⟩ := ih.mpr ⟨fits, distinct⟩
        rw [← map_name_ofField, ← held?_eq_none_iff fit] at new
        have added := ((hasFirst_ofManifest accepted).add_eq_ok_iff (Offer.ofField field)).mpr
          ⟨fit, new, rfl⟩
        exact ⟨_, ofManifest_append_eq_ok_iff.mpr ⟨registry, accepted, added⟩⟩

/-- A manifest is refused for its first entry that is refused after those before it. -/
theorem ofManifest_eq_error_iff : ofManifest manifest = .error refusal ↔
    ∃ before field after, manifest = before ++ field :: after ∧
      (∃ registry, ofManifest before = .ok registry) ∧
      Refuses (before.map Offer.ofField) (Offer.ofField field) refusal := by
  constructor
  · intro refused
    induction manifest using List.reverseRecOn with
    | nil => cases refused
    | append_singleton manifest field ih =>
        rcases ofManifest_append_eq_error_iff.mp refused with earlier | ⟨registry, made, refused⟩
        · obtain ⟨before, first, after, rfl, accepted, refuses⟩ := ih earlier
          exact ⟨before, first, after ++ [field], by simp, accepted, refuses⟩
        · exact ⟨manifest, field, [], rfl, ⟨registry, made⟩,
            ((hasFirst_ofManifest made).add_eq_error_iff _).mp refused⟩
  · rintro ⟨before, field, after, rfl, ⟨registry, made⟩, refuses⟩
    rw [List.append_cons]
    induction after using List.reverseRecOn with
    | nil =>
        rw [List.append_nil]
        exact ofManifest_append_eq_error_iff.mpr
          (.inr ⟨registry, made, ((hasFirst_ofManifest made).add_eq_error_iff _).mpr refuses⟩)
    | append_singleton after last ih =>
        rw [← List.append_assoc]
        exact ofManifest_append_eq_error_iff.mpr (.inl ih)

end Runs

/-- The quantities that a manifest names, with what computes them. -/
def quantities (manifest : List (Field π)) : List (QuantityName × π) :=
  manifest.map fun field => (.ofImplementation field.implementation, field.provider)

/-- Registration provides exactly the quantities of the manifest. -/
theorem provider?_ofManifest {registry : Registry π} {manifest : List (Field π)}
    (made : ofManifest manifest = .ok registry) {name : QuantityName} {provider : π} :
    registry.provider? name = some provider ↔ (name, provider) ∈ quantities manifest := by
  obtain ⟨fits, distinct⟩ := exists_ofManifest_iff.mp ⟨registry, made⟩
  rw [← map_name_ofField] at fits distinct
  rw [provider?, (hasFirst_ofManifest made).get?, Option.map_eq_some_iff]
  simp [held?_eq_some_iff fits distinct, quantities, Offer.ofField, and_assoc]

/-- Whether all lookups and the list of names are those of the first offers under fit names. -/
structure FirstCome (offers : List (Offer π)) (registry : Registry π) : Prop where
  provider? : ∀ name, registry.provider? name = (held? offers name).map Field.provider
  implementation? : ∀ name,
    registry.implementation? name = (held? offers name).map Field.implementation
  contains : ∀ name, registry.contains name ↔ name.IsFit ∧ name ∈ offers.map Offer.name
  listed : ∀ name, name ∈ registry.names ↔ name.IsFit ∧ name ∈ offers.map Offer.name
  ascending : registry.names.Pairwise fun first second => compare first second = .lt

/-- Whether the next call is answered as it should be after offers made in turn: it is taken if its name
is fit and free, and otherwise it is refused and changes nothing. -/
structure Answers (offers : List (Offer π)) (registry : Registry π) : Prop where
  takes : ∀ name provider, (∃ next, registry.register name provider = .ok next) ↔
    (QuantityName.normalize name).IsFit ∧ registry.contains (.normalize name) = false
  refuses : ∀ name provider refusal, registry.register name provider = .error refusal ↔
    Refuses offers (Offer.ofCall (name, provider)) refusal
  unchanged : ∀ name provider refusal, registry.register name provider = .error refusal →
    (Offer.ofCall (name, provider)).enter registry = .error refusal registry

section Answers

variable {offers : List (Offer π)} {registry : Registry π}

theorem HasFirst.firstCome (hasFirst : registry.HasFirst offers) : registry.FirstCome offers where
  provider? name := congrArg (Option.map Field.provider) (hasFirst.get? name)
  implementation? name := congrArg (Option.map Field.implementation) (hasFirst.get? name)
  contains name := by
    rw [contains, SortedMap.contains, hasFirst.get?, isSome_held?_iff]
  listed name := by
    rw [names, SortedMap.mem_keys_iff, hasFirst.get?, isSome_held?_iff]
  ascending := by
    rw [names, SortedMap.keys, List.pairwise_map]
    exact hasFirst.sorted

theorem HasFirst.answers (hasFirst : registry.HasFirst offers) : registry.Answers offers where
  takes name provider := by
    rw [contains, SortedMap.contains, hasFirst.get?, Option.isSome_eq_false_iff,
      Option.isNone_iff_eq_none]
    constructor
    · rintro ⟨next, added⟩
      obtain ⟨fit, fresh, -⟩ := (hasFirst.add_eq_ok_iff (Offer.ofCall (name, provider))).mp added
      exact ⟨fit, fresh⟩
    · rintro ⟨fit, fresh⟩
      exact ⟨_, (hasFirst.add_eq_ok_iff (Offer.ofCall (name, provider))).mpr ⟨fit, fresh, rfl⟩⟩
  refuses name provider refusal := hasFirst.add_eq_error_iff (Offer.ofCall (name, provider))
  unchanged name provider refusal refused := by
    rw [register_eq] at refused
    rw [enter_eq, refused]

/-- A manifest is accepted if its names are fit and differ, and refused for its first entry that is not
so. After that, and after any calls, each fit name has the field that was offered under it first, and
keeps it; the next call is taken if its name is fit and free, and otherwise changes nothing. -/
theorem first_come_first_kept (manifest : List (Field π)) :
    ((∃ registry, ofManifest manifest = .ok registry) ↔
      (∀ name ∈ asked manifest, name.IsFit) ∧ (asked manifest).Nodup) ∧
    (∀ refusal, ofManifest manifest = .error refusal ↔
      ∃ before field after, manifest = before ++ field :: after ∧
        (∃ registry, ofManifest before = .ok registry) ∧
        Refuses (before.map Offer.ofField) (Offer.ofField field) refusal) ∧
    ∀ registry, ofManifest manifest = .ok registry → ∀ calls,
      (registry.afterCalls calls).FirstCome (offered manifest calls) ∧
        (registry.afterCalls calls).Answers (offered manifest calls) ∧
        ∀ name field, (registry.afterCalls calls).fields.get? name = some field →
          ∀ more, (registry.afterCalls (calls ++ more)).fields.get? name = some field := by
  refine ⟨exists_ofManifest_iff, fun _ => ofManifest_eq_error_iff, fun registry made calls => ?_⟩
  have after (calls : List (String × π)) :
      (registry.afterCalls calls).HasFirst (offered manifest calls) :=
    (hasFirst_ofManifest made).afterCalls calls
  refine ⟨(after calls).firstCome, (after calls).answers, fun name field given more => ?_⟩
  rw [(after calls).get?] at given
  rw [(after (calls ++ more)).get?, offered_append, held?_append, given, Option.some_or]

/-- Fields whose providers are numbers, under names that differ. -/
def twoFields : List (Field Nat) := [⟨"generate_label_and_name", 1⟩, ⟨"_generateRoleName", 2⟩]

theorem first_come_first_kept_twoFields :
    ∃ registry, ofManifest twoFields = .ok registry ∧
      (registry.afterCalls [("LabelAndName", 3), ("role", 4)]).provider? ⟨"labelAndName"⟩ = some 1 ∧
      (registry.afterCalls [("LabelAndName", 3), ("role", 4)]).register "RoleName" 5 =
        .error (.duplicate ⟨"roleName"⟩ "_generateRoleName" "RoleName") := by
  obtain ⟨accepts, -, after⟩ := first_come_first_kept twoFields
  have names : asked twoFields = [⟨"labelAndName"⟩, ⟨"roleName"⟩] := by decide
  rw [names] at accepts
  obtain ⟨registry, made⟩ := accepts.mpr ⟨by decide, by decide⟩
  obtain ⟨firstCome, answers, -⟩ := after registry made [("LabelAndName", 3), ("role", 4)]
  refine ⟨registry, made, ?_, (answers.refuses _ _ _).mpr ?_⟩
  · rw [firstCome.provider?]
    decide
  · have name : (Offer.ofCall ("RoleName", 5)).name = ⟨"roleName"⟩ := by decide
    have holds : (held? (offered twoFields [("LabelAndName", 3), ("role", 4)])
        (Offer.ofCall ("RoleName", 5)).name).map Field.implementation =
        some "_generateRoleName" := by decide
    obtain ⟨first, taken, implementation⟩ := Option.map_eq_some_iff.mp holds
    rw [← name, ← implementation]
    exact .duplicate taken

end Answers

end Registry

end Narration
