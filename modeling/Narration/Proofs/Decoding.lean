import Narration.Json.Context
/-! Contexts that are written and read again. The main result: a context comes back as it was, unless it
asks for a custom format type that has no name or the name of a known type. -/
namespace Narration

namespace Json

theorem map_lookup_zip {α : Type} {names : List String} (distinct : names.Nodup) {values : List α}
    (length : values.length = names.length) :
    names.map (fun name => (names.zip values).lookup name) = values.map some := by
  induction names generalizing values with
  | nil => simpa using length
  | cons name names ih =>
      obtain ⟨value, values, rfl⟩ := List.exists_cons_of_length_eq_add_one length
      obtain ⟨new, distinct⟩ := List.nodup_cons.mp distinct
      have later : names.map (fun other => ((name :: names).zip (value :: values)).lookup other) =
          names.map fun other => (names.zip values).lookup other := by
        refine List.map_congr_left fun other member => ?_
        have apart : other ≠ name := fun same => new (same ▸ member)
        rw [List.zip_cons_cons, List.lookup_cons, beq_false_of_ne apart]
      rw [List.map_cons, later, ih distinct (Nat.succ.inj length), List.map_cons, List.zip_cons_cons,
        List.lookup_cons_self]

/-- A record that is written with all of its fields is read with all of them. -/
theorem record?_zip {names : List String} (distinct : names.Nodup) {values : List Json}
    (length : values.length = names.length) :
    (Json.object (names.zip values)).record? names = some (values.map some) := by
  rw [record?, map_lookup_zip distinct length]

/-- A value that may be missing is read as it was written, if it is not written as nothing. -/
theorem optional_ofOption {α : Type} {write : α → Json} {read : Json → Option α}
    (apparent : ∀ value, write value ≠ .null) (value : Option α) :
    optional read (some (ofOption write value)) =
      match value with
      | none => some none
      | some value => (read (write value)).map some := by
  cases value with
  | none => rfl
  | some value =>
      have shown := apparent value
      simp only [ofOption]
      unfold optional
      split
      · rename_i none
        cases none
      · rename_i null
        exact absurd (Option.some.inj null) shown
      · rename_i same
        rw [Option.some.inj same]

theorem exists_of_optional {α : Type} {read : Json → Option α} {field : Option Json} {value : α}
    (found : optional read field = some (some value)) : ∃ json, read json = some value := by
  unfold optional at found
  split at found
  · cases found
  · cases found
  · obtain ⟨_, same, ⟨⟩⟩ := Option.map_eq_some_iff.mp found
    exact ⟨_, same⟩

end Json

namespace FormatType

/-- The names under which the known types are read. -/
def spellings : List (String × FormatType) :=
  [("focused", .focused), ("unfocused", .unfocused), ("basicWhereAmI", .basicWhereAmI),
    ("basic_where_am_i", .basicWhereAmI), ("detailedWhereAmI", .detailedWhereAmI),
    ("detailed_where_am_i", .detailedWhereAmI)]

variable {name : String} {known : FormatType}

theorem ofName?_of_spelling (spelled : (name, known) ∈ spellings) : ofName? name = some known := by
  have each : ∀ spelling ∈ spellings, ofName? spelling.1 = some spelling.2 := by decide
  exact each _ spelled

theorem ofName?_of_custom (named : name ≠ "") (custom : name ∉ spellings.map Prod.fst) :
    ofName? name = some (.custom name) := by
  simp only [spellings, List.map_cons, List.map_nil, List.mem_cons, List.not_mem_nil, not_or] at custom
  simp [ofName?, named, custom]

theorem isCustom_of_spelling (spelled : (name, known) ∈ spellings) : known.isCustom = false := by
  have each : ∀ spelling ∈ spellings, spelling.2.isCustom = false := by decide
  exact each _ spelled

/-- Whether a type is read again by its name: it is known, or its name is none of a known type. -/
def IsReadable : FormatType → Prop
  | .custom name => name ≠ "" ∧ name ∉ spellings.map Prod.fst
  | _ => True

theorem ofName?_name_eq_some_iff {formatType : FormatType} :
    ofName? formatType.name = some formatType ↔ formatType.IsReadable := by
  cases formatType with
  | custom name =>
      refine ⟨fun same => ⟨fun unnamed => ?_, fun spelled => ?_⟩, fun free => ?_⟩
      · subst unnamed
        cases same
      · obtain ⟨⟨_, known⟩, listed, rfl⟩ := List.mem_map.mp spelled
        have custom := isCustom_of_spelling listed
        rw [Option.some.inj ((ofName?_of_spelling listed).symm.trans same)] at custom
        cases custom
      · exact ofName?_of_custom free.1 free.2
  | focused | unfocused | basicWhereAmI | detailedWhereAmI => exact iff_of_true (by decide) trivial

theorem isReadable_of_ofName? {formatType : FormatType} (read : ofName? name = some formatType) :
    formatType.IsReadable := by
  by_cases unnamed : name = ""
  · subst unnamed
    cases read
  · by_cases spelled : name ∈ spellings.map Prod.fst
    · obtain ⟨⟨_, known⟩, listed, rfl⟩ := List.mem_map.mp spelled
      rw [ofName?_of_spelling listed] at read
      obtain rfl := Option.some.inj read
      have custom := isCustom_of_spelling listed
      cases known with
      | custom other => cases custom
      | focused | unfocused | basicWhereAmI | detailedWhereAmI => trivial
    · rw [ofName?_of_custom unnamed spelled] at read
      obtain rfl := Option.some.inj read
      exact ⟨unnamed, spelled⟩

end FormatType

namespace Mode

theorem ofJson?_toJson (mode : Mode) : Mode.ofJson? mode.toJson = some mode := by
  cases mode <;> decide

end Mode

namespace Json

theorem uint64?_nat (value : UInt64) : (Json.nat value.toNat).uint64? = some value := by
  have bound : value.toNat < UInt64.size := value.toNat_lt
  have read : (Json.nat value.toNat).natBelow? UInt64.size = some value.toNat := if_pos bound
  rw [uint64?, read, Option.map_some, UInt64.ofNat_toNat]

end Json

namespace Context

/-- A context is read as it was written, with the format type that its name stands for. -/
theorem ofJson?_toJson (context : Context) :
    ofJson? context.toJson =
      match context.formatType with
      | none => some context
      | some formatType =>
        (FormatType.ofName? formatType.name).map fun read => { context with formatType := some read } := by
  have written : context.toJson.record? fieldNames = some _ := Json.record?_zip (by decide) rfl
  have roles : Json.optional Category.ofJson? (some (.ofOption Category.toJson context.role)) =
      some context.role := by
    rw [Json.optional_ofOption (by nofun)]
    cases context.role <;> rfl
  have modes : Json.optional Mode.ofJson? (some (.ofOption Mode.toJson context.mode)) =
      some context.mode := by
    rw [Json.optional_ofOption (by nofun)]
    cases context.mode with
    | none => rfl
    | some mode => simp only [Mode.ofJson?_toJson, Option.map_some]
  have offsets (offset : Option UInt64) : Json.optional Json.uint64?
      (some (.ofOption (fun value : UInt64 => .nat value.toNat) offset)) = some offset := by
    rw [Json.optional_ofOption (by nofun)]
    cases offset with
    | none => rfl
    | some offset => simp only [Json.uint64?_nat, Option.map_some]
  have strings : Json.optional Json.string? (some (.ofOption .string context.string)) =
      some context.string := by
    rw [Json.optional_ofOption (by nofun)]
    cases context.string <;> rfl
  have formatTypes (formatType : FormatType) : formatType.toJson ≠ .null := by nofun
  have flags (standard value : Bool) :
      Json.defaulted standard Json.bool? (some (.bool value)) = some value := rfl
  rw [ofJson?, written]
  simp only [List.map_cons, List.map_nil, Option.bind_eq_bind, Option.bind_some, roles, modes, offsets,
    strings, Json.optional_ofOption formatTypes, flags]
  obtain ⟨_, _, formatType, _, _, _, _, _, _, _⟩ := context
  cases formatType with
  | none => rfl
  | some formatType =>
      have read : FormatType.ofJson? formatType.toJson = FormatType.ofName? formatType.name := rfl
      simp only [read]
      cases FormatType.ofName? formatType.name <;> rfl

/-- A context that has been read asks for a format type that is read again. -/
theorem isReadable_of_ofJson? {json : Json} {context : Context} {formatType : FormatType}
    (read : ofJson? json = some context) (asked : context.formatType = some formatType) :
    formatType.IsReadable := by
  obtain ⟨_, _, built⟩ := Option.bind_eq_some_iff.mp read
  split at built
  · simp only [Option.bind_eq_bind, Option.bind_eq_some_iff] at built
    obtain ⟨_, _, _, _, _, found, _, _, _, _, _, _, _, _, _, _, _, _, _, _, ⟨⟩⟩ := built
    obtain ⟨_, typed⟩ := Json.exists_of_optional (found.trans (congrArg some asked))
    obtain ⟨_, _, named⟩ := Option.bind_eq_some_iff.mp typed
    exact FormatType.isReadable_of_ofName? named
  · cases built

theorem comes_back_iff {context : Context} :
    ofJson? context.toJson = some context ↔
      ∀ formatType, context.formatType = some formatType → formatType.IsReadable := by
  rw [ofJson?_toJson]
  cases asked : context.formatType with
  | none => exact iff_of_true rfl nofun
  | some formatType =>
      have same (read : FormatType) :
          { context with formatType := some read } = context ↔ read = formatType := by
        rw [Context.mk.injEq]
        simp [asked]
      simp only [Option.map_eq_some_iff, same, exists_eq_right, Option.some.injEq, forall_eq',
        FormatType.ofName?_name_eq_some_iff]

/-- A context comes back as it was, unless it asks for a custom format type that has no name, which is not
read at all, or the name of a known type, which is read as that type. A context that has been read before
comes back as it was. -/
theorem comes_back (context : Context) :
    (ofJson? context.toJson = some context ↔
      ∀ name, context.formatType = some (.custom name) →
        name ≠ "" ∧ name ∉ FormatType.spellings.map Prod.fst) ∧
    (context.formatType = some (.custom "") → ofJson? context.toJson = none) ∧
    (∀ name known, (name, known) ∈ FormatType.spellings → context.formatType = some (.custom name) →
      ofJson? context.toJson = some { context with formatType := some known }) ∧
    ∀ json, ofJson? json = some context → ofJson? context.toJson = some context := by
  refine ⟨?_, fun unnamed => ?_, fun name known spelled asked => ?_, fun json read => ?_⟩
  · rw [comes_back_iff]
    refine ⟨fun readable name => readable (.custom name), fun readable formatType asked => ?_⟩
    cases formatType with
    | custom name => exact readable name asked
    | focused | unfocused | basicWhereAmI | detailedWhereAmI => trivial
  · rw [ofJson?_toJson, unnamed]
    rfl
  · rw [ofJson?_toJson, asked]
    have named : (FormatType.custom name).name = name := rfl
    simp only [named, FormatType.ofName?_of_spelling spelled, Option.map_some]
  · exact comes_back_iff.mpr fun _ => isReadable_of_ofJson? read

section Example

/-- A custom format type with the other spelling of a known one comes back as the known one. -/
theorem comes_back_basic_where_am_i :
    ofJson? (toJson { standard with formatType := some (.custom "basic_where_am_i") }) =
      some { standard with formatType := some .basicWhereAmI } :=
  (comes_back _).2.2.1 "basic_where_am_i" .basicWhereAmI (by decide) rfl

end Example

end Context

end Narration
