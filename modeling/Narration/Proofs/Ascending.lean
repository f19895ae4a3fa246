import Narration.Proofs.Loading
/-! The order in which documents give their sources. The main result: of two sources of one group, the
one whose format name is less is loaded first; every document that is read from a text is of this
kind. -/
namespace Narration

/-- Whether the names of a mode's document ascend, so that each source has a name of its own. -/
structure ModeDocument.Ascends (document : ModeDocument) : Prop where
  leads : document.leads.IsSorted
  trails : document.trails.IsSorted
  roles : document.roles.IsSorted
  formats : ∀ role ∈ document.roles.entries, role.2.IsSorted

/-- Whether all names of a document ascend. -/
structure Document.Ascends (document : Document) : Prop where
  modes : document.IsSorted
  formats : ∀ mode ∈ document.entries, mode.2.Ascends

/-- Of two sources of one group, the one that is loaded first has the lesser name. -/
def DocumentEntry.InOrder (earlier later : DocumentEntry) : Prop :=
  earlier.group = later.group → compare earlier.formatName later.formatName = .lt

def Listing.InOrder (earlier later : Listing) : Prop :=
  earlier.address.modeName = later.address.modeName →
    earlier.address.group = later.address.group →
    compare earlier.address.formatName later.address.formatName = .lt

section Order

theorem group_of_mem_ofSources {group : Group} {sources : Sources} {entry : DocumentEntry}
    (member : entry ∈ DocumentEntry.ofSources group sources) : entry.group = group := by
  obtain ⟨named, -, rfl⟩ := List.mem_map.mp member
  rfl

theorem pairwise_ofSources {sources : Sources} (sorted : sources.IsSorted) (group : Group) :
    (DocumentEntry.ofSources group sources).Pairwise DocumentEntry.InOrder := by
  rw [DocumentEntry.ofSources, List.pairwise_map]
  apply sorted.imp
  intro first second below same
  exact below

theorem inOrder_of_groups {one other : Group} {sources more : Sources} (apart : one ≠ other) :
    ∀ earlier ∈ DocumentEntry.ofSources one sources,
      ∀ later ∈ DocumentEntry.ofSources other more, earlier.InOrder later := by
  intro earlier first later second same
  rw [group_of_mem_ofSources first, group_of_mem_ofSources second] at same
  exact absurd same apart

theorem ModeDocument.Ascends.pairwise {document : ModeDocument} (ascends : document.Ascends) :
    document.entries.Pairwise DocumentEntry.InOrder := by
  have inRoles : (document.roles.entries.flatMap fun role =>
      DocumentEntry.ofSources (.role role.1) role.2).Pairwise DocumentEntry.InOrder := by
    rw [List.pairwise_flatMap]
    refine ⟨fun role member => pairwise_ofSources (ascends.formats role member) _, ?_⟩
    apply ascends.roles.imp
    intro first second below
    apply inOrder_of_groups
    intro same
    exact SortedMap.ne_of_compare_eq_lt below (Group.role.inj same)
  rw [ModeDocument.entries, List.pairwise_append, List.pairwise_append]
  refine ⟨⟨pairwise_ofSources ascends.leads _, pairwise_ofSources ascends.trails _,
    inOrder_of_groups Group.noConfusion⟩, inRoles, ?_⟩
  intro earlier first later second
  obtain ⟨role, -, inRole⟩ := List.mem_flatMap.mp second
  rcases List.mem_append.mp first with inLeads | inTrails
  · exact inOrder_of_groups Group.noConfusion earlier inLeads later inRole
  · exact inOrder_of_groups Group.noConfusion earlier inTrails later inRole

theorem Document.Ascends.pairwise {document : Document} (ascends : document.Ascends) :
    document.listings.Pairwise Listing.InOrder := by
  rw [Document.listings, List.pairwise_flatMap]
  constructor
  · intro mode member
    rw [ModeDocument.listings, List.pairwise_map]
    apply (ascends.formats mode member).pairwise.imp
    intro earlier later inOrder sameMode
    exact inOrder
  · apply ascends.modes.imp
    intro first second below earlier inFirst later inSecond sameMode
    obtain ⟨entry, -, rfl⟩ := List.mem_map.mp inFirst
    obtain ⟨other, -, rfl⟩ := List.mem_map.mp inSecond
    exact absurd sameMode (SortedMap.ne_of_compare_eq_lt below)

end Order

section Reading

theorem isSorted_singleton {κ α : Type} [Ord κ] (entry : κ × α) :
    (⟨[entry]⟩ : SortedMap κ α).IsSorted :=
  List.pairwise_singleton _ _

theorem exists_of_mapM {α β : Type} {read : α → Option β} {items : List α} {results : List β}
    (done : items.mapM read = some results) {result : β} (member : result ∈ results) :
    ∃ item ∈ items, read item = some result := by
  induction items generalizing results with
  | nil =>
      cases done
      cases member
  | cons item rest ih =>
      rw [List.mapM_cons] at done
      obtain ⟨first, here, done⟩ := Option.bind_eq_some_iff.mp done
      obtain ⟨others, later, done⟩ := Option.bind_eq_some_iff.mp done
      cases done
      rcases List.mem_cons.mp member with rfl | inOthers
      · exact ⟨item, List.mem_cons_self, here⟩
      · obtain ⟨other, present, found⟩ := ih later inOthers
        exact ⟨other, List.mem_cons_of_mem _ present, found⟩

namespace Toml.Value

theorem isSorted_of_sources? {value : Value} {sources : Sources}
    (read : value.sources? = some sources) : sources.IsSorted := by
  cases value with
  | table kind entries =>
      obtain ⟨listed, -, made⟩ := Option.bind_eq_some_iff.mp read
      cases made
      exact SortedMap.isSorted_ofList listed
  | datetime text =>
      cases read
      exact isSorted_singleton _
  | string => cases read
  | integer => cases read
  | float => cases read
  | boolean => cases read
  | array => cases read
  | tables => cases read

theorem isSorted_of_roles? {value : Value} {roles : SortedMap String Sources}
    (read : value.roles? = some roles) :
    roles.IsSorted ∧ ∀ role ∈ roles.entries, role.2.IsSorted := by
  cases value with
  | table kind entries =>
      obtain ⟨listed, each, made⟩ := Option.bind_eq_some_iff.mp read
      cases made
      refine ⟨SortedMap.isSorted_ofList listed, fun role member => ?_⟩
      obtain ⟨entry, -, found⟩ := exists_of_mapM each (SortedMap.mem_of_mem_ofList member)
      obtain ⟨sources, given, made⟩ := Option.bind_eq_some_iff.mp found
      cases made
      exact isSorted_of_sources? given
  | string => cases read
  | integer => cases read
  | float => cases read
  | boolean => cases read
  | datetime => cases read
  | array => cases read
  | tables => cases read

theorem holds_of_optionally {α : Type} (holds : α → Prop) {read : Value → Option α}
    {missing result : α} (otherwise : holds missing)
    (each : ∀ {value result}, read value = some result → holds result)
    {given : Option Value} (done : optionally read missing given = some result) : holds result := by
  cases given with
  | none =>
      cases done
      exact otherwise
  | some value => exact each done

theorem ascends_of_modeFields? {leads trails roles : Option Value} {document : ModeDocument}
    (read : modeFields? leads trails roles = some document) : document.Ascends := by
  obtain ⟨leadSources, leads, read⟩ := Option.bind_eq_some_iff.mp read
  obtain ⟨trailSources, trails, read⟩ := Option.bind_eq_some_iff.mp read
  obtain ⟨categories, roles, read⟩ := Option.bind_eq_some_iff.mp read
  cases read
  obtain ⟨inOrder, formats⟩ := holds_of_optionally
    (fun roles => roles.IsSorted ∧ ∀ role ∈ roles.entries, role.2.IsSorted)
    ⟨SortedMap.isSorted_empty, nofun⟩ isSorted_of_roles? roles
  exact {
    leads := holds_of_optionally SortedMap.IsSorted SortedMap.isSorted_empty isSorted_of_sources? leads
    trails :=
      holds_of_optionally SortedMap.IsSorted SortedMap.isSorted_empty isSorted_of_sources? trails
    roles := inOrder
    formats := formats }

theorem ascends_of_modeDocument? {value : Value} {document : ModeDocument}
    (read : value.modeDocument? = some document) : document.Ascends := by
  cases value with
  | table kind entries =>
      rw [modeDocument?] at read
      split at read
      · exact ascends_of_modeFields? read
      · cases read
  | array items => exact ascends_of_modeFields? read
  | tables items => exact ascends_of_modeFields? read
  | string => cases read
  | integer => cases read
  | float => cases read
  | boolean => cases read
  | datetime => cases read

end Toml.Value

theorem Document.ascends_of_ofToml? {entries : Toml.Entries} {document : Document}
    (read : ofToml? entries = some document) : document.Ascends := by
  obtain ⟨listed, each, made⟩ := Option.bind_eq_some_iff.mp read
  cases made
  refine ⟨SortedMap.isSorted_ofList listed, fun mode member => ?_⟩
  obtain ⟨entry, -, found⟩ := exists_of_mapM each (SortedMap.mem_of_mem_ofList member)
  obtain ⟨inMode, given, made⟩ := Option.bind_eq_some_iff.mp found
  cases made
  exact Toml.Value.ascends_of_modeDocument? given

/-- Every document that is read from a text ascends. -/
theorem Document.ascends_of_decoded {text : String} {document : Document}
    (read : (Toml.parse text).bind ofToml? = some document) : document.Ascends := by
  obtain ⟨entries, -, read⟩ := Option.bind_eq_some_iff.mp read
  exact ascends_of_ofToml? read

end Reading

end Narration
