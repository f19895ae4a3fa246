import Narration.Proofs.Loading
/-! Documents that differ in one source. The main result: both are refused for the same reason, or both
are loaded, and then the tables differ at most at the site of that source and in what is kept aside
of it. -/
namespace Narration

/-- Lists that are the same but for one place, which has `one` here and `other` there. -/
def Swapped {α : Type} (one other : α) (list changed : List α) : Prop :=
  ∃ before after, list = before ++ one :: after ∧ changed = before ++ other :: after

namespace Swapped

variable {α β : Type} {one other : α} {list changed : List α}

theorem append_left (swapped : Swapped one other list changed) (earlier : List α) :
    Swapped one other (earlier ++ list) (earlier ++ changed) := by
  obtain ⟨before, after, rfl, rfl⟩ := swapped
  exact ⟨earlier ++ before, after, (List.append_assoc ..).symm, (List.append_assoc ..).symm⟩

theorem append_right (swapped : Swapped one other list changed) (later : List α) :
    Swapped one other (list ++ later) (changed ++ later) := by
  obtain ⟨before, after, rfl, rfl⟩ := swapped
  exact ⟨before, after ++ later, List.append_assoc .., List.append_assoc ..⟩

theorem map (swapped : Swapped one other list changed) (f : α → β) :
    Swapped (f one) (f other) (list.map f) (changed.map f) := by
  obtain ⟨before, after, rfl, rfl⟩ := swapped
  exact ⟨before.map f, after.map f, List.map_append, List.map_append⟩

theorem flatMap (swapped : Swapped one other list changed) {f : α → List β} {a b : β}
    (inner : Swapped a b (f one) (f other)) : Swapped a b (list.flatMap f) (changed.flatMap f) := by
  obtain ⟨before, after, rfl, rfl⟩ := swapped
  rw [List.flatMap_append, List.flatMap_append, List.flatMap_cons, List.flatMap_cons]
  exact (inner.append_right _).append_left _

theorem findSome? (swapped : Swapped one other list changed) {f : α → Option β}
    (same : f one = f other) : list.findSome? f = changed.findSome? f := by
  obtain ⟨before, after, rfl, rfl⟩ := swapped
  rw [List.findSome?_append, List.findSome?_append, List.findSome?_cons, List.findSome?_cons, same]

theorem filterMap (swapped : Swapped one other list changed) (f : α → Option β) :
    ∃ before after, list.filterMap f = before ++ (f one).toList ++ after ∧
      changed.filterMap f = before ++ (f other).toList ++ after := by
  obtain ⟨before, after, rfl, rfl⟩ := swapped
  refine ⟨before.filterMap f, after.filterMap f, ?_, ?_⟩
  · cases here : f one <;> simp [here]
  · cases there : f other <;> simp [there]

end Swapped

/-- Maps that are the same but for what they have under one key. -/
def SortedMap.DifferAt {κ α : Type} (key : κ) (differ : α → α → Prop)
    (map changed : SortedMap κ α) : Prop :=
  ∃ one other, differ one other ∧ Swapped (key, one) (key, other) map.entries changed.entries

/-- Sources that are the same but for one, which is `first` here and `second` there. -/
def Sources.DifferAt (formatName first second : String) : Sources → Sources → Prop :=
  SortedMap.DifferAt formatName fun one other => one = first ∧ other = second

/-- What documents say about a mode, where they differ in one source. -/
inductive ModeDocument.DifferAt (formatName first second : String) :
    Group → ModeDocument → ModeDocument → Prop
  | leads {one other : Sources} (differ : Sources.DifferAt formatName first second one other)
      (trails : Sources) (roles : SortedMap String Sources) :
      DifferAt formatName first second .leads ⟨one, trails, roles⟩ ⟨other, trails, roles⟩
  | trails (leads : Sources) {one other : Sources}
      (differ : Sources.DifferAt formatName first second one other)
      (roles : SortedMap String Sources) :
      DifferAt formatName first second .trails ⟨leads, one, roles⟩ ⟨leads, other, roles⟩
  | roles (leads trails : Sources) (category : String) {one other : SortedMap String Sources}
      (differ : one.DifferAt category (Sources.DifferAt formatName first second) other) :
      DifferAt formatName first second (.role category) ⟨leads, trails, one⟩ ⟨leads, trails, other⟩

/-- Documents that are the same but for the source at one address, which is `first` here and `second`
there. -/
def Document.DifferAt (address : Address) (first second : String) : Document → Document → Prop :=
  SortedMap.DifferAt address.modeName
    (ModeDocument.DifferAt address.formatName first second address.group)

section Differences

variable {formatName first second : String} {group : Group} {address : Address}
  {document other : Document} {site : Site}

theorem Sources.DifferAt.swapped {one other : Sources}
    (differ : Sources.DifferAt formatName first second one other) (group : Group) :
    Swapped (⟨group, formatName, first⟩ : DocumentEntry) ⟨group, formatName, second⟩
      (DocumentEntry.ofSources group one) (DocumentEntry.ofSources group other) := by
  obtain ⟨_, _, ⟨rfl, rfl⟩, swapped⟩ := differ
  exact swapped.map fun entry => (⟨group, entry.1, entry.2⟩ : DocumentEntry)

theorem ModeDocument.DifferAt.swapped {one other : ModeDocument}
    (differ : ModeDocument.DifferAt formatName first second group one other) :
    Swapped (⟨group, formatName, first⟩ : DocumentEntry) ⟨group, formatName, second⟩
      one.entries other.entries := by
  cases differ with
  | leads differ trails roles => exact ((differ.swapped .leads).append_right _).append_right _
  | trails leads differ roles => exact ((differ.swapped .trails).append_left _).append_right _
  | roles leads trails category differ =>
      obtain ⟨one, other, differ, swapped⟩ := differ
      exact (swapped.flatMap (differ.swapped (.role category))).append_left _

theorem Document.DifferAt.swapped (differ : Document.DifferAt address first second document other) :
    Swapped (⟨address, first⟩ : Listing) ⟨address, second⟩ document.listings other.listings := by
  obtain ⟨one, changed, differ, swapped⟩ := differ
  exact swapped.flatMap (differ.swapped.map _)

/-- Names are refused and sources are not, so that a source makes no difference. -/
theorem Document.DifferAt.refusal?_eq
    (differ : Document.DifferAt address first second document other) :
    document.refusal? = other.refusal? := by
  obtain ⟨one, changed, differ, swapped⟩ := differ
  refine swapped.findSome? ?_
  rw [modeRefusal?, modeRefusal?]
  cases Mode.ofName? address.modeName with
  | none => rfl
  | some mode => exact differ.swapped.findSome? rfl

/-- At any other site a source makes no difference. -/
theorem Listing.last?_stored {listings changed : List Listing}
    (swapped : Swapped ⟨address, first⟩ ⟨address, second⟩ listings changed)
    (elsewhere : address.site? ≠ some site) :
    SortedMap.last? (listings.filterMap stored?) site =
      SortedMap.last? (changed.filterMap stored?) site := by
  have nothing (source : String) :
      SortedMap.last? (stored? ⟨address, source⟩).toList site = none := by
    rw [SortedMap.last?_eq_none_iff]
    intro stored
    obtain ⟨⟨here, expr⟩, given, rfl⟩ := List.mem_map.mp stored
    exact elsewhere (stored?_eq_some_iff.mp (Option.mem_toList.mp given)).1
  obtain ⟨before, after, here, there⟩ := swapped.filterMap stored?
  rw [here, there, SortedMap.last?_append, SortedMap.last?_append, SortedMap.last?_append,
    SortedMap.last?_append, nothing, nothing]

/-- Of two documents that differ in one source, both are refused for the same reason or both are loaded.
Then the tables have the same at all other sites, and keep the same sources aside but for this one, which
is kept aside in its place exactly if it does not parse, with the error of the parser. -/
theorem loads_alike_elsewhere (differ : Document.DifferAt address first second document other) :
    (∃ error, Table.ofDocument document = .error error ∧ Table.ofDocument other = .error error) ∨
      ∃ table changed site, Table.ofDocument document = .ok table ∧
        Table.ofDocument other = .ok changed ∧ address.site? = some site ∧
        (∀ elsewhere, elsewhere ≠ site → table.at? elsewhere = changed.at? elsewhere) ∧
        ∃ before after,
          table.rejected = before ++ (Listing.rejected? ⟨address, first⟩).toList ++ after ∧
            changed.rejected = before ++ (Listing.rejected? ⟨address, second⟩).toList ++ after := by
  rw [Table.ofDocument_eq, Table.ofDocument_eq, ← differ.refusal?_eq]
  cases accepted : document.refusal? with
  | some error => exact .inl ⟨error, rfl, rfl⟩
  | none =>
      have swapped := differ.swapped
      have listed : (⟨address, first⟩ : Listing) ∈ document.listings := by
        obtain ⟨before, after, here, -⟩ := swapped
        rw [here]
        exact List.mem_append_right _ List.mem_cons_self
      obtain ⟨site, selected⟩ := document.exists_site accepted listed
      refine .inr ⟨_, _, site, rfl, rfl, selected, fun elsewhere apart => ?_,
        swapped.filterMap Listing.rejected?⟩
      rw [Table.at?, Table.at?, SortedMap.get?_ofList, SortedMap.get?_ofList]
      refine Listing.last?_stored swapped ?_
      rw [selected]
      exact fun same => apart (Option.some.inj same).symm

end Differences

/-- A document with two sources for sliders, one of which is left open. -/
def sliderDocument (focused : String) : Document :=
  ⟨[("speech", ⟨.empty, .empty,
    ⟨[("slider", ⟨[("focused", focused), ("unfocused", "labelAndName + value")]⟩)]⟩⟩)]⟩

theorem loads_alike_elsewhere_slider :
    Document.DifferAt ⟨"speech", .role "slider", "focused"⟩ "labelAndName +" "name"
        (sliderDocument "labelAndName +") (sliderDocument "name") ∧
      ∃ table changed, Table.ofDocument (sliderDocument "labelAndName +") = .ok table ∧
        Table.ofDocument (sliderDocument "name") = .ok changed ∧
        table.at? (.category ⟨⟨"slider"⟩, .speech, .unfocused⟩) =
          changed.at? (.category ⟨⟨"slider"⟩, .speech, .unfocused⟩) := by
  have inSources : Sources.DifferAt "focused" "labelAndName +" "name"
      ⟨[("focused", "labelAndName +"), ("unfocused", "labelAndName + value")]⟩
      ⟨[("focused", "name"), ("unfocused", "labelAndName + value")]⟩ :=
    ⟨_, _, ⟨rfl, rfl⟩, [], _, rfl, rfl⟩
  have differ : Document.DifferAt ⟨"speech", .role "slider", "focused"⟩ "labelAndName +" "name"
      (sliderDocument "labelAndName +") (sliderDocument "name") :=
    ⟨_, _, .roles _ _ _ ⟨_, _, inSources, [], [], rfl, rfl⟩, [], [], rfl, rfl⟩
  have accepted : (sliderDocument "labelAndName +").refusal? = none := by decide
  rcases loads_alike_elsewhere differ with ⟨error, refused, -⟩ |
    ⟨table, changed, site, loaded, loadedToo, selected, alike, -⟩
  · rw [Table.ofDocument_eq, accepted] at refused
    cases refused
  · refine ⟨differ, table, changed, loaded, loadedToo, alike _ ?_⟩
    rintro rfl
    revert selected
    decide

end Narration
