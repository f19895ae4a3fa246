import Narration.Proofs.Ascending
/-! What becomes of the sources of a document. The main result: each is stored or kept aside, unless its
group has another spelling of the same format type, which is loaded later and stored in its place. -/
namespace Narration

namespace FormatType

/-- Two names for one type, in ascending order. -/
def respellings : List (String × String) :=
  [("basicWhereAmI", "basic_where_am_i"), ("detailedWhereAmI", "detailed_where_am_i")]

theorem eq_name_or_respelling {name : String} {formatType : FormatType}
    (named : ofName? name = some formatType) :
    name = formatType.name ∨ (formatType.name, name) ∈ respellings := by
  unfold ofName? at named
  split_ifs at named with empty focused unfocused basic detailed
  · cases named
    exact .inl focused
  · cases named
    exact .inl unfocused
  · cases named
    rw [Bool.or_eq_true, decide_eq_true_eq, decide_eq_true_eq] at basic
    exact basic.imp_right fun same => by simp [same, respellings, FormatType.name]
  · cases named
    rw [Bool.or_eq_true, decide_eq_true_eq, decide_eq_true_eq] at detailed
    exact detailed.imp_right fun same => by simp [same, respellings, FormatType.name]
  · cases named
    exact .inl rfl

theorem ofName?_of_respelling {name later : String} (respelling : (name, later) ∈ respellings) :
    ofName? later = ofName? name := by
  simp only [respellings, List.mem_cons, Prod.mk.injEq, List.not_mem_nil, or_false] at respelling
  rcases respelling with ⟨rfl, rfl⟩ | ⟨rfl, rfl⟩ <;> rfl

theorem not_mem_respellings {name later last : String} (respelling : (name, later) ∈ respellings) :
    (later, last) ∉ respellings := by
  simp only [respellings, List.mem_cons, Prod.mk.injEq, List.not_mem_nil, or_false] at respelling
  rcases respelling with ⟨rfl, rfl⟩ | ⟨rfl, rfl⟩ <;> simp [respellings]

theorem mem_respellings {name later : String} {formatType : FormatType}
    (named : ofName? name = some formatType) (again : ofName? later = some formatType)
    (below : compare name later = .lt) : (name, later) ∈ respellings := by
  have ordered : ∀ pair ∈ respellings, compare pair.2 pair.1 ≠ .lt := by decide
  have unique : ∀ pair ∈ respellings, ∀ other ∈ respellings,
      pair.1 = other.1 → pair.2 = other.2 := by decide
  rcases eq_name_or_respelling named with rfl | first
  · rcases eq_name_or_respelling again with rfl | second
    · exact absurd rfl (SortedMap.ne_of_compare_eq_lt below)
    · exact second
  · rcases eq_name_or_respelling again with rfl | second
    · exact (ordered (formatType.name, name) first below).elim
    · have same := unique (formatType.name, name) first (formatType.name, later) second rfl
      exact absurd same (SortedMap.ne_of_compare_eq_lt below)

end FormatType

namespace Address

variable {address other : Address} {site : Site}

theorem site?_eq_some_iff : address.site? = some site ↔
    ∃ mode formatType, Mode.ofName? address.modeName = some mode ∧
      FormatType.ofName? address.formatName = some formatType ∧
      site = address.group.site mode formatType := by
  rw [site?]
  cases Mode.ofName? address.modeName with
  | none => simp
  | some mode =>
      cases FormatType.ofName? address.formatName with
      | none => simp
      | some formatType => simp [eq_comm]

theorem site_inj {group more : Group} {mode mode' : Mode} {formatType formatType' : FormatType}
    (same : group.site mode formatType = more.site mode' formatType') :
    group = more ∧ mode = mode' ∧ formatType = formatType' := by
  cases group <;> cases more <;> simp_all [Group.site]

/-- Addresses of one site are in the same group and name the same format type. -/
theorem same_of_site (here : address.site? = some site) (there : other.site? = some site) :
    address.modeName = other.modeName ∧ address.group = other.group ∧
      ∃ formatType, FormatType.ofName? address.formatName = some formatType ∧
        FormatType.ofName? other.formatName = some formatType := by
  obtain ⟨mode, formatType, known, named, rfl⟩ := site?_eq_some_iff.mp here
  obtain ⟨mode', formatType', known', named', same⟩ := site?_eq_some_iff.mp there
  obtain ⟨groups, rfl, rfl⟩ := site_inj same
  have modes := (Mode.name_of_ofName? known).symm.trans (Mode.name_of_ofName? known')
  exact ⟨modes, groups, formatType, named, named'⟩

end Address

namespace Listing

def parses (listing : Listing) : Bool := (Expr.parse listing.source).toOption.isSome

/-- Whether `later` spells the same format type otherwise, in the same group. -/
def isRespelledBy (listing later : Listing) : Bool :=
  listing.address.modeName = later.address.modeName && listing.address.group = later.address.group &&
    FormatType.respellings.contains (listing.address.formatName, later.address.formatName)

variable {listing later last : Listing} {site : Site} {expr : Expr}

theorem isRespelledBy_iff : listing.isRespelledBy later ↔
    listing.address.modeName = later.address.modeName ∧
      listing.address.group = later.address.group ∧
      (listing.address.formatName, later.address.formatName) ∈ FormatType.respellings := by
  simp [isRespelledBy, and_assoc]

theorem site?_of_isRespelledBy (respelled : listing.isRespelledBy later) :
    later.address.site? = listing.address.site? := by
  obtain ⟨modes, groups, names⟩ := isRespelledBy_iff.mp respelled
  rw [Address.site?, Address.site?, modes, groups, FormatType.ofName?_of_respelling names]

theorem not_isRespelledBy (respelled : listing.isRespelledBy later) :
    later.isRespelledBy last = false := by
  obtain ⟨-, -, names⟩ := isRespelledBy_iff.mp respelled
  rw [Bool.eq_false_iff]
  intro again
  exact FormatType.not_mem_respellings names (isRespelledBy_iff.mp again).2.2

/-- Only another spelling of its format type can take the site of a source. -/
theorem InOrder.isRespelledBy (inOrder : listing.InOrder later)
    (here : listing.address.site? = some site) (there : later.address.site? = some site) :
    listing.isRespelledBy later := by
  obtain ⟨modes, groups, formatType, named, again⟩ := Address.same_of_site here there
  exact isRespelledBy_iff.mpr
    ⟨modes, groups, FormatType.mem_respellings named again (inOrder modes groups)⟩

theorem parses_iff : listing.parses ↔ ∃ expr, Expr.parse listing.source = .ok expr := by
  rw [parses]
  cases Expr.parse listing.source <;> simp [Except.toOption]

theorem isSome_rejected? (listing : Listing) : listing.rejected?.isSome = !listing.parses := by
  rw [rejected?, parses]
  cases Expr.parse listing.source <;> rfl

end Listing

/-- Where each item has exactly one of three properties, their counts add up. -/
theorem countP_of_exactly_one {α : Type} {p q r : α → Bool}
    (exactlyOne : ∀ item,
      (if p item then 1 else 0) + (if q item then 1 else 0) + (if r item then 1 else 0) = 1)
    (items : List α) :
    items.countP p + items.countP q + items.countP r = items.length := by
  induction items with
  | nil => rfl
  | cons item rest ih =>
      have here := exactlyOne item
      rw [List.countP_cons, List.countP_cons, List.countP_cons, List.length_cons]
      omega

namespace Document

/-- Whether a source parses and so does a later one that takes its site. -/
def isSuperseded (document : Document) (listing : Listing) : Bool :=
  listing.parses && document.listings.any fun later => later.parses && listing.isRespelledBy later

def superseded (document : Document) : List Listing := document.listings.filter document.isSuperseded

/-- The sources that parse and are not superseded. -/
def effective (document : Document) : List Listing :=
  document.listings.filter fun listing => listing.parses && !document.isSuperseded listing

variable {document : Document} {listing later : Listing} {site : Site} {expr : Expr}

theorem mem_effective : listing ∈ document.effective ↔
    listing ∈ document.listings ∧ listing.parses ∧
      ∀ later ∈ document.listings, later.parses → listing.isRespelledBy later = false := by
  rw [effective, List.mem_filter, isSuperseded]
  cases listing.parses <;> simp

/-- Whatever parses, its site is that of an effective source. -/
theorem exists_effective (listed : listing ∈ document.listings) (parses : listing.parses) :
    ∃ other ∈ document.effective, other.address.site? = listing.address.site? := by
  by_cases superseded : ∃ later ∈ document.listings, later.parses ∧ listing.isRespelledBy later
  · obtain ⟨later, present, parsesToo, respelled⟩ := superseded
    refine ⟨later, mem_effective.mpr ⟨present, parsesToo, fun last _ _ => ?_⟩,
      Listing.site?_of_isRespelledBy respelled⟩
    exact Listing.not_isRespelledBy respelled
  · refine ⟨listing, mem_effective.mpr ⟨listed, parses, fun later present parsesToo => ?_⟩, rfl⟩
    rw [Bool.eq_false_iff]
    intro respelled
    exact superseded ⟨later, present, parsesToo, respelled⟩

/-- The last source that is stored at a site is the effective one. -/
theorem last?_of_effective (ascends : document.Ascends) (effective : listing ∈ document.effective)
    (stored : listing.stored? = some (site, expr)) :
    SortedMap.last? (document.listings.filterMap Listing.stored?) site = some expr := by
  obtain ⟨listed, parses, unreplaced⟩ := mem_effective.mp effective
  obtain ⟨before, after, split⟩ := List.append_of_mem listed
  have inOrder := ascends.pairwise
  rw [split, List.pairwise_append, List.pairwise_cons] at inOrder
  rw [split, List.filterMap_append, List.filterMap_cons_some stored]
  refine SortedMap.last?_of_unreplaced fun replaced => ?_
  obtain ⟨⟨other, expr'⟩, given, rfl⟩ := List.mem_map.mp replaced
  obtain ⟨later, present, storedToo⟩ := List.mem_filterMap.mp given
  have respelled := (inOrder.2.1.1 later present).isRespelledBy
    (Listing.stored?_eq_some_iff.mp stored).1 (Listing.stored?_eq_some_iff.mp storedToo).1
  have inDocument : later ∈ document.listings := by
    rw [split]
    exact List.mem_append_right _ (List.mem_cons_of_mem _ present)
  have parsesToo := Listing.parses_iff.mpr ⟨_, (Listing.stored?_eq_some_iff.mp storedToo).2⟩
  rw [unreplaced later inDocument parsesToo] at respelled
  cases respelled

/-- No two effective sources have one site. -/
theorem pairwise_effective (ascends : document.Ascends) :
    document.effective.Pairwise fun earlier later =>
      ∀ site, earlier.address.site? = some site → later.address.site? ≠ some site := by
  have inOrder : document.effective.Pairwise Listing.InOrder := ascends.pairwise.filter _
  refine inOrder.imp_of_mem fun {earlier later} first second inOrder site here there => ?_
  obtain ⟨-, -, unreplaced⟩ := mem_effective.mp first
  obtain ⟨present, parses, -⟩ := mem_effective.mp second
  have respelled := inOrder.isRespelledBy here there
  rw [unreplaced later present parses] at respelled
  cases respelled

theorem exists_stored? (accepted : document.refusal? = none) (listed : listing ∈ document.listings)
    (parses : listing.parses) : ∃ site expr, listing.stored? = some (site, expr) := by
  obtain ⟨site, selected⟩ := document.exists_site accepted listed
  obtain ⟨expr, parsed⟩ := Listing.parses_iff.mp parses
  exact ⟨site, expr, Listing.stored?_eq_some_iff.mpr ⟨selected, parsed⟩⟩

/-- A table has exactly one entry for each effective source. -/
theorem perm_entries (ascends : document.Ascends) :
    (SortedMap.ofList (document.listings.filterMap Listing.stored?)).entries.Perm
      (document.effective.filterMap Listing.stored?) := by
  have distinct : (document.effective.filterMap Listing.stored?).Nodup := by
    refine List.pairwise_filterMap.mpr ((pairwise_effective ascends).imp ?_)
    rintro earlier later apart ⟨site, expr⟩ here _ there rfl
    exact apart site (Listing.stored?_eq_some_iff.mp here).1 (Listing.stored?_eq_some_iff.mp there).1
  refine (List.perm_ext_iff_of_nodup (SortedMap.isSorted_ofList _).nodup_entries distinct).mpr ?_
  rintro ⟨site, expr⟩
  rw [SortedMap.mem_entries_ofList, List.mem_filterMap]
  constructor
  · intro last
    have given := SortedMap.isSome_last?_iff.mp (Option.isSome_iff_exists.mpr ⟨expr, last⟩)
    obtain ⟨⟨_, first⟩, member, rfl⟩ := List.mem_map.mp given
    obtain ⟨listing, listed, stored⟩ := List.mem_filterMap.mp member
    obtain ⟨selected, parsed⟩ := Listing.stored?_eq_some_iff.mp stored
    obtain ⟨other, effective, same⟩ :=
      exists_effective listed (Listing.parses_iff.mpr ⟨_, parsed⟩)
    obtain ⟨own, parsedToo⟩ := Listing.parses_iff.mp (mem_effective.mp effective).2.1
    have storedToo := Listing.stored?_eq_some_iff.mpr ⟨same.trans selected, parsedToo⟩
    cases last.symm.trans (last?_of_effective ascends effective storedToo)
    exact ⟨other, effective, storedToo⟩
  · rintro ⟨listing, effective, stored⟩
    exact last?_of_effective ascends effective stored

theorem length_effective (accepted : document.refusal? = none) :
    (document.effective.filterMap Listing.stored?).length = document.effective.length := by
  rw [List.length_filterMap_eq_countP, List.countP_eq_length]
  intro listing effective
  obtain ⟨listed, parses, -⟩ := mem_effective.mp effective
  obtain ⟨site, expr, stored⟩ := exists_stored? accepted listed parses
  rw [stored]
  rfl

/-- Every source is effective, superseded or does not parse. -/
theorem length_listings (document : Document) :
    document.effective.length + (document.listings.filterMap Listing.rejected?).length +
      document.superseded.length = document.listings.length := by
  rw [effective, superseded, List.length_filterMap_eq_countP, ← List.countP_eq_length_filter,
    ← List.countP_eq_length_filter]
  apply countP_of_exactly_one
  intro listing
  rw [Listing.isSome_rejected?, isSuperseded]
  cases listing.parses with
  | false => rfl
  | true => cases document.listings.any _ <;> rfl

end Document

namespace Table

/-- Whether a table has what a source asks for: it is stored, or it is kept aside with the error. -/
def Holds (table : Table) (listing : Listing) : Prop :=
  (∃ rejected ∈ table.rejected, listing.rejected? = some rejected) ∨
    ∃ site expr, listing.stored? = some (site, expr) ∧ table.at? site = some expr

variable {document : Document} {table : Table}

theorem at?_of_effective (ascends : document.Ascends) (loaded : ofDocument document = .ok table)
    {listing : Listing} (effective : listing ∈ document.effective) :
    ∃ site expr, listing.stored? = some (site, expr) ∧ table.at? site = some expr := by
  obtain ⟨accepted, rfl⟩ := ofDocument_eq_ok.mp loaded
  obtain ⟨listed, parses, -⟩ := Document.mem_effective.mp effective
  obtain ⟨site, expr, stored⟩ := Document.exists_stored? accepted listed parses
  refine ⟨site, expr, stored, ?_⟩
  rw [at?, SortedMap.get?_ofList]
  exact Document.last?_of_effective ascends effective stored

/-- A table that is loaded has every source, stored or kept aside, but for the superseded ones: where a
group spells one format type in two ways and both sources parse, the table has the later one. Counted
together, these are all sources, so that the entries and what is kept aside are as many as the sources
exactly if none is superseded. -/
theorem sources_accounted (ascends : document.Ascends) (loaded : ofDocument document = .ok table) :
    (∀ listing ∈ document.listings, document.isSuperseded listing = false → table.Holds listing) ∧
      (∀ listing ∈ document.superseded, ∃ later ∈ document.listings,
        listing.isRespelledBy later ∧ listing.address.site? = later.address.site? ∧
          ∃ site expr, later.stored? = some (site, expr) ∧ table.at? site = some expr) ∧
      table.entries.length + table.rejected.length + document.superseded.length =
        document.listings.length := by
  obtain ⟨accepted, made⟩ := ofDocument_eq_ok.mp loaded
  refine ⟨fun listing listed current => ?_, fun listing superseded => ?_, ?_⟩
  · cases parses : listing.parses with
    | true =>
        have effective : listing ∈ document.effective := by
          simp [Document.effective, listed, parses, current]
        exact .inr (at?_of_effective ascends loaded effective)
    | false =>
        have refused : listing.rejected?.isSome := by simp [Listing.isSome_rejected?, parses]
        obtain ⟨rejected, aside⟩ := Option.isSome_iff_exists.mp refused
        refine .inl ⟨rejected, ?_, aside⟩
        rw [made]
        exact List.mem_filterMap.mpr ⟨listing, listed, aside⟩
  · obtain ⟨listed, found⟩ := List.mem_filter.mp superseded
    simp only [Document.isSuperseded, Bool.and_eq_true, List.any_eq_true] at found
    obtain ⟨-, later, present, parses, respelled⟩ := found
    have effective : later ∈ document.effective :=
      Document.mem_effective.mpr ⟨present, parses, fun _ _ _ => Listing.not_isRespelledBy respelled⟩
    exact ⟨later, present, respelled, (Listing.site?_of_isRespelledBy respelled).symm,
      at?_of_effective ascends loaded effective⟩
  · have entries := (Document.perm_entries ascends).length_eq
    rw [Document.length_effective accepted] at entries
    rw [made, Table.entries, entries]
    exact document.length_listings

/-- A text with two spellings of one format type. -/
def twiceSpelledText : String :=
  "[speech.roles.label]\nbasicWhereAmI = \"'a'\"\nbasic_where_am_i = \"'b'\"\n"

def twiceSpelled : Document :=
  ⟨[("speech", ⟨.empty, .empty, ⟨[("label",
    ⟨[("basicWhereAmI", "'a'"), ("basic_where_am_i", "'b'")]⟩)]⟩⟩)]⟩

def firstSpelling : Listing := ⟨⟨"speech", .role "label", "basicWhereAmI"⟩, "'a'"⟩

/-- The table that has the second spelling alone. -/
def secondSpelled : Table :=
  ⟨⟨[(.category ⟨.label, .speech, .basicWhereAmI⟩, .text "b")]⟩, []⟩

theorem read_twiceSpelled :
    (Toml.parse twiceSpelledText).bind Document.ofToml? = some twiceSpelled ∧
      secondSpelled = ⟨.ofList (twiceSpelled.listings.filterMap Listing.stored?),
        twiceSpelled.listings.filterMap Listing.rejected?⟩ ∧
      twiceSpelled.superseded = [firstSpelling] ∧
      firstSpelling.stored? = some (.category ⟨.label, .speech, .basicWhereAmI⟩, .text "a") := by
  decide +kernel

theorem loaded_twiceSpelled : ofDocument twiceSpelled = .ok secondSpelled :=
  ofDocument_eq_ok.mpr ⟨by decide, read_twiceSpelled.2.1⟩

theorem sources_accounted_twiceSpelled :
    twiceSpelled.Ascends ∧ ofDocument twiceSpelled = .ok secondSpelled ∧
      (∃ later ∈ twiceSpelled.listings, firstSpelling.isRespelledBy later ∧
        ∃ site expr, later.stored? = some (site, expr) ∧ secondSpelled.at? site = some expr) ∧
      secondSpelled.entries.length + secondSpelled.rejected.length + 1 =
        twiceSpelled.listings.length := by
  obtain ⟨read, -, superseded, -⟩ := read_twiceSpelled
  have ascends := Document.ascends_of_decoded read
  obtain ⟨-, replaced, counted⟩ := sources_accounted ascends loaded_twiceSpelled
  rw [superseded] at replaced counted
  obtain ⟨later, listed, respelled, -, held⟩ := replaced firstSpelling (List.mem_singleton_self _)
  exact ⟨ascends, loaded_twiceSpelled, ⟨later, listed, respelled, held⟩, counted⟩

/-- Of two spellings in a text that is loaded, the first is neither stored nor kept aside. -/
theorem not_all_sources_held :
    ∃ text document table, (Toml.parse text).bind Document.ofToml? = some document ∧
      ofDocument document = .ok table ∧ (∃ listing ∈ document.listings, ¬ table.Holds listing) ∧
      table.entries.length + table.rejected.length ≠ document.listings.length := by
  obtain ⟨read, -, -, asked⟩ := read_twiceSpelled
  refine ⟨_, twiceSpelled, secondSpelled, read, loaded_twiceSpelled, ⟨firstSpelling, ?_, ?_⟩, ?_⟩
  · decide
  · rintro (⟨rejected, absurdly, -⟩ | ⟨site, expr, stored, found⟩)
    · cases absurdly
    · cases asked.symm.trans stored
      revert found
      decide
  · decide

end Table

end Narration
