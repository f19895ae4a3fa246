import Narration.Proofs.LastValue
import Narration.Proofs.SiteOrder
/-! How a document becomes a table. The main result: loading ends at the first name that is refused,
whatever the sources say; otherwise the table consists of the sources that parse, each at its site, and
of the others, which are kept aside. -/
namespace Narration

/-- The names under which a source stands in a document. -/
structure Address where
  modeName : String
  group : Group
  formatName : String
  deriving DecidableEq, Repr

namespace Address

/-- The site that the names select, if they are not refused. -/
def site? (address : Address) : Option Site := do
  return address.group.site (← Mode.ofName? address.modeName) (← FormatType.ofName? address.formatName)

def place (address : Address) : String :=
  address.modeName ++ "." ++ address.group.path ++ "." ++ address.formatName

end Address

/-- A source of a document. -/
structure Listing where
  address : Address
  source : String
  deriving DecidableEq, Repr

namespace Listing

/-- The expression that is stored at the site, if the source parses. -/
def stored? (listing : Listing) : Option (Site × Expr) := do
  return (← listing.address.site?, ← (Expr.parse listing.source).toOption)

/-- What is kept aside, if the source does not parse. -/
def rejected? (listing : Listing) : Option Rejected :=
  match Expr.parse listing.source with
  | .ok _ => none
  | .error error => some ⟨listing.address.place, listing.source, error⟩

variable {listing : Listing} {site : Site} {expr : Expr}

theorem stored?_eq_some_iff : listing.stored? = some (site, expr) ↔
    listing.address.site? = some site ∧ Expr.parse listing.source = .ok expr := by
  rw [stored?]
  cases listing.address.site? with
  | none => simp
  | some place =>
      cases Expr.parse listing.source with
      | ok parsed => simp [Except.toOption]
      | error error => simp [Except.toOption]

end Listing

namespace ModeDocument

/-- The sources of a mode in the order in which they are loaded. -/
def listings (modeName : String) (document : ModeDocument) : List Listing :=
  document.entries.map fun entry => ⟨⟨modeName, entry.group, entry.formatName⟩, entry.source⟩

end ModeDocument

/-- What is wrong with the name of a format type. -/
def DocumentEntry.refusal? (mode : Mode) (entry : DocumentEntry) : Option TableError :=
  match FormatType.ofName entry.formatName with
  | .ok _ => none
  | .error error => some (.invalidFormatType (entry.place mode) error)

namespace Document

/-- All sources in the order in which they are loaded. -/
def listings (document : Document) : List Listing :=
  document.entries.flatMap fun mode => mode.2.listings mode.1

/-- The first refused name of one mode. -/
def modeRefusal? (entry : String × ModeDocument) : Option TableError :=
  match Mode.ofName? entry.1 with
  | none => some (.unknownMode entry.1)
  | some mode => entry.2.entries.findSome? (DocumentEntry.refusal? mode)

/-- The first refused name. -/
def refusal? (document : Document) : Option TableError := document.entries.findSome? modeRefusal?

end Document

theorem Mode.name_of_ofName? {name : String} {mode : Mode} (known : Mode.ofName? name = some mode) :
    mode.name = name := by
  simpa using List.find?_some known

/-- A value, unless there is a reason against it. -/
def okUnless {ε β : Type} (refusal : Option ε) (value : β) : Except ε β :=
  match refusal with
  | some error => .error error
  | none => .ok value

/-- A fold whose steps fail by their items alone fails at the first of these; otherwise nothing fails. -/
theorem foldlM_eq {ε β ι : Type} {step : β → ι → Except ε β} {refusal? : ι → Option ε}
    {take : β → ι → β}
    (stepwise : ∀ before item, step before item = okUnless (refusal? item) (take before item))
    (items : List ι) (start : β) :
    items.foldlM step start = okUnless (items.findSome? refusal?) (items.foldl take start) := by
  induction items generalizing start with
  | nil => rfl
  | cons item rest ih =>
      rw [List.foldlM_cons, stepwise, List.findSome?_cons]
      cases refusal? item with
      | some error => rfl
      | none => exact ih (take start item)

namespace Table

/-- The table with a source of a document, whose names are not refused. -/
def take (table : Table) (listing : Listing) : Table :=
  ⟨(listing.stored?.map fun entry => table.sites.insert entry.1 entry.2).getD table.sites,
    table.rejected ++ listing.rejected?.toList⟩

theorem load_eq {modeName : String} {mode : Mode} (known : Mode.ofName? modeName = some mode)
    (table : Table) (entry : DocumentEntry) :
    entry.load mode table = okUnless (entry.refusal? mode)
      (table.take ⟨⟨modeName, entry.group, entry.formatName⟩, entry.source⟩) := by
  have named : mode.name = modeName := Mode.name_of_ofName? known
  rw [DocumentEntry.load, DocumentEntry.refusal?, take, Listing.stored?, Listing.rejected?,
    Address.site?, known, FormatType.ofName, DocumentEntry.place, Address.place, named]
  cases FormatType.ofName? entry.formatName with
  | none => rfl
  | some formatType =>
      cases Expr.parse entry.source with
      | ok expr => simp [okUnless, set, Except.toOption]
      | error error => simp [okUnless, Except.toOption]

theorem loadMode_eq (table : Table) (entry : String × ModeDocument) :
    table.loadMode entry.1 entry.2 =
      okUnless (Document.modeRefusal? entry) ((entry.2.listings entry.1).foldl take table) := by
  rw [loadMode, Document.modeRefusal?]
  cases known : Mode.ofName? entry.1 with
  | none => rfl
  | some mode =>
      rw [ModeDocument.listings, List.foldl_map]
      exact foldlM_eq (load_eq known) entry.2.entries table

/-- Taking one source after another makes the map of what they store. -/
theorem foldl_take (listings : List Listing) :
    listings.foldl take .empty =
      ⟨.ofList (listings.filterMap Listing.stored?), listings.filterMap Listing.rejected?⟩ := by
  induction listings using List.reverseRecOn with
  | nil => rfl
  | append_singleton listings listing ih =>
      rw [List.foldl_append, ih, List.filterMap_append, List.filterMap_append, List.foldl_cons,
        List.foldl_nil, take]
      congr 1
      cases stored : listing.stored? <;> simp [stored, SortedMap.ofList_append_singleton]

/-- Loading a document ends at the first name that is refused. If none is, the table has the sources
that parse, of two for one site the later one, and keeps the others aside. -/
theorem ofDocument_eq (document : Document) :
    ofDocument document = okUnless document.refusal?
      ⟨.ofList (document.listings.filterMap Listing.stored?),
        document.listings.filterMap Listing.rejected?⟩ := by
  rw [ofDocument, foldlM_eq loadMode_eq, ← foldl_take, Document.listings, List.foldl_flatMap]
  rfl

theorem ofDocument_eq_ok {document : Document} {table : Table} :
    ofDocument document = .ok table ↔ document.refusal? = none ∧
      table = ⟨.ofList (document.listings.filterMap Listing.stored?),
        document.listings.filterMap Listing.rejected?⟩ := by
  rw [ofDocument_eq]
  cases document.refusal? <;> simp [okUnless, eq_comm]

end Table

/-- In a document that is loaded, every address selects a site. -/
theorem Document.exists_site {document : Document} (accepted : document.refusal? = none)
    {listing : Listing} (listed : listing ∈ document.listings) :
    ∃ site, listing.address.site? = some site := by
  obtain ⟨⟨modeName, inMode⟩, member, within⟩ := List.mem_flatMap.mp listed
  obtain ⟨entry, present, rfl⟩ := List.mem_map.mp within
  have modeAccepted : modeRefusal? (modeName, inMode) = none :=
    List.findSome?_eq_none_iff.mp accepted _ member
  rw [modeRefusal?] at modeAccepted
  cases known : Mode.ofName? modeName with
  | none => simp [known] at modeAccepted
  | some mode =>
      simp only [known] at modeAccepted
      have nameAccepted := List.findSome?_eq_none_iff.mp modeAccepted _ present
      rw [DocumentEntry.refusal?, FormatType.ofName] at nameAccepted
      cases named : FormatType.ofName? entry.formatName with
      | none => simp [named] at nameAccepted
      | some formatType =>
          exact ⟨entry.group.site mode formatType, by simp [Address.site?, known, named]⟩

end Narration
