import Mathlib.Data.List.Basic
import Narration.Proofs.Casing
import Narration.Proofs.Runs
import Narration.QuantityName
/-! The names that implementations suggest. The main result: such a name is put together from the words
between the underscores, so that two spellings of the same words suggest the same name. -/
namespace Narration

namespace Text

section Case

variable {c d : Char} {changes : List CaseRun} {expansions : List (Nat × List Nat)}

theorem eq_toNat_of_ofNat {code : Nat} (same : Char.ofNat code = d) (proper : d ≠ '\x00') :
    code = d.toNat := by
  by_cases valid : code.isValidChar
  · rw [Char.ofNat, dif_pos valid] at same
    rw [← same]
    rfl
  · rw [Char.ofNat, dif_neg valid] at same
    exact absurd same.symm proper

/-- A character that no other one is mapped to is only found where it was. -/
theorem not_mem_mapCase (proper : d ≠ '\x00')
    (noExpansion : expansions.all fun expansion => expansion.2.all (· != d.toNat))
    (noImage : changes.all fun run =>
      d.toNat.blt (run.image run.first) || (run.image run.last).blt d.toNat)
    (apart : c ≠ d) : d ∉ mapCase changes expansions c := by
  intro member
  unfold mapCase at member
  split at member
  · rename_i codes listed
    obtain ⟨code, among, same⟩ := List.mem_map.mp member
    obtain ⟨before, after, split, -⟩ := List.lookup_eq_some_iff.mp listed
    have avoids := List.all_eq_true.mp noExpansion (c.toNat, codes) (by simp [split])
    have differs := List.all_eq_true.mp avoids code among
    rw [eq_toNat_of_ofNat same proper] at differs
    simp at differs
  · have same := List.mem_singleton.mp member
    cases found : changes.findSome? (·.map? c.toNat) with
    | none =>
        rw [found] at same
        exact apart same.symm
    | some code =>
        rw [found] at same
        have image := eq_toNat_of_ofNat same.symm proper
        obtain ⟨run, listed, mapped⟩ := List.exists_of_findSome?_eq_some found
        obtain ⟨low, high, -, rfl⟩ := CaseRun.map?_eq_some.mp mapped
        obtain ⟨above, below⟩ := CaseRun.image_bounds low high
        have outside := List.all_eq_true.mp noImage run listed
        simp only [Bool.or_eq_true, Nat.blt_eq] at outside
        omega

theorem underscore_not_mem_lowerChar (apart : c ≠ '_') : '_' ∉ lowerChar c :=
  not_mem_mapCase (by decide) (by decide +kernel) (by decide +kernel) apart

theorem underscore_not_mem_upperChar (apart : c ≠ '_') : '_' ∉ upperChar c :=
  not_mem_mapCase (by decide) (by decide +kernel) (by decide +kernel) apart

/-- The case mappings of the letters of ASCII. -/
theorem ascii_cases : ∀ code < 128, (Char.ofNat code).isAlpha →
    upperChar (Char.ofNat code) = [(Char.ofNat code).toUpper] ∧
      lowerChar (Char.ofNat code).toUpper = lowerChar (Char.ofNat code) := by decide +kernel

theorem toNat_lt_of_isAlpha (letter : c.isAlpha) : c.toNat < 128 := by
  have ranges : c.isAlpha = (decide ('A'.val ≤ c.val ∧ c.val ≤ 'Z'.val) ||
      (decide ('a'.val ≤ c.val) && decide (c.val ≤ 'z'.val))) := rfl
  simp only [ranges, Bool.or_eq_true, Bool.and_eq_true, decide_eq_true_eq,
    UInt32.le_iff_toNat_le] at letter
  change c.val.toNat < 128
  rcases letter with ⟨-, upper⟩ | ⟨-, lower⟩
  · exact Nat.lt_of_le_of_lt upper (by decide)
  · exact Nat.lt_of_le_of_lt lower (by decide)

theorem upperChar_of_isAlpha (letter : c.isAlpha) : upperChar c = [c.toUpper] := by
  have both := ascii_cases c.toNat (toNat_lt_of_isAlpha letter)
  rw [Char.ofNat_toNat] at both
  exact (both letter).1

theorem lowerChar_toUpper (letter : c.isAlpha) : lowerChar c.toUpper = lowerChar c := by
  have both := ascii_cases c.toNat (toNat_lt_of_isAlpha letter)
  rw [Char.ofNat_toNat] at both
  exact (both letter).2

theorem upperFirst_of_letters {word : List Char} (letters : word.all Char.isAlpha) :
    upperFirst word = word.modifyHead Char.toUpper := by
  cases word with
  | nil => rfl
  | cons first rest =>
      simp only [List.all_cons, Bool.and_eq_true] at letters
      rw [upperFirst, upperChar_of_isAlpha letters.1, List.modifyHead_cons]
      rfl

theorem lowerFirst_capitalized {word : List Char} (letters : word.all Char.isAlpha) :
    lowerFirst (word.modifyHead Char.toUpper) = lowerFirst word := by
  cases word with
  | nil => rfl
  | cons first rest =>
      simp only [List.all_cons, Bool.and_eq_true] at letters
      rw [List.modifyHead_cons, lowerFirst, lowerChar_toUpper letters.1, lowerFirst]

theorem lowerFirst_append {word : List Char} (nonempty : word ≠ []) (rest : List Char) :
    lowerFirst (word ++ rest) = lowerFirst word ++ rest := by
  cases word with
  | nil => exact absurd rfl nonempty
  | cons first others => simp only [List.cons_append, lowerFirst, List.append_assoc]

end Case

end Text

namespace QuantityName

open Text

/-- Whether a character belongs to a word. -/
def inWord (c : Char) : Bool := c != '_'

/-- What is left of an implementation's name without its leading underscores, and then without one
`generate` in front. -/
def stem (implementation : List Char) : List Char :=
  let name := dropUnderscores implementation
  if implementationLead <+: name then name.drop implementationLead.length else name

/-- The words of an implementation's name: the runs between its underscores. -/
def stemWords (implementation : List Char) : List (List Char) :=
  runs inWord (stem implementation)

/-- The first word in lower case, each further one in upper case as far as its first character goes. -/
def ofWords : List (List Char) → QuantityName
  | [] => ⟨""⟩
  | first :: others => ⟨String.ofList (lowerFirst first ++ others.flatMap upperFirst)⟩

variable {c : Char} {s before after : List Char} {words : List (List Char)}

theorem not_inWord : ¬ inWord '_' := by decide

section Joining

/-- Behind a kept character the words go on, each in upper case. The word that is being read is raised
by its first character only. -/
theorem joinWords_started (s : List Char) :
    joinWords true false s =
        s.takeWhile inWord ++
          (runs inWord (s.dropWhile inWord)).flatMap upperFirst ∧
      joinWords true true s = (runs inWord s).flatMap upperFirst := by
  induction s with
  | nil =>
      rw [List.dropWhile_nil, runs_nil]
      exact ⟨rfl, rfl⟩
  | cons c rest ih =>
      obtain ⟨within, between⟩ := ih
      by_cases separates : c = '_'
      · subst separates
        have other : ¬ inWord '_' := not_inWord
        constructor
        · rw [joinWords, if_pos rfl, between, List.takeWhile_cons_of_neg other,
            List.dropWhile_cons_of_neg other, List.nil_append, runs_of_not_kind other]
        · rw [joinWords, if_pos rfl, between, runs_of_not_kind other]
      · have here : inWord c := bne_iff_ne.mpr separates
        constructor
        · rw [joinWords, if_neg separates, within, List.takeWhile_cons_of_pos here,
            List.dropWhile_cons_of_pos here]
          rfl
        · rw [joinWords, if_neg separates, within, runs_of_kind here, List.flatMap_cons, upperFirst,
            if_pos rfl, List.append_assoc]

/-- In front of the first word nothing is raised. -/
theorem normalize_joinWords (s : List Char) :
    normalize (String.ofList (joinWords false false s)) = ofWords (runs inWord s) := by
  induction s with
  | nil => rw [runs_nil]; rfl
  | cons c rest ih =>
      by_cases separates : c = '_'
      · subst separates
        rw [joinWords, if_pos rfl, ih, runs_of_not_kind not_inWord]
      · have here : inWord c := bne_iff_ne.mpr separates
        rw [joinWords, if_neg separates, (joinWords_started rest).1, runs_of_kind here, normalize,
          String.toList_ofList, ofWords, ← lowerFirst_append (List.cons_ne_nil _ _)]
        rfl

theorem runs_dropUnderscores (s : List Char) :
    runs inWord (dropUnderscores s) = runs inWord s := by
  induction s with
  | nil => rfl
  | cons c rest ih =>
      by_cases separates : c = '_'
      · subst separates
        rw [runs_of_not_kind not_inWord, ← ih]
        rfl
      · rw [dropUnderscores, List.dropWhile_cons_of_neg (by simpa using separates)]

/-- Where there is no `generate` in front, the leading underscores are dropped in the end. -/
theorem ofImplementation_eq (implementation : String) :
    ofImplementation implementation = ofWords (stemWords implementation.toList) := by
  rw [ofImplementation, normalize_joinWords, runs_dropUnderscores, stemWords, stem]
  cases found : implementationLead.isPrefixOf? (dropUnderscores implementation.toList) with
  | some rest =>
      have split := List.isPrefixOf?_eq_some_iff_append_eq.mp found
      rw [← split, if_pos (List.prefix_append _ _), List.drop_left, Option.getD_some]
  | none =>
      have absent : ¬ implementationLead <+: dropUnderscores implementation.toList := by
        rintro ⟨rest, split⟩
        rw [List.isPrefixOf?_eq_some_iff_append_eq.mpr split] at found
        cases found
      rw [if_neg absent, Option.getD_none, runs_dropUnderscores]

end Joining

section Underscores

theorem underscore_not_mem_lowerFirst {word : List Char} (free : '_' ∉ word) :
    '_' ∉ lowerFirst word := by
  cases word with
  | nil => exact free
  | cons first rest =>
      rw [List.mem_cons, not_or] at free
      rw [lowerFirst, List.mem_append, not_or]
      exact ⟨underscore_not_mem_lowerChar (Ne.symm free.1), free.2⟩

theorem underscore_not_mem_upperFirst {word : List Char} (free : '_' ∉ word) :
    '_' ∉ upperFirst word := by
  cases word with
  | nil => exact free
  | cons first rest =>
      rw [List.mem_cons, not_or] at free
      rw [upperFirst, List.mem_append, not_or]
      exact ⟨underscore_not_mem_upperChar (Ne.symm free.1), free.2⟩

theorem underscore_not_mem_ofWords (free : ∀ word ∈ words, '_' ∉ word) :
    '_' ∉ (ofWords words).text.toList := by
  cases words with
  | nil => exact List.not_mem_nil
  | cons first others =>
      obtain ⟨atFirst, further⟩ := List.forall_mem_cons.mp free
      rw [ofWords, String.toList_ofList, List.mem_append, List.mem_flatMap]
      rintro (member | ⟨word, listed, member⟩)
      · exact underscore_not_mem_lowerFirst atFirst member
      · exact underscore_not_mem_upperFirst (further word listed) member

theorem underscore_not_mem_stemWords : ∀ word ∈ stemWords s, '_' ∉ word := by
  intro word listed member
  obtain ⟨before, after, -, -, inside, -⟩ := mem_runs_iff.mp listed
  exact not_inWord (inside '_' member)

/-- The lead has no underscore, so one behind a name does not complete it. -/
theorem prefix_append_underscore :
    implementationLead <+: s ++ '_' :: after ↔ implementationLead <+: s := by
  constructor
  · intro leads
    rcases List.prefix_or_prefix_of_prefix leads (List.prefix_append s _) with shorter | longer
    · exact shorter
    · obtain ⟨rest, whole⟩ := longer
      rw [← whole, List.prefix_append_right_inj] at leads
      cases rest with
      | nil => exact ⟨[], by rw [List.append_nil, ← whole, List.append_nil]⟩
      | cons first others =>
          obtain ⟨more, split⟩ := leads
          cases split
          have member : '_' ∈ implementationLead := by simp [← whole]
          exact absurd member (by decide)
  · intro leads
    exact leads.trans (List.prefix_append _ _)

/-- An underscore ends the words in front of it. In front of the stem it says nothing. -/
theorem stemWords_append (before after : List Char) :
    stemWords (before ++ '_' :: after) =
      if dropUnderscores before = [] then stemWords after
      else stemWords before ++ runs inWord after := by
  have dropped : dropUnderscores (before ++ '_' :: after) =
      if dropUnderscores before = [] then dropUnderscores after
      else dropUnderscores before ++ '_' :: after := by
    simp only [dropUnderscores, List.dropWhile_append, List.isEmpty_iff]
    rfl
  by_cases blank : dropUnderscores before = []
  · rw [if_pos blank] at dropped ⊢
    simp only [stemWords, stem, dropped]
  · rw [if_neg blank] at dropped ⊢
    simp only [stemWords, stem, dropped, prefix_append_underscore]
    by_cases leads : implementationLead <+: dropUnderscores before
    · rw [if_pos leads, if_pos leads, List.drop_append_of_le_length leads.length_le,
        runs_append_cons not_inWord]
    · rw [if_neg leads, if_neg leads, runs_append_cons not_inWord]

theorem stemWords_repeated (before after : List Char) :
    stemWords (before ++ '_' :: '_' :: after) = stemWords (before ++ '_' :: after) := by
  rw [stemWords_append, stemWords_append, runs_of_not_kind not_inWord]
  rfl

theorem stemWords_trailing (s : List Char) : stemWords (s ++ ['_']) = stemWords s := by
  rw [stemWords_append, runs_nil, List.append_nil]
  split
  · rename_i blank
    simp only [stemWords, stem, blank]
    rfl
  · rfl

end Underscores

section Spellings

/-- The spelling of words with an underscore in front of each. -/
def underscored (words : List (List Char)) : String :=
  "generate" ++ String.ofList (words.flatMap ('_' :: ·))

/-- The spelling of words with a capital at the start of each. -/
def capitalized (words : List (List Char)) : String :=
  "generate" ++ String.ofList (words.flatMap (·.modifyHead Char.toUpper))

theorem toList_underscored (words : List (List Char)) :
    (underscored words).toList = implementationLead ++ words.flatMap ('_' :: ·) := by
  rw [underscored, String.toList_append]
  exact congrArg _ String.toList_ofList

theorem toList_capitalized (words : List (List Char)) :
    (capitalized words).toList =
      implementationLead ++ words.flatMap (·.modifyHead Char.toUpper) := by
  rw [capitalized, String.toList_append]
  exact congrArg _ String.toList_ofList

theorem stem_lead (s : List Char) : stem (implementationLead ++ s) = s := by
  have kept : dropUnderscores (implementationLead ++ s) = implementationLead ++ s := rfl
  rw [stem, kept, if_pos (List.prefix_append _ _), List.drop_left]

theorem inWord_of_isAlpha (letter : c.isAlpha) : inWord c := by
  refine bne_iff_ne.mpr ?_
  rintro rfl
  exact absurd letter (by decide)

theorem runs_underscored (whole : ∀ word ∈ words, word ≠ [] ∧ word.all Char.isAlpha) :
    runs inWord (words.flatMap ('_' :: ·)) = words := by
  induction words with
  | nil => rw [List.flatMap_nil, runs_nil]
  | cons first others ih =>
      obtain ⟨⟨nonempty, letters⟩, further⟩ := List.forall_mem_cons.mp whole
      have all : ∀ c ∈ first, inWord c := fun c member =>
        inWord_of_isAlpha (List.all_eq_true.mp letters c member)
      have rest := ih further
      rw [List.flatMap_cons, List.cons_append, runs_of_not_kind not_inWord]
      cases others with
      | nil => rw [List.flatMap_nil, List.append_nil, runs_of_all all nonempty]
      | cons second others =>
          rw [List.flatMap_cons, List.cons_append, runs_of_not_kind not_inWord] at rest
          rw [List.flatMap_cons, List.cons_append, runs_append_cons not_inWord,
            runs_of_all all nonempty, rest]
          rfl

theorem flatMap_capitalized (whole : ∀ word ∈ words, word ≠ [] ∧ word.all Char.isAlpha) :
    words.flatMap (·.modifyHead Char.toUpper) = words.flatMap upperFirst :=
  List.flatMap_congr fun word listed => (upperFirst_of_letters (whole word listed).2).symm

/-- Words that follow each other without underscores are one word, which starts as the first of them. -/
theorem ofWords_flatMap_upperFirst (whole : ∀ word ∈ words, word ≠ [] ∧ word.all Char.isAlpha) :
    ofWords (runs inWord (words.flatMap upperFirst)) = ofWords words := by
  cases words with
  | nil => rw [List.flatMap_nil, runs_nil]
  | cons first others =>
      obtain ⟨nonempty, letters⟩ := whole first (.head _)
      have capital : upperFirst first ≠ [] := by
        rw [upperFirst_of_letters letters]
        cases first with
        | nil => exact absurd rfl nonempty
        | cons c rest => exact List.cons_ne_nil _ _
      have all : ∀ c ∈ (first :: others).flatMap upperFirst, inWord c := by
        intro c member
        obtain ⟨word, listed, inside⟩ := List.mem_flatMap.mp member
        refine bne_iff_ne.mpr ?_
        rintro rfl
        have free : '_' ∉ word := fun within =>
          absurd (List.all_eq_true.mp (whole word listed).2 '_' within) (by decide)
        exact underscore_not_mem_upperFirst free inside
      have filled : upperFirst first ++ others.flatMap upperFirst ≠ [] :=
        List.append_ne_nil_of_left_ne_nil capital _
      rw [List.flatMap_cons] at all ⊢
      rw [runs_of_all all filled, ofWords, List.flatMap_nil, List.append_nil,
        lowerFirst_append capital, upperFirst_of_letters letters, lowerFirst_capitalized letters,
        ofWords]

end Spellings

/-- An implementation suggests the name that the words between its underscores make up. So the name has
no underscore itself, repeated and trailing ones change nothing, and words of letters may as well be told
apart by capitals. -/
theorem suggested_by_words (implementation : String) :
    ofImplementation implementation = ofWords (stemWords implementation.toList) ∧
      '_' ∉ (ofImplementation implementation).text.toList ∧
      (∀ before after : String,
        ofImplementation (before ++ "__" ++ after) = ofImplementation (before ++ "_" ++ after)) ∧
      ofImplementation (implementation ++ "_") = ofImplementation implementation ∧
      ∀ words : List (List Char), (∀ word ∈ words, word ≠ [] ∧ word.all Char.isAlpha) →
        ofImplementation (underscored words) = ofImplementation (capitalized words) := by
  refine ⟨ofImplementation_eq implementation, ?_, fun before after => ?_, ?_, fun words whole => ?_⟩
  · rw [ofImplementation_eq]
    exact underscore_not_mem_ofWords underscore_not_mem_stemWords
  · have repeated := stemWords_repeated before.toList after.toList
    rw [ofImplementation_eq, ofImplementation_eq]
    simpa [String.toList_append] using congrArg ofWords repeated
  · rw [ofImplementation_eq, ofImplementation_eq, String.toList_append]
    exact congrArg ofWords (stemWords_trailing implementation.toList)
  · rw [ofImplementation_eq, ofImplementation_eq, toList_underscored, toList_capitalized, stemWords,
      stemWords, stem_lead, stem_lead, runs_underscored whole, flatMap_capitalized whole,
      ofWords_flatMap_upperFirst whole]

/-- Both spellings of the words suggest `labelAndName`. -/
theorem suggested_by_words_labelAndName :
    let words := ["label".toList, "and".toList, "name".toList]
    (∀ word ∈ words, word ≠ [] ∧ word.all Char.isAlpha) ∧
      underscored words = "generate_label_and_name" ∧ capitalized words = "generateLabelAndName" ∧
      ofImplementation "generate_label_and_name" = ⟨"labelAndName"⟩ ∧
      ofImplementation "generateLabelAndName" = ⟨"labelAndName"⟩ := by
  intro words
  have whole : ∀ word ∈ words, word ≠ [] ∧ word.all Char.isAlpha := by decide
  have withUnderscores : underscored words = "generate_label_and_name" := by decide +kernel
  have withCapitals : capitalized words = "generateLabelAndName" := by decide +kernel
  have named : ofImplementation "generate_label_and_name" = ⟨"labelAndName"⟩ := by decide +kernel
  obtain ⟨-, -, -, -, alike⟩ := suggested_by_words "generate_label_and_name"
  have same := alike words whole
  rw [withUnderscores, withCapitals, named] at same
  exact ⟨whole, withUnderscores, withCapitals, named, same.symm⟩

end QuantityName
end Narration
