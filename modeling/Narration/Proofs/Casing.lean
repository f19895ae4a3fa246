import Narration.Text.Alphanumeric
import Narration.Text.Case
/-! What lowering makes of a letter: a letter again, which stays as it is when it is lowered once more.
The only exception is the dotted capital `İ`, which becomes an `i` and a combining dot. -/
namespace Narration.Text

namespace CaseRun

variable {run other : CaseRun} {code : Nat}

def image (run : CaseRun) (code : Nat) : Nat := (code + run.shift).toNat

theorem map?_eq_some {result : Nat} :
    run.map? code = some result ↔
      run.first ≤ code ∧ code ≤ run.last ∧ (code - run.first) % run.stride = 0 ∧
        run.image code = result := by
  simp [map?, image, and_assoc]

/-- Whether no image of `run` is mapped by `other`: the images lie outside, or between its characters. -/
def misses (run other : CaseRun) : Bool :=
  (run.image run.last).blt other.first || other.last.blt (run.image run.first) ||
    (other.stride == 2 && (run.stride == 2 || run.first == run.last) &&
      (run.image run.first - other.first) % 2 == 1)

theorem image_bounds (low : run.first ≤ code) (high : code ≤ run.last) :
    run.image run.first ≤ run.image code ∧ run.image code ≤ run.image run.last := by
  simp only [image]
  omega

theorem map?_of_misses (apart : run.misses other) {result : Nat} (mapped : run.map? code = some result) :
    other.map? result = none := by
  obtain ⟨low, high, step, rfl⟩ := map?_eq_some.mp mapped
  obtain ⟨above, below⟩ := image_bounds low high
  rw [Option.eq_none_iff_forall_ne_some]
  intro again both
  obtain ⟨lowest, highest, aligned, -⟩ := map?_eq_some.mp both
  simp only [misses, Bool.or_eq_true, Bool.and_eq_true, beq_iff_eq, Nat.blt_eq] at apart
  rcases apart with (outside | outside) | ⟨⟨two, strided⟩, odd⟩
  · omega
  · omega
  · rw [two] at aligned
    have even : (code - run.first) % 2 = 0 := by
      rcases strided with two | single
      · rwa [two] at step
      · omega
    simp only [image] at odd aligned
    omega

end CaseRun

/-- The code points between which a run of lower case letters lies. -/
def lowerImages : List (Nat × Nat) :=
  lowerRuns.map fun run => (run.image run.first, run.image run.last)

theorem lowerImages_alphabetic : lowerImages.all fun images => alphabeticRanges.any fun range =>
    range.1.ble images.1 && images.2.ble range.2 := by decide +kernel

theorem lowerRuns_misses : lowerRuns.all fun run => lowerRuns.all run.misses := by decide +kernel

theorem alphabeticRanges_valid : alphabeticRanges.all fun range =>
    range.2.blt 0xD800 || (Nat.blt 0xDFFF range.1 && range.2.blt 0x110000) := by decide +kernel

theorem lowerImages_plain : lowerImages.all fun images =>
    images.2.blt 0x130 || Nat.blt 0x130 images.1 := by decide +kernel

/-- The characters that are lowered by one of the runs. -/
def Lowers (c d : Char) : Prop := ∃ run ∈ lowerRuns, run.map? c.toNat = some d.toNat

section Lowering

variable {c d : Char}

theorem exists_range_of_image {run : CaseRun} (listed : run ∈ lowerRuns) {code result : Nat}
    (mapped : run.map? code = some result) :
    ∃ range ∈ alphabeticRanges, range.1 ≤ result ∧ result ≤ range.2 := by
  obtain ⟨low, high, -, rfl⟩ := CaseRun.map?_eq_some.mp mapped
  obtain ⟨above, below⟩ := CaseRun.image_bounds low high
  have inside := List.all_eq_true.mp lowerImages_alphabetic _ (List.mem_map_of_mem listed)
  obtain ⟨range, member, within⟩ := List.any_eq_true.mp inside
  simp only [Bool.and_eq_true, Nat.ble_eq] at within
  exact ⟨range, member, by omega, by omega⟩

theorem toNat_ofNat_of_range {range : Nat × Nat} (member : range ∈ alphabeticRanges) {code : Nat}
    (low : range.1 ≤ code) (high : code ≤ range.2) : (Char.ofNat code).toNat = code := by
  have valid := List.all_eq_true.mp alphabeticRanges_valid range member
  simp only [Bool.or_eq_true, Bool.and_eq_true, Nat.blt_eq] at valid
  have isValid : code.isValidChar := by
    simp only [Nat.isValidChar]
    omega
  rw [Char.ofNat, dif_pos isValid]
  rfl

/-- A character other than `İ` is lowered by one of the runs, or stays as it is. -/
theorem lowerChar_cases (plain : c ≠ 'İ') :
    ∃ d, lowerChar c = [d] ∧
      (Lowers c d ∨ d = c ∧ ∀ run ∈ lowerRuns, run.map? c.toNat = none) := by
  have single : lowerExpansions.lookup c.toNat = none := by
    have differs : (c.toNat == 0x130) = false :=
      beq_false_of_ne fun same => plain (Char.ext (UInt32.toNat_inj.mp same))
    rw [lowerExpansions, List.lookup_cons, differs]
    rfl
  cases found : lowerRuns.findSome? (·.map? c.toNat) with
  | none =>
      refine ⟨c, ?_, .inr ⟨rfl, List.findSome?_eq_none_iff.mp found⟩⟩
      simp only [lowerChar, mapCase, single, found, Option.map_none, Option.getD_none]
  | some result =>
      obtain ⟨run, listed, mapped⟩ := List.exists_of_findSome?_eq_some found
      obtain ⟨range, member, low, high⟩ := exists_range_of_image listed mapped
      have same := toNat_ofNat_of_range member low high
      refine ⟨Char.ofNat result, ?_, .inl ⟨run, listed, by rw [same]; exact mapped⟩⟩
      simp only [lowerChar, mapCase, single, found, Option.map_some, Option.getD_some]

theorem Lowers.isAlphabetic (lowers : Lowers c d) : isAlphabetic d := by
  obtain ⟨run, listed, mapped⟩ := lowers
  obtain ⟨range, member, low, high⟩ := exists_range_of_image listed mapped
  exact List.any_eq_true.mpr ⟨range, member, by simp [low, high]⟩

/-- What was lowered is not lowered again. -/
theorem Lowers.unmapped (lowers : Lowers c d) :
    d ≠ 'İ' ∧ ∀ run ∈ lowerRuns, run.map? d.toNat = none := by
  obtain ⟨run, listed, mapped⟩ := lowers
  constructor
  · rintro rfl
    obtain ⟨low, high, -, same⟩ := CaseRun.map?_eq_some.mp mapped
    obtain ⟨above, below⟩ := CaseRun.image_bounds low high
    have outside := List.all_eq_true.mp lowerImages_plain _ (List.mem_map_of_mem listed)
    simp only [Bool.or_eq_true, Nat.blt_eq] at outside
    have dotted : 'İ'.toNat = 0x130 := rfl
    omega
  · intro other also
    have apart := List.all_eq_true.mp (List.all_eq_true.mp lowerRuns_misses run listed) other also
    exact CaseRun.map?_of_misses apart mapped

theorem lowerChar_of_unmapped (plain : c ≠ 'İ')
    (unmapped : ∀ run ∈ lowerRuns, run.map? c.toNat = none) : lowerChar c = [c] := by
  obtain ⟨d, lowered, ⟨run, listed, mapped⟩ | ⟨rfl, -⟩⟩ := lowerChar_cases plain
  · rw [unmapped run listed] at mapped
    cases mapped
  · exact lowered

/-- Lowering gives one character, which is its own lower case; it is a letter, or was there before. -/
theorem lowerChar_stable (plain : c ≠ 'İ') :
    ∃ d, lowerChar c = [d] ∧ lowerChar d = [d] ∧ (isAlphabetic d ∨ d = c) := by
  obtain ⟨d, lowered, lowers | ⟨rfl, unmapped⟩⟩ := lowerChar_cases plain
  · obtain ⟨plain, unmapped⟩ := lowers.unmapped
    exact ⟨d, lowered, lowerChar_of_unmapped plain unmapped, .inl lowers.isAlphabetic⟩
  · exact ⟨d, lowered, lowered, .inr rfl⟩

/-- The runs that reach a letter at which a keyword begins: `A` to `Z` only. -/
theorem lowerRuns_latin : lowerRuns.all fun run =>
    (run.first == 0x41 && run.shift == 32) ||
      ['a', 'o', 'p'].all fun d =>
        d.toNat.blt (run.image run.first) || (run.image run.last).blt d.toNat := by decide +kernel

/-- Only its capital is lowered to a letter at which a keyword begins. -/
theorem eq_or_eq_of_lowerChar (lowered : lowerChar c = [d]) (among : d ∈ ['a', 'o', 'p']) :
    c = d ∨ c.toNat + 32 = d.toNat := by
  by_cases plain : c = 'İ'
  · rw [plain] at lowered
    cases lowered
  obtain ⟨other, same, ⟨run, listed, mapped⟩ | ⟨rfl, -⟩⟩ := lowerChar_cases plain
  · cases lowered.symm.trans same
    obtain ⟨low, high, -, image⟩ := CaseRun.map?_eq_some.mp mapped
    obtain ⟨above, below⟩ := CaseRun.image_bounds low high
    have reaches := List.all_eq_true.mp lowerRuns_latin run listed
    rcases Bool.or_eq_true_iff.mp reaches with latin | outside
    · simp only [Bool.and_eq_true, beq_iff_eq] at latin
      rw [CaseRun.image, latin.2] at image
      right
      omega
    · have outside := List.all_eq_true.mp outside d among
      simp only [Bool.or_eq_true, Nat.blt_eq] at outside
      omega
  · cases lowered.symm.trans same
    exact .inl rfl

end Lowering

end Narration.Text
