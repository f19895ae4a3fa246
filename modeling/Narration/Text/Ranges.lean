/-! Sets of characters given by ascending code point ranges. -/
namespace Narration.Text

/-- Whether the code point of `c` lies in one of `ranges`, both ends included. -/
def inRanges (ranges : List (Nat × Nat)) (c : Char) : Bool :=
  ranges.any fun range => range.1 ≤ c.toNat && c.toNat ≤ range.2

theorem inRanges_eq_false_of_apart {ranges others : List (Nat × Nat)}
    (apart : ranges.all fun range => others.all fun other =>
      decide (range.2 < other.1) || decide (other.2 < range.1))
    {c : Char} (inside : inRanges ranges c) : inRanges others c = false := by
  obtain ⟨range, member, low⟩ := List.any_eq_true.mp inside
  rw [inRanges, List.any_eq_false]
  intro other inOthers both
  have distinct := List.all_eq_true.mp (List.all_eq_true.mp apart range member) other inOthers
  simp only [Bool.and_eq_true, Bool.or_eq_true, decide_eq_true_eq] at low both distinct
  omega

end Narration.Text
