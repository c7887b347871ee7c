namespace BuildWatch.Text

def inRanges : List (Nat × Nat) → Nat → Bool
  | [], _ => false
  | (first, last) :: ranges, n => first ≤ n && (n ≤ last || inRanges ranges n)

theorem inRanges_iff {ranges : List (Nat × Nat)} (h : ranges.Pairwise fun a b => a.1 ≤ b.1)
    {n : Nat} : inRanges ranges n = true ↔ ∃ range ∈ ranges, range.1 ≤ n ∧ n ≤ range.2 := by
  induction ranges with
  | nil => simp [inRanges]
  | cons range ranges ih =>
    obtain ⟨above, rest⟩ := List.pairwise_cons.mp h
    have later : inRanges ranges n = true → range.1 ≤ n := fun found =>
      have ⟨other, mem, le, _⟩ := (ih rest).mp found
      Nat.le_trans (above other mem) le
    simp only [inRanges, Bool.and_eq_true, Bool.or_eq_true, decide_eq_true_eq, ih rest,
      List.mem_cons, exists_eq_or_imp]
    constructor
    · rintro ⟨le, within | found⟩
      · exact .inl ⟨le, within⟩
      · exact .inr found
    · rintro (⟨le, within⟩ | found)
      · exact ⟨le, .inl within⟩
      · exact ⟨later ((ih rest).mpr found), .inr found⟩

end BuildWatch.Text
