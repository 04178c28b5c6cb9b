/-
  Tables of code points, as closed ranges in ascending order.
  `contains` gives up at the first range that begins beyond the code point it looks for;
  on an ascending table that is membership in one of the ranges (`contains_iff`).
-/

namespace Monkey.Unicode

/-- Closed ranges of code points, each a first and a last one. -/
abbrev Ranges := List (Nat × Nat)

namespace Ranges

/-- Looks for a code point, up to the first range that begins beyond it. -/
def contains : Ranges → Nat → Bool
  | [], _ => false
  | (first, last) :: rest, n =>
    decide (first ≤ n) && (decide (n ≤ last) || contains rest n)

/-- No range is empty, none begins below `floor`, and each begins after the end of the last. -/
def ascendingFrom (floor : Nat) : Ranges → Bool
  | [] => true
  | (first, last) :: rest =>
    decide (floor ≤ first) && decide (first ≤ last) && ascendingFrom (last + 1) rest

theorem le_of_mem {rs : Ranges} {floor : Nat} (h : rs.ascendingFrom floor = true)
    {r : Nat × Nat} (hr : r ∈ rs) : floor ≤ r.1 := by
  induction rs generalizing floor with
  | nil => simp at hr
  | cons s rest ih =>
    simp only [ascendingFrom, Bool.and_eq_true, decide_eq_true_eq] at h
    rcases List.mem_cons.1 hr with rfl | hr
    · exact h.1.1
    · have := ih h.2 hr; omega

/-- On an ascending table, looking up is membership in one of the ranges. -/
theorem contains_iff {rs : Ranges} {floor : Nat} (h : rs.ascendingFrom floor = true) (n : Nat) :
    rs.contains n = true ↔ ∃ r ∈ rs, r.1 ≤ n ∧ n ≤ r.2 := by
  induction rs generalizing floor with
  | nil => simp [contains]
  | cons s rest ih =>
    simp only [ascendingFrom, Bool.and_eq_true, decide_eq_true_eq] at h
    have hrest := ih h.2
    simp only [contains, Bool.and_eq_true, Bool.or_eq_true, decide_eq_true_eq, hrest,
      List.mem_cons, exists_eq_or_imp]
    constructor
    · rintro ⟨h1, h2 | h2⟩
      · exact Or.inl ⟨h1, h2⟩
      · exact Or.inr h2
    · rintro (h1 | ⟨r, hr, h1⟩)
      · exact ⟨h1.1, Or.inl h1.2⟩
      · have := le_of_mem h.2 hr
        exact ⟨by omega, Or.inr ⟨r, hr, h1⟩⟩

end Ranges

end Monkey.Unicode
