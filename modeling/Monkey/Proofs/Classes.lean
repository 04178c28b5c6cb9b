import Monkey.CharClass

/-
  The classes of characters and the tables of Unicode. A class is looked up in a fixed order, but
  no character stands in two of the tables, and no operator stands in any of them. So the order
  does not matter: white space, letters and digits are what their tables say
  (`isSpace_eq_contains`, `isLetter_eq_contains`, `isDigit_eq_contains`).
-/

namespace Monkey

namespace Unicode

namespace Ranges

/-- No range of the one ascending table meets a range of the other. -/
def apart : Ranges → Ranges → Bool
  | [], _ => true
  | r :: rs, ss =>
    match ss.dropWhile fun s => decide (s.2 < r.1) with
    | [] => true
    | s :: later => decide (r.2 < s.1) && apart rs (s :: later)

theorem ascendingFrom_dropWhile (p : Nat × Nat → Bool) {ss : Ranges} {floor : Nat}
    (h : ss.ascendingFrom floor = true) :
    ∃ floor, ascendingFrom floor (ss.dropWhile p) = true := by
  induction ss generalizing floor with
  | nil => exact ⟨floor, h⟩
  | cons s ss ih =>
    rw [List.dropWhile_cons]
    split
    · simp only [ascendingFrom, Bool.and_eq_true] at h
      exact ih h.2
    · exact ⟨floor, h⟩

theorem first_le_of_mem {r s : Nat × Nat} {rs : Ranges} {floor : Nat}
    (h : ascendingFrom floor (r :: rs) = true) (hs : s ∈ r :: rs) : r.1 ≤ s.1 := by
  simp only [ascendingFrom, Bool.and_eq_true, decide_eq_true_eq] at h
  rcases List.mem_cons.1 hs with rfl | hs
  · exact Nat.le_refl _
  · have := le_of_mem h.2 hs
    omega

theorem not_meet_of_apart {rs ss : Ranges} {f g : Nat} (hrs : rs.ascendingFrom f = true)
    (hss : ss.ascendingFrom g = true) (hapart : rs.apart ss = true) {r s : Nat × Nat} (hr : r ∈ rs)
    (hs : s ∈ ss) : r.2 < s.1 ∨ s.2 < r.1 := by
  induction rs generalizing ss f g with
  | nil => exact absurd hr (by simp)
  | cons a rs ih =>
    have ha : a.1 ≤ r.1 := first_le_of_mem hrs hr
    rw [← List.takeWhile_append_dropWhile (p := fun s => decide (s.2 < a.1)) (l := ss),
      List.mem_append] at hs
    rcases hs with hs | hs
    · -- the ranges that are passed end before `a` begins
      have hlt : s.2 < a.1 := by
        simpa using List.all_eq_true.1 List.all_takeWhile s hs
      omega
    · obtain ⟨floor, hasc⟩ := ascendingFrom_dropWhile (fun s => decide (s.2 < a.1)) hss
      rw [apart] at hapart
      rcases hdrop : ss.dropWhile (fun s => decide (s.2 < a.1)) with _ | ⟨b, later⟩
      · rw [hdrop] at hs
        exact absurd hs (by simp)
      · rw [hdrop] at hs hasc hapart
        simp only [Bool.and_eq_true, decide_eq_true_eq] at hapart
        have hb : b.1 ≤ s.1 := first_le_of_mem hasc hs
        rcases List.mem_cons.1 hr with rfl | hr
        · omega
        · simp only [ascendingFrom, Bool.and_eq_true] at hrs
          exact ih hrs.2 hasc hapart.2 hr hs

/-- A code point stands in one at most of two tables that are apart. -/
theorem contains_eq_false_of_apart {rs ss : Ranges} {f g : Nat} (hrs : rs.ascendingFrom f = true)
    (hss : ss.ascendingFrom g = true) (hapart : rs.apart ss = true) {n : Nat}
    (hn : rs.contains n = true) : ss.contains n = false := by
  rw [Bool.eq_false_iff]
  intro hn'
  obtain ⟨r, hr, hr1, hr2⟩ := (contains_iff hrs n).1 hn
  obtain ⟨s, hs, hs1, hs2⟩ := (contains_iff hss n).1 hn'
  have := not_meet_of_apart hrs hss hapart hr hs
  omega

end Ranges

theorem blanks_apart_letters : blanks.apart letters = true := by decide +kernel

theorem blanks_apart_digits : blanks.apart digits = true := by decide +kernel

theorem letters_apart_digits : letters.apart digits = true := by decide +kernel

end Unicode

open Unicode

/-- An operator is neither white space nor a letter nor a digit by the tables. -/
theorem Operator.not_contains {o : Operator} {c : Char} (h : ofChar? c = some o) :
    blanks.contains c.toNat = false ∧ letters.contains c.toNat = false ∧
      digits.contains c.toNat = false := by
  have hall : (o.spelling.toList.all fun c => !blanks.contains c.toNat &&
      !letters.contains c.toNat && !digits.contains c.toNat) = true := by
    cases o <;> decide
  rw [ofChar?_eq_some_iff.1 h] at hall
  simpa [and_assoc] using hall

theorem isSpace_eq_contains (c : Char) : isSpace c = blanks.contains c.toNat := by
  unfold isSpace CharClass.of
  rcases ho : Operator.ofChar? c with _ | o
  · cases blanks.contains c.toNat <;> cases letters.contains c.toNat <;>
      cases digits.contains c.toNat <;> rfl
  · rw [(Operator.not_contains ho).1]
    rfl

theorem isLetter_eq_contains (c : Char) : isLetter c = letters.contains c.toNat := by
  unfold isLetter CharClass.of
  rcases ho : Operator.ofChar? c with _ | o
  · by_cases hblank : blanks.contains c.toNat = true
    · -- no letter is white space
      rw [Ranges.contains_eq_false_of_apart blanks_ascending letters_ascending blanks_apart_letters
        hblank]
      simp [hblank]
    · cases letters.contains c.toNat <;> cases digits.contains c.toNat <;> simp [hblank]
  · rw [(Operator.not_contains ho).2.1]
    rfl

theorem isDigit_eq_contains (c : Char) : isDigit c = digits.contains c.toNat := by
  unfold isDigit CharClass.of
  rcases ho : Operator.ofChar? c with _ | o
  · by_cases hblank : blanks.contains c.toNat = true
    · rw [Ranges.contains_eq_false_of_apart blanks_ascending digits_ascending blanks_apart_digits
        hblank]
      simp [hblank]
    · by_cases hletter : letters.contains c.toNat = true
      · rw [Ranges.contains_eq_false_of_apart letters_ascending digits_ascending
          letters_apart_digits hletter]
        simp [hblank, hletter]
      · cases digits.contains c.toNat <;> simp [hblank, hletter]
  · rw [(Operator.not_contains ho).2.2]
    rfl

end Monkey
