import Monkey.Proofs.Concatenation

/-
  Reading over and over from one cursor. `Cursor.readings` are the first so many readings and
  `Cursor.after` is the cursor behind them. The readings are the lexemes and then the end of the
  input for ever (`readings_eq`). While there are lexemes left, the text that is passed has just
  the tokens that are read, and its last character belongs to the last of them (`exists_passed`).
  Once the end is read, nothing is left (`rest_after_of_lt`). So the cursor behind some readings
  tells how many lexemes they had, and whether the end was among them (`rest_after_eq_nil_iff`).
-/

namespace Monkey

namespace Cursor

/-- The cursor behind the first `n` readings. -/
def after : Nat → Cursor → Cursor
  | 0, c => c
  | n + 1, c => c.read.2.after n

/-- The first `n` readings. -/
def readings : Nat → Cursor → List Reading
  | 0, _ => []
  | n + 1, c => c.read.1 :: c.read.2.readings n

@[simp]
theorem length_readings (n : Nat) (c : Cursor) : (c.readings n).length = n := by
  induction n generalizing c with
  | zero => rfl
  | succ n ih => rw [readings, List.length_cons, ih]

theorem after_add (m n : Nat) (c : Cursor) : c.after (m + n) = (c.after m).after n := by
  induction m generalizing c with
  | zero => rw [Nat.zero_add, after]
  | succ m ih => rw [Nat.succ_add, after, after, ih]

theorem readings_add (m n : Nat) (c : Cursor) :
    c.readings (m + n) = c.readings m ++ (c.after m).readings n := by
  induction m generalizing c with
  | zero => rw [Nat.zero_add, readings, after, List.nil_append]
  | succ m ih => rw [Nat.succ_add, readings, readings, after, ih, List.cons_append]

/-! ### One reading, by what lies ahead -/

theorem read_of_lexemes_eq_nil {c : Cursor} (h : c.lexemes = []) :
    c.read.1 = .endOfInput ∧ c.read.2.rest = [] := by
  obtain ⟨n, s⟩ := c
  rcases blank_or_lexeme s with hs | ⟨gap, w, rest, k, rfl, hgap, hk⟩
  · rw [read_blank n hs]
    exact ⟨rfl, rfl⟩
  · rw [lexemes_lexeme n hgap hk] at h
    exact absurd h (by simp)

theorem read_of_lexemes_eq_cons {c : Cursor} {l : Lexeme} {ls : List Lexeme}
    (h : c.lexemes = l :: ls) : c.read.1 = .lexeme l ∧ c.read.2.lexemes = ls := by
  rcases hread : c.read with ⟨r, c'⟩
  cases r with
  | lexeme l' =>
    rw [lexemes_of_read_lexeme hread] at h
    obtain ⟨rfl, rfl⟩ := List.cons.inj h
    exact ⟨rfl, rfl⟩
  | endOfInput =>
    rw [lexemes_of_read_endOfInput hread] at h
    exact absurd h (by simp)

theorem lexemes_of_rest_eq_nil {c : Cursor} (h : c.rest = []) : c.lexemes = [] := by
  obtain ⟨n, s⟩ := c
  obtain rfl : s = [] := h
  exact lexemes_blank n (by simp)

/-- The end of the input is read exactly if no lexeme is left. -/
theorem read_eq_endOfInput_iff (c : Cursor) : c.read.1 = .endOfInput ↔ c.lexemes = [] := by
  constructor
  · intro h
    have hread : c.read = (.endOfInput, c.read.2) := by rw [← h]
    exact lexemes_of_read_endOfInput hread
  · intro h
    exact (read_of_lexemes_eq_nil h).1

/-- Each lexeme has at least one of the characters ahead. -/
theorem length_lexemes_le (c : Cursor) : c.lexemes.length ≤ c.rest.length := by
  obtain ⟨n, s⟩ := c
  show (lexemes ⟨n, s⟩).length ≤ s.length
  induction s using lexemeInduction generalizing n with
  | blank gap hgap =>
    rw [lexemes_blank n hgap]
    exact Nat.zero_le _
  | lexeme gap w rest k hgap hk ih =>
    have hpos : 0 < w.length := List.length_pos_iff.2 hk.spells.ne_nil
    have hrest := ih (n + gap.length + w.length)
    rw [lexemes_lexeme n hgap hk, List.length_cons, List.length_append, List.length_append]
    omega

/-! ### All readings -/

theorem rest_after_of_rest_eq_nil {c : Cursor} (h : c.rest = []) (n : Nat) :
    (c.after n).rest = [] := by
  induction n generalizing c with
  | zero => exact h
  | succ n ih => exact ih (read_of_lexemes_eq_nil (lexemes_of_rest_eq_nil h)).2

theorem readings_of_lexemes_eq_nil {c : Cursor} (h : c.lexemes = []) (n : Nat) :
    c.readings n = List.replicate n .endOfInput := by
  induction n generalizing c with
  | zero => rfl
  | succ n ih =>
    obtain ⟨hend, hrest⟩ := read_of_lexemes_eq_nil h
    rw [readings, hend, ih (lexemes_of_rest_eq_nil hrest), List.replicate_succ]

theorem lexemes_after (n : Nat) (c : Cursor) : (c.after n).lexemes = c.lexemes.drop n := by
  induction n generalizing c with
  | zero => rfl
  | succ n ih =>
    rw [after, ih]
    rcases hls : c.lexemes with _ | ⟨l, ls⟩
    · rw [lexemes_of_rest_eq_nil (read_of_lexemes_eq_nil hls).2, List.drop_nil, List.drop_nil]
    · rw [(read_of_lexemes_eq_cons hls).2, List.drop_succ_cons]

theorem tokensOf_rest_after (n : Nat) (c : Cursor) :
    tokensOf (c.after n).rest = (c.lexemes.drop n).map Lexeme.token := by
  rw [← lexemes_after]
  exact tokensOf_eq (c.after n).position _

/-- The lexemes are read in their order, and then the end of the input again and again. -/
theorem readings_eq (n : Nat) (c : Cursor) :
    c.readings n = (c.lexemes.take n).map .lexeme ++
      List.replicate (n - c.lexemes.length) .endOfInput := by
  induction n generalizing c with
  | zero => simp [readings]
  | succ n ih =>
    rcases hls : c.lexemes with _ | ⟨l, ls⟩
    · rw [readings_of_lexemes_eq_nil hls]
      simp
    · obtain ⟨hlexeme, hlater⟩ := read_of_lexemes_eq_cons hls
      rw [readings, ih, hlexeme, hlater, List.take_succ_cons, List.length_cons,
        Nat.add_sub_add_right]
      rfl

theorem rest_after_of_lt {c : Cursor} {n : Nat} (h : c.lexemes.length < n) :
    (c.after n).rest = [] := by
  induction n generalizing c with
  | zero => exact absurd h (Nat.not_lt_zero _)
  | succ n ih =>
    rcases hls : c.lexemes with _ | ⟨l, ls⟩
    · exact rest_after_of_rest_eq_nil (read_of_lexemes_eq_nil hls).2 n
    · rw [hls, List.length_cons] at h
      refine ih ?_
      rw [(read_of_lexemes_eq_cons hls).2]
      omega

/-! ### What is passed -/

/-- The tokens that are read while lexemes are left are the tokens of the text that is passed. -/
theorem exists_passed {c : Cursor} {n : Nat} (hn : n ≤ c.lexemes.length) :
    ∃ text, c.rest = text ++ (c.after n).rest ∧
      (c.after n).position = c.position + text.length ∧
      tokensOf text = (c.lexemes.take n).map Lexeme.token ∧
      ∀ a ∈ text.getLast?, isSpace a = false := by
  induction n generalizing c with
  | zero => exact ⟨[], rfl, rfl, tokensOf_nil, by simp⟩
  | succ n ih =>
    obtain ⟨p, s⟩ := c
    rcases blank_or_lexeme s with hs | ⟨gap, w, rest, k, rfl, hgap, hk⟩
    · rw [lexemes_blank p hs] at hn
      exact absurd hn (Nat.not_succ_le_zero n)
    · rw [lexemes_lexeme p hgap hk, List.length_cons] at hn
      obtain ⟨text, hrest, hposition, htokens, hlast⟩ := ih (Nat.le_of_succ_le_succ hn)
      have hread := read_lexeme p hgap hk
      -- the lexeme is still the longest one if the source ends behind what is passed
      have hk' : LongestLexeme k w (w ++ text) := by
        refine ⟨hk.spells, List.prefix_append _ _, fun j v hj hv => hk.longest j v hj ?_⟩
        rw [show rest = text ++ _ from hrest, ← List.append_assoc]
        exact hv.trans (List.prefix_append _ _)
      refine ⟨gap ++ (w ++ text), ?_, ?_, ?_, ?_⟩
      · rw [after, hread, List.append_assoc, List.append_assoc, ← hrest]
      · rw [after, hread, hposition]
        simp only [List.length_append]
        omega
      · rw [tokensOf_lexeme hgap hk', lexemes_lexeme p hgap hk, List.take_succ_cons,
          List.map_cons, htokens]
      · obtain ⟨b, hb, hadmits⟩ := hk.spells.getLast?_append gap
        intro a ha
        rw [← List.append_assoc, List.getLast?_append, hb] at ha
        rcases htext : text.getLast? with _ | d
        · rw [htext, Option.none_or, Option.mem_some_iff] at ha
          rw [← ha]
          exact Kind.not_isSpace_of_admits hadmits
        · rw [htext, Option.some_or] at ha
          exact hlast a (htext ▸ ha)

/-- Nothing is left exactly if all lexemes are read, and if a blank end of the text, where there
    is one, has been passed by reading the end of the input. -/
theorem rest_after_eq_nil_iff (c : Cursor) (n : Nat) :
    (c.after n).rest = [] ↔ c.lexemes.length ≤ n ∧
      ((∀ a ∈ c.rest.getLast?, isSpace a = false) ∨ c.lexemes.length < n) := by
  rcases Nat.lt_or_ge c.lexemes.length n with hlt | hge
  · simp only [rest_after_of_lt hlt, hlt, Nat.le_of_lt hlt, or_true, and_self]
  · obtain ⟨text, hrest, -, -, hlast⟩ := exists_passed hge
    have hdrop := lexemes_after n c
    have hnot : ¬ c.lexemes.length < n := Nat.not_lt.2 hge
    constructor
    · intro hnil
      rw [lexemes_of_rest_eq_nil hnil] at hdrop
      refine ⟨List.drop_eq_nil_iff.1 hdrop.symm, Or.inl ?_⟩
      rw [hrest, hnil, List.append_nil]
      exact hlast
    · rintro ⟨hle, hends | hlt⟩
      · rw [List.drop_eq_nil_of_le hle] at hdrop
        refine Classical.byContradiction fun hne => ?_
        -- what is left is blank, so it cannot have the last character
        have hblank : ∀ b ∈ (c.after n).rest, isSpace b = true := by
          rw [← tokensOf_eq_nil_iff, tokensOf_eq (c.after n).position, ← List.map_nil, ← hdrop]
        have hend := hends _ (by
          rw [hrest, List.getLast?_append, List.getLast?_eq_some_getLast hne]
          exact Option.mem_some_self _)
        rw [hblank _ (List.getLast_mem hne)] at hend
        exact absurd hend (by simp)
      · exact absurd hlt hnot

end Cursor

end Monkey
