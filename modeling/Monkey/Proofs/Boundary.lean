import Monkey.Grammar

/-
  Where a lexeme ends. `Kind.continuedBy` names the characters that make a text of a kind the
  beginning of a longer one. The main statement is `longestLexeme_append_iff`: the text of a kind
  is the longest lexeme at the beginning of a source exactly if the character behind it is not
  such a one. So no more than one character has to be looked at beyond a lexeme, however long the
  texts are that might have begun there.
-/

namespace Monkey

namespace Operator

theorem length_spelling (o : Operator) :
    o.spelling.toList.length = 1 ∨ o = equal ∨ o = notEqual := by
  cases o <;> decide

/-- Only an equals sign makes an operator the beginning of another one. -/
theorem withEquals?_of_spelling_append {o p : Operator} {c : Char} {v : List Char}
    (h : p.spelling.toList = o.spelling.toList ++ c :: v) : o.withEquals? = some p ∧ c = '=' := by
  have hpos : 0 < o.spelling.toList.length := List.length_pos_iff.2 o.spelling_ne_nil
  have hlen : p.spelling.toList.length = o.spelling.toList.length + (v.length + 1) := by
    rw [h, List.length_append, List.length_cons]
  -- `p` has two characters at least, and both operators that have as many end with the sign
  have hlast : p.spelling.toList.length = 2 ∧ p.spelling.toList.getLast? = some '=' := by
    rcases p.length_spelling with hp | rfl | rfl
    · omega
    · decide
    · decide
  obtain rfl : v = [] := List.length_eq_zero_iff.1 (by omega)
  obtain rfl : c = '=' := by simpa [h] using hlast.2
  exact ⟨withEquals?_eq_some_iff.2 h, rfl⟩

end Operator

namespace Kind

/-- Whether this character, behind a text of the kind, makes it the beginning of a longer text. -/
def continuedBy : Kind → Char → Bool
  | identifier, c => isLetter c
  | keyword _, c => isLetter c
  | integer, c => isDigit c
  | operator o, c => o.withEquals?.isSome && c == '='
  | illegal, _ => false
  | endOfInput, _ => false

theorem continuedBy_iff {k : Kind} {c : Char} :
    k.continuedBy c = true ↔
      (k.isWord = true ∧ isLetter c = true) ∨ (k = integer ∧ isDigit c = true) ∨
        ((k = operator .assign ∨ k = operator .bang) ∧ c = '=') := by
  cases k with
  | operator o => cases o <;> simp [continuedBy, isWord, Operator.withEquals?]
  | _ => simp [continuedBy, isWord]

theorem continuedBy_of_isWord {k : Kind} (h : k.isWord = true) (c : Char) :
    k.continuedBy c = isLetter c := by
  cases k <;> simp_all [isWord, continuedBy]

theorem admits_of_isWord {k : Kind} (h : k.isWord = true) (c : Char) :
    k.admits c = isLetter c := by
  cases k <;> simp_all [isWord, admits]

theorem isWord_iff_of_admits {k : Kind} {c : Char} (h : k.admits c = true) :
    k.isWord = true ↔ isLetter c = true := by
  cases k <;>
    simp_all [admits, isWord, isLetter_iff, isDigit_iff, isForeign_iff, isOperator_iff]
  next => obtain ⟨o, ho⟩ := h; simp [ho]

theorem eq_integer_iff_of_admits {k : Kind} {c : Char} (h : k.admits c = true) :
    k = integer ↔ isDigit c = true := by
  cases k <;>
    simp_all [admits, isLetter_iff, isDigit_iff, isForeign_iff, isOperator_iff]
  next => obtain ⟨o, ho⟩ := h; simp [ho]

/-- No kind has white space in its texts. -/
theorem not_isSpace_of_admits {k : Kind} {c : Char} (h : k.admits c = true) :
    isSpace c = false := by
  rw [Bool.eq_false_iff, ne_eq, isSpace_iff]
  intro hs
  cases k <;> simp [admits, isLetter_iff, isDigit_iff, isForeign_iff, isOperator_iff, hs] at h

/-- White space ends every text. -/
theorem continuedBy_of_isSpace {c : Char} (h : isSpace c = true) (k : Kind) :
    k.continuedBy c = false := by
  rw [isSpace_iff] at h
  cases k with
  | operator o =>
    have hne : c ≠ '=' := by
      intro hc
      rw [hc] at h
      exact absurd h (by decide)
    simp [continuedBy, hne]
  | _ => simp [continuedBy, isLetter, isDigit, h]

theorem Spells.head_not_space {k : Kind} {w : List Char} (h : k.Spells w) (rest : List Char) :
    ∀ c ∈ (w ++ rest).head?, isSpace c = false := by
  obtain ⟨a, u, rfl⟩ := List.exists_cons_of_ne_nil h.ne_nil
  intro c hc
  obtain rfl : a = c := by simpa using hc
  exact not_isSpace_of_admits (h.admits a (by simp))

/-- Letters spell the kind that is looked up for them. -/
theorem spells_ofWord {w : List Char} (hne : w ≠ []) (hw : ∀ c ∈ w, isLetter c = true) :
    (ofWord (String.ofList w)).Spells w := by
  unfold ofWord
  split
  · next k hk =>
    have := Keyword.ofWord?_eq_some_iff.1 hk
    simp [Spells, this]
  · next hk => exact ⟨hne, hw, hk⟩

/-- A longer text goes on with a character that continues the shorter one. -/
theorem Spells.continuedBy {j k : Kind} {w v : List Char} {c : Char} (hk : k.Spells w)
    (hj : j.Spells (w ++ c :: v)) : k.continuedBy c = true := by
  have hc : j.admits c = true := hj.admits c (by simp)
  obtain ⟨b, hb⟩ := List.exists_mem_of_ne_nil w hk.ne_nil
  have hjb : j.admits b = true := hj.admits b (by simp [hb])
  rcases eq_or_word_or_operator_of_admits (hk.admits b hb) hjb with
    rfl | ⟨hwk, hwj⟩ | ⟨o, p, rfl, rfl⟩
  · cases k with
    | endOfInput => exact hk.elim
    | illegal =>
      obtain ⟨a, _, ha⟩ := hj
      exact absurd (congrArg List.length ha) (by
        have := List.length_pos_iff.2 hk.ne_nil
        simp only [List.length_append, List.length_cons, List.length_nil]
        omega)
    | identifier => exact hc
    | integer => exact hc
    | keyword k => exact hc
    | operator o => exact absurd (hj.trans hk.symm) (by simp)
  · rw [continuedBy_of_isWord hwk, ← admits_of_isWord hwj]
    exact hc
  · obtain ⟨hp, rfl⟩ := Operator.withEquals?_of_spelling_append (hj.symm.trans (by rw [hk]))
    simp [Kind.continuedBy, hp]

/-- Behind a text, a character that continues it makes a longer text at once. -/
theorem Spells.append_singleton {k : Kind} {w : List Char} {c : Char} (hk : k.Spells w)
    (hc : k.continuedBy c = true) : ∃ j : Kind, j.Spells (w ++ [c]) := by
  cases k with
  | endOfInput => exact hk.elim
  | illegal => simp [Kind.continuedBy] at hc
  | integer =>
    refine ⟨integer, by simp, ?_⟩
    simpa [or_imp, forall_and] using ⟨hk.2, hc⟩
  | operator o =>
    simp only [Kind.continuedBy, Bool.and_eq_true, beq_iff_eq] at hc
    obtain ⟨p, hp⟩ := Option.isSome_iff_exists.1 hc.1
    refine ⟨operator p, ?_⟩
    rw [hk, hc.2]
    exact (Operator.withEquals?_eq_some_iff.1 hp).symm
  | identifier =>
    refine ⟨_, spells_ofWord (by simp) ?_⟩
    simpa [or_imp, forall_and] using ⟨hk.2.1, hc⟩
  | keyword k =>
    refine ⟨_, spells_ofWord (by simp) ?_⟩
    simpa [or_imp, forall_and] using ⟨hk.admits, hc⟩

end Kind

/-- One character behind a text decides whether it is the longest one. -/
theorem longestLexeme_append_iff {k : Kind} {w rest : List Char} :
    LongestLexeme k w (w ++ rest) ↔
      k.Spells w ∧ ∀ c ∈ rest.head?, k.continuedBy c = false := by
  constructor
  · intro h
    refine ⟨h.spells, fun c hc => ?_⟩
    obtain ⟨tail, rfl⟩ : ∃ tail, rest = c :: tail := by
      cases rest with
      | nil => simp at hc
      | cons a tail => exact ⟨tail, by simp_all⟩
    rw [Bool.eq_false_iff]
    intro hcont
    obtain ⟨j, hj⟩ := h.spells.append_singleton hcont
    have hle := h.longest j _ hj ⟨tail, by simp⟩
    simp only [List.length_append, List.length_cons, List.length_nil] at hle
    omega
  · intro h
    obtain ⟨hk, hrest⟩ := h
    refine ⟨hk, List.prefix_append w rest, fun j v hj hv => ?_⟩
    rcases List.prefix_or_prefix_of_prefix hv (List.prefix_append w rest) with hvw | ⟨u, rfl⟩
    · exact hvw.length_le
    · cases u with
      | nil => simp
      | cons c u =>
        -- a longer lexeme goes on with what stands behind `w`
        rw [List.prefix_append_right_inj] at hv
        obtain ⟨tail, rfl⟩ := hv
        have hstop : k.continuedBy c = false := hrest c (by simp)
        rw [hk.continuedBy hj] at hstop
        exact absurd hstop (by simp)

theorem LongestLexeme.of_head?_eq {k : Kind} {w rest rest' : List Char}
    (h : LongestLexeme k w (w ++ rest)) (hhead : rest'.head? = rest.head?) :
    LongestLexeme k w (w ++ rest') := by
  rw [longestLexeme_append_iff, hhead, ← longestLexeme_append_iff]
  exact h

/-- There is one longest lexeme at most, of one kind. -/
theorem LongestLexeme.unique {j k : Kind} {v w s : List Char} (hj : LongestLexeme j v s)
    (hk : LongestLexeme k w s) : j = k ∧ v = w := by
  have hvw : v = w :=
    (List.prefix_of_prefix_length_le hj.isPrefixOf hk.isPrefixOf
      (hk.longest j v hj.spells hj.isPrefixOf)).eq_of_length_le
      (hj.longest k w hk.spells hk.isPrefixOf)
  subst hvw
  exact ⟨hj.spells.kind_unique hk.spells, rfl⟩

end Monkey
