import Monkey.Proofs.Boundary
import Monkey.Cursor

/-
  The cursor and the grammar. `Cursor.munch_takesLongest` says what one token is: whatever branch
  is taken, it is the longest lexeme at the cursor, and the cursor is left right behind it.
  With `LongestLexeme.unique` this determines each reading (`read_lexeme`, `read_blank`) and
  the lexemes of a whole source (`lexemes_lexeme`, `lexemes_blank`). `blank_or_lexeme` gives the
  induction on a text lexeme by lexeme. The main statement is `scan_eq_iff_munched`.
-/

namespace Monkey

namespace Operator

theorem withEquals?_of_withEquals? {o p : Operator} (h : o.withEquals? = some p) :
    p.withEquals? = none := by
  revert h
  cases o <;> cases p <;> decide

end Operator

namespace Cursor

/-! ### One token -/

theorem run_append {p : Char → Bool} {w rest : List Char} (n : Nat)
    (hw : ∀ c ∈ w, p c = true) (hrest : ∀ c ∈ rest.head?, p c = false) :
    run p ⟨n, w ++ rest⟩ = (w, ⟨n + w.length, rest⟩) := by
  have htake : rest.takeWhile p = [] := by
    cases rest with
    | nil => rfl
    | cons c tail => simp [hrest c (by simp)]
  have hdrop : rest.dropWhile p = rest := by
    cases rest with
    | nil => rfl
    | cons c tail => simp [hrest c (by simp)]
  unfold run
  simp only [List.takeWhile_append_of_pos hw, List.dropWhile_append_of_pos hw, htake, hdrop,
    List.append_nil]

/-- A run takes all characters that satisfy the predicate, up to one that does not. -/
theorem run_spec (p : Char → Bool) (n : Nat) (s : List Char) :
    ∃ w rest, s = w ++ rest ∧ (∀ c ∈ w, p c = true) ∧ (∀ c ∈ rest.head?, p c = false) ∧
      run p ⟨n, s⟩ = (w, ⟨n + w.length, rest⟩) := by
  refine ⟨s.takeWhile p, s.dropWhile p, List.takeWhile_append_dropWhile.symm,
    fun c hc => List.all_eq_true.1 List.all_takeWhile c hc, fun c hc => ?_, rfl⟩
  have := List.head?_dropWhile_not p s
  rw [Option.mem_def.1 hc] at this
  exact this

/-- This token and this cursor are what the longest lexeme at the cursor `c` gives. -/
def TakesLongest (c : Cursor) (r : Token × Cursor) : Prop :=
  ∃ k w rest, c.rest = w ++ rest ∧ LongestLexeme k w (w ++ rest) ∧
    r = (⟨k, String.ofList w⟩, ⟨c.position + w.length, rest⟩)

theorem run_ne_nil {p : Char → Bool} {ch : Char} {tail w rest : List Char} (h : p ch = true)
    (hs : ch :: tail = w ++ rest) (hrest : ∀ c ∈ rest.head?, p c = false) : w ≠ [] := by
  rintro rfl
  have hstop : p ch = false := hrest ch (by rw [← List.nil_append rest, ← hs]; rfl)
  rw [h] at hstop
  exact absurd hstop (by simp)

theorem word_takesLongest {ch : Char} {tail : List Char} (n : Nat) (h : isLetter ch = true) :
    TakesLongest ⟨n, ch :: tail⟩ (word ⟨n, ch :: tail⟩) := by
  obtain ⟨w, rest, hs, hw, hrest, hrun⟩ := run_spec isLetter n (ch :: tail)
  have hk : (Kind.ofWord (String.ofList w)).Spells w :=
    Kind.spells_ofWord (run_ne_nil h hs hrest) hw
  refine ⟨_, w, rest, hs, longestLexeme_append_iff.2 ⟨hk, fun c hc => ?_⟩, ?_⟩
  · rw [Kind.continuedBy_of_isWord (Kind.isWord_ofWord _)]
    exact hrest c hc
  · simp only [word, hrun]

theorem number_takesLongest {ch : Char} {tail : List Char} (n : Nat) (h : isDigit ch = true) :
    TakesLongest ⟨n, ch :: tail⟩ (number ⟨n, ch :: tail⟩) := by
  obtain ⟨w, rest, hs, hw, hrest, hrun⟩ := run_spec isDigit n (ch :: tail)
  have hk : Kind.integer.Spells w := ⟨run_ne_nil h hs hrest, hw⟩
  refine ⟨.integer, w, rest, hs, longestLexeme_append_iff.2 ⟨hk, hrest⟩, ?_⟩
  simp only [number, hrun]

/-- An operator alone is the longest one, unless it goes on. -/
theorem single_takesLongest {o : Operator} {ch : Char} {tail : List Char} (n : Nat)
    (ho : o.spelling.toList = [ch])
    (htail : ∀ c ∈ tail.head?, (Kind.operator o).continuedBy c = false) :
    TakesLongest ⟨n, ch :: tail⟩ (⟨.operator o, o.spelling⟩, advance ⟨n, ch :: tail⟩) := by
  refine ⟨.operator o, [ch], tail, rfl, longestLexeme_append_iff.2 ⟨ho.symm, htail⟩, ?_⟩
  rw [← ho, String.ofList_toList, ho]
  rfl

theorem operator_takesLongest {o : Operator} {ch : Char} {tail : List Char} (n : Nat)
    (h : Operator.ofChar? ch = some o) :
    TakesLongest ⟨n, ch :: tail⟩ (operator o ⟨n, ch :: tail⟩) := by
  have ho : o.spelling.toList = [ch] := Operator.ofChar?_eq_some_iff.1 h
  unfold operator
  split
  · next p hp =>
    split
    · next hpeek =>
      -- both characters are taken, and no operator is longer than two
      obtain ⟨rest, rfl⟩ : ∃ rest, tail = '=' :: rest := by
        cases tail with
        | nil => simp [peek?] at hpeek
        | cons c rest => exact ⟨rest, by simpa [peek?] using hpeek⟩
      have hspell : p.spelling.toList = [ch, '='] := by
        rw [Operator.withEquals?_eq_some_iff.1 hp, ho]
        rfl
      have hend : ∀ c ∈ rest.head?, (Kind.operator p).continuedBy c = false := fun c _ => by
        simp [Kind.continuedBy, Operator.withEquals?_of_withEquals? hp]
      refine ⟨.operator p, [ch, '='], rest, rfl,
        longestLexeme_append_iff.2 ⟨hspell.symm, hend⟩, ?_⟩
      rw [← hspell, String.ofList_toList, hspell]
      rfl
    · next hpeek =>
      refine single_takesLongest n ho fun c hc => ?_
      have hne : c ≠ '=' := by
        rintro rfl
        cases tail with
        | nil => simp at hc
        | cons d rest => simp_all [peek?]
      simp [Kind.continuedBy, hne]
  · next hnone =>
    refine single_takesLongest n ho fun c _ => ?_
    simp [Kind.continuedBy, hnone]

theorem foreign_takesLongest {ch : Char} {tail : List Char} (n : Nat) (h : isForeign ch = true) :
    TakesLongest ⟨n, ch :: tail⟩ (foreign ch ⟨n, ch :: tail⟩) := by
  refine ⟨.illegal, [ch], tail, rfl,
    longestLexeme_append_iff.2 ⟨⟨ch, h, rfl⟩, fun c _ => rfl⟩, ?_⟩
  rw [← String.singleton_eq_ofList]
  rfl

/-- Whatever a token begins with, it is the longest lexeme there. -/
theorem munch_takesLongest {ch : Char} (tail : List Char) (n : Nat) (h : isSpace ch = false) :
    TakesLongest ⟨n, ch :: tail⟩ (munch ch ⟨n, ch :: tail⟩) := by
  rw [munch_eq]
  split
  · next hc => exact word_takesLongest n (isLetter_iff.2 hc)
  · next hc => exact number_takesLongest n (isDigit_iff.2 hc)
  · next o hc => exact operator_takesLongest n (CharClass.of_eq_operator_iff.1 hc)
  · next hc => simp [isSpace, hc] at h
  · next hc => exact foreign_takesLongest n (isForeign_iff.2 hc)

/-- A text is white space, or white space and a lexeme and what follows. -/
theorem blank_or_lexeme (s : List Char) :
    (∀ c ∈ s, isSpace c = true) ∨
      ∃ gap w rest k, s = gap ++ (w ++ rest) ∧ (∀ c ∈ gap, isSpace c = true) ∧
        LongestLexeme k w (w ++ rest) := by
  obtain ⟨gap, later, rfl, hgap, hlater, -⟩ := run_spec isSpace 0 s
  cases later with
  | nil =>
    left
    simpa using hgap
  | cons ch tail =>
    right
    obtain ⟨k, w, rest, hs, hk, -⟩ := munch_takesLongest tail 0 (hlater ch (by simp))
    exact ⟨gap, w, rest, k, congrArg (gap ++ ·) hs, hgap, hk⟩

/-! ### One reading -/

theorem read_blank {gap : List Char} (n : Nat) (hgap : ∀ c ∈ gap, isSpace c = true) :
    read ⟨n, gap⟩ = (.endOfInput, ⟨n + gap.length, []⟩) := by
  have hrun : run isSpace ⟨n, gap ++ []⟩ = _ := run_append n hgap (by simp)
  rw [List.append_nil] at hrun
  simp only [read_eq, skipSpaces, hrun]
  rfl

theorem read_lexeme {gap w rest : List Char} {k : Kind} (n : Nat)
    (hgap : ∀ c ∈ gap, isSpace c = true) (hk : LongestLexeme k w (w ++ rest)) :
    read ⟨n, gap ++ (w ++ rest)⟩ =
      (.lexeme ⟨⟨k, String.ofList w⟩, n + gap.length⟩, ⟨n + gap.length + w.length, rest⟩) := by
  have hrun := run_append n hgap (hk.spells.head_not_space rest)
  obtain ⟨ch, u, rfl⟩ := List.exists_cons_of_ne_nil hk.spells.ne_nil
  have hch : isSpace ch = false := hk.spells.head_not_space rest ch (by simp)
  obtain ⟨j, v, rest', hs, hj, hmunch⟩ :=
    munch_takesLongest (u ++ rest) (n + gap.length) hch
  -- what the cursor takes is a longest lexeme, and there is only one
  obtain ⟨rfl, rfl⟩ := LongestLexeme.unique (hs ▸ hj) hk
  obtain rfl : rest = rest' := List.append_cancel_left (show ch :: u ++ rest = _ from hs)
  simp only [List.cons_append] at hrun
  simp only [read_eq, skipSpaces, hrun, List.cons_append, current?, List.head?_cons, hmunch]

/-! ### All lexemes -/

theorem lexemes_blank {gap : List Char} (n : Nat) (hgap : ∀ c ∈ gap, isSpace c = true) :
    lexemes ⟨n, gap⟩ = [] :=
  lexemes_of_read_endOfInput (read_blank n hgap)

theorem lexemes_lexeme {gap w rest : List Char} {k : Kind} (n : Nat)
    (hgap : ∀ c ∈ gap, isSpace c = true) (hk : LongestLexeme k w (w ++ rest)) :
    lexemes ⟨n, gap ++ (w ++ rest)⟩ =
      ⟨⟨k, String.ofList w⟩, n + gap.length⟩ :: lexemes ⟨n + gap.length + w.length, rest⟩ :=
  lexemes_of_read_lexeme (read_lexeme n hgap hk)

theorem lexemes_cons {w rest : List Char} {k : Kind} (n : Nat)
    (hk : LongestLexeme k w (w ++ rest)) :
    lexemes ⟨n, w ++ rest⟩ = ⟨⟨k, String.ofList w⟩, n⟩ :: lexemes ⟨n + w.length, rest⟩ := by
  have hnone : ∀ c ∈ ([] : List Char), isSpace c = true := by simp
  exact lexemes_lexeme n hnone hk

end Cursor

/-- A statement about texts holds if it holds of white space, and of a lexeme in front of a text
    of which it holds. -/
@[elab_as_elim]
theorem lexemeInduction {P : List Char → Prop} (s : List Char)
    (blank : ∀ gap, (∀ c ∈ gap, isSpace c = true) → P gap)
    (lexeme : ∀ gap w rest k, (∀ c ∈ gap, isSpace c = true) → LongestLexeme k w (w ++ rest) →
      P rest → P (gap ++ (w ++ rest))) : P s := by
  rcases Cursor.blank_or_lexeme s with hs | ⟨gap, w, rest, k, hs, hgap, hk⟩
  · exact blank s hs
  · have hlt : rest.length < s.length := by
      have hpos : 0 < w.length := List.length_pos_iff.2 hk.spells.ne_nil
      rw [hs, List.length_append, List.length_append]
      omega
    rw [hs]
    exact lexeme gap w rest k hgap hk (lexemeInduction rest blank lexeme)
termination_by s.length
decreasing_by exact hlt

/-! ### The tokens of a text -/

/-- The tokens of a text, the end of the input left out. -/
def tokensOf (s : List Char) : List Token := (Cursor.mk 0 s).lexemes.map Lexeme.token

theorem scan_eq (source : String) : scan source = tokensOf source.toList ++ [.endOfInput] := rfl

/-- The same lexeme at another place. -/
def Lexeme.shift (n : Nat) (l : Lexeme) : Lexeme := ⟨l.token, n + l.start⟩

/-- Where a text stands changes the places of its lexemes and nothing else. -/
theorem Cursor.lexemes_add (m n : Nat) (s : List Char) :
    lexemes ⟨m + n, s⟩ = (lexemes ⟨n, s⟩).map (Lexeme.shift m) := by
  induction s using lexemeInduction generalizing n with
  | blank gap hgap => rw [lexemes_blank _ hgap, lexemes_blank _ hgap, List.map_nil]
  | lexeme gap w rest k hgap hk ih =>
    rw [lexemes_lexeme _ hgap hk, lexemes_lexeme _ hgap hk, List.map_cons, Nat.add_assoc m,
      Nat.add_assoc m, ih]
    rfl

theorem tokensOf_eq (n : Nat) (s : List Char) :
    tokensOf s = (Cursor.mk n s).lexemes.map Lexeme.token := by
  rw [← Nat.add_zero n, Cursor.lexemes_add, List.map_map]
  rfl

theorem tokensOf_blank {gap : List Char} (hgap : ∀ c ∈ gap, isSpace c = true) :
    tokensOf gap = [] := by
  rw [tokensOf, Cursor.lexemes_blank 0 hgap, List.map_nil]

@[simp]
theorem tokensOf_nil : tokensOf [] = [] := tokensOf_blank (by simp)

theorem tokensOf_lexeme {gap w rest : List Char} {k : Kind}
    (hgap : ∀ c ∈ gap, isSpace c = true) (hk : LongestLexeme k w (w ++ rest)) :
    tokensOf (gap ++ (w ++ rest)) = ⟨k, String.ofList w⟩ :: tokensOf rest := by
  rw [tokensOf, Cursor.lexemes_lexeme 0 hgap hk, List.map_cons, ← tokensOf_eq]

/-- Each token of a text has a literal of its kind. -/
theorem wellFormed_of_mem {s : List Char} {t : Token} (ht : t ∈ tokensOf s) : t.WellFormed := by
  induction s using lexemeInduction with
  | blank gap hgap =>
    rw [tokensOf_blank hgap] at ht
    exact absurd ht (by simp)
  | lexeme gap w rest k hgap hk ih =>
    rw [tokensOf_lexeme hgap hk, List.mem_cons] at ht
    rcases ht with rfl | ht
    · show k.Spells (String.ofList w).toList
      rw [String.toList_ofList]
      exact hk.spells
    · exact ih ht

theorem not_isEndOfInput_of_mem {s : List Char} {t : Token} (ht : t ∈ tokensOf s) :
    t.isEndOfInput = false := by
  have hspells : t.kind.Spells t.literal.toList := wellFormed_of_mem ht
  unfold Token.isEndOfInput
  cases hk : t.kind with
  | endOfInput =>
    -- no text is that of the end
    rw [hk] at hspells
    exact hspells.elim
  | _ => rfl

/-- No literal has white space in it. -/
theorem not_isSpace_of_mem_literal {s : List Char} {t : Token} {c : Char} (ht : t ∈ tokensOf s)
    (hc : c ∈ t.literal.toList) : isSpace c = false :=
  Kind.not_isSpace_of_admits ((wellFormed_of_mem ht).admits c hc)

/-! ### Maximal munch -/

theorem munched_tokensOf (s : List Char) : Munched s (tokensOf s ++ [.endOfInput]) := by
  induction s using lexemeInduction with
  | blank gap hgap =>
    rw [tokensOf_blank hgap]
    exact Munched.done hgap
  | lexeme gap w rest k hgap hk ih =>
    rw [tokensOf_lexeme hgap hk]
    exact Munched.next hgap (hk.spells.head_not_space rest) hk ih

theorem Munched.eq_tokensOf {s : List Char} {ts : List Token} (h : Munched s ts) :
    tokensOf s ++ [.endOfInput] = ts := by
  induction h with
  | done hgap => rw [tokensOf_blank hgap, List.nil_append]
  | next hgap _ hk _ ih => rw [tokensOf_lexeme hgap hk, List.cons_append, ih]

/-- The tokens of a source are those that come of always taking the longest lexeme, and no
    others come of that. -/
theorem scan_eq_iff_munched (s : String) (ts : List Token) :
    scan s = ts ↔ Munched s.toList ts := by
  rw [scan_eq]
  constructor
  · rintro rfl
    exact munched_tokensOf s.toList
  · exact Munched.eq_tokensOf

end Monkey
