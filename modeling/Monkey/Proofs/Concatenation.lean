import Mathlib.Data.List.Basic
import Monkey.Proofs.Munch

/-
  Texts put together. The tokens of `a ++ b` are those of `a` and then those of `b`, unless `a`
  ends in a lexeme which the first character of `b` continues (`tokensOf_append_iff`). `openKind?`
  is the kind of such a lexeme. `Seam` says the same thing by the characters and tokens at the
  place where the texts meet, and `scan_append_iff` is the law for whole sources with white space
  between them. Only for the equals sign do the characters alone not tell: what counts is whether
  the signs before it have already been used up in pairs.
-/

namespace Monkey

/-! ### A lexeme in front of a text -/

theorem Cursor.lexemes_blank_append {gap : List Char} (n : Nat)
    (hgap : ∀ c ∈ gap, isSpace c = true) (s : List Char) :
    lexemes ⟨n, gap ++ s⟩ = lexemes ⟨n + gap.length, s⟩ := by
  rcases blank_or_lexeme s with hs | ⟨gap', w, rest, k, rfl, hgap', hk⟩
  · rw [lexemes_blank _ hs, lexemes_blank]
    intro c hc
    exact (List.mem_append.1 hc).elim (hgap c) (hs c)
  · have hboth : ∀ c ∈ gap ++ gap', isSpace c = true := by
      intro c hc
      exact (List.mem_append.1 hc).elim (hgap c) (hgap' c)
    have hplace : n + (gap ++ gap').length = n + gap.length + gap'.length := by
      rw [List.length_append, Nat.add_assoc]
    rw [lexemes_lexeme _ hgap' hk, ← List.append_assoc, lexemes_lexeme _ hboth hk, hplace]

theorem tokensOf_blank_append {gap : List Char} (hgap : ∀ c ∈ gap, isSpace c = true)
    (s : List Char) : tokensOf (gap ++ s) = tokensOf s := by
  rw [tokensOf, Cursor.lexemes_blank_append 0 hgap, ← tokensOf_eq]

theorem tokensOf_eq_nil_iff {s : List Char} :
    tokensOf s = [] ↔ ∀ c ∈ s, isSpace c = true := by
  constructor
  · intro h
    rcases Cursor.blank_or_lexeme s with hs | ⟨gap, w, rest, k, rfl, hgap, hk⟩
    · exact hs
    · rw [tokensOf_lexeme hgap hk] at h
      exact absurd h (by simp)
  · exact tokensOf_blank

/-- At a text of a kind, a lexeme is read that begins with it. -/
theorem Kind.Spells.exists_longest {k : Kind} {w : List Char} (hk : k.Spells w)
    (rest : List Char) :
    ∃ (j : Kind) (v rest' : List Char), w ++ rest = v ++ rest' ∧
      LongestLexeme j v (v ++ rest') ∧ w <+: v := by
  obtain ⟨ch, u, rfl⟩ := List.exists_cons_of_ne_nil hk.ne_nil
  have hch : isSpace ch = false := hk.head_not_space rest ch (by simp)
  obtain ⟨j, v, rest', hs, hj, -⟩ := Cursor.munch_takesLongest (u ++ rest) 0 hch
  have hs : ch :: u ++ rest = v ++ rest' := hs
  have hw : ch :: u <+: v ++ rest' := hs ▸ List.prefix_append _ rest
  exact ⟨j, v, rest', hs, hj,
    List.prefix_of_prefix_length_le hw hj.isPrefixOf (hj.longest k _ hk hw)⟩

/-- The text of a kind is read as one token exactly if the character behind it does not
    continue it. -/
theorem tokensOf_eq_cons_iff {gap w : List Char} {k : Kind} (hgap : ∀ c ∈ gap, isSpace c = true)
    (hk : k.Spells w) (rest : List Char) (ts : List Token) :
    tokensOf (gap ++ (w ++ rest)) = ⟨k, String.ofList w⟩ :: ts ↔
      (∀ c ∈ rest.head?, k.continuedBy c = false) ∧ tokensOf rest = ts := by
  constructor
  · intro h
    obtain ⟨j, v, rest', hs, hj, -⟩ := hk.exists_longest rest
    rw [hs, tokensOf_lexeme hgap hj] at h
    simp only [List.cons.injEq, Token.mk.injEq, String.ofList_inj] at h
    obtain ⟨⟨rfl, rfl⟩, rfl⟩ := h
    obtain rfl : rest = rest' := List.append_cancel_left hs
    exact ⟨(longestLexeme_append_iff.1 hj).2, rfl⟩
  · intro h
    obtain ⟨hrest, rfl⟩ := h
    exact tokensOf_lexeme hgap (longestLexeme_append_iff.2 ⟨hk, hrest⟩)

/-! ### The lexeme at the end of a text -/

/-- The kind of the last token, if it ends where the text ends. -/
def openKind? (s : List Char) : Option Kind :=
  if s.getLast?.any isSpace then none else (tokensOf s).getLast?.map Token.kind

theorem openKind?_blank {gap : List Char} (hgap : ∀ c ∈ gap, isSpace c = true) :
    openKind? gap = none := by
  simp [openKind?, tokensOf_blank hgap]

theorem Kind.Spells.getLast?_append {k : Kind} {w : List Char} (hk : k.Spells w)
    (front : List Char) : ∃ c, (front ++ w).getLast? = some c ∧ k.admits c = true := by
  have hlast := List.getLast?_eq_some_getLast hk.ne_nil
  refine ⟨w.getLast hk.ne_nil, ?_, hk.admits _ (List.getLast_mem hk.ne_nil)⟩
  rw [List.getLast?_append, hlast, Option.some_or]

theorem openKind?_lexeme {gap w : List Char} {k : Kind} (hgap : ∀ c ∈ gap, isSpace c = true)
    (hk : k.Spells w) : openKind? (gap ++ w) = some k := by
  obtain ⟨c, hc, hadmits⟩ := hk.getLast?_append gap
  have htokens : tokensOf (gap ++ (w ++ [])) = [⟨k, String.ofList w⟩] := by
    rw [tokensOf_eq_cons_iff hgap hk]
    exact ⟨by simp, tokensOf_nil⟩
  rw [List.append_nil] at htokens
  simp [openKind?, hc, htokens, Kind.not_isSpace_of_admits hadmits]

/-- What stands before a text that is not empty does not matter to its end. -/
theorem openKind?_append {gap w rest : List Char} {k : Kind}
    (hgap : ∀ c ∈ gap, isSpace c = true) (hk : LongestLexeme k w (w ++ rest)) (hrest : rest ≠ []) :
    openKind? (gap ++ (w ++ rest)) = openKind? rest := by
  obtain ⟨c, hc⟩ : ∃ c, rest.getLast? = some c := ⟨_, List.getLast?_eq_some_getLast hrest⟩
  have hc' : (gap ++ (w ++ rest)).getLast? = some c := by
    rw [List.getLast?_append, List.getLast?_append, hc, Option.some_or, Option.some_or]
  unfold openKind?
  rw [hc, hc', tokensOf_lexeme hgap hk, Option.any_some]
  by_cases hs : isSpace c = true
  · rw [if_pos hs, if_pos hs]
  · -- the rest does not end in white space, so it has a token
    have hne : tokensOf rest ≠ [] := fun h =>
      hs (tokensOf_eq_nil_iff.1 h c (List.mem_of_getLast? hc))
    rw [if_neg hs, if_neg hs, List.getLast?_cons_of_ne_nil hne]

/-- An open lexeme has its text at the end. -/
theorem exists_text_of_openKind? {s : List Char} {k : Kind} (h : openKind? s = some k) :
    ∃ front w, s = front ++ w ∧ k.Spells w := by
  induction s using lexemeInduction with
  | blank gap hgap =>
    rw [openKind?_blank hgap] at h
    exact absurd h (by simp)
  | lexeme gap w rest j hgap hj ih =>
    by_cases hrest : rest = []
    · subst hrest
      rw [List.append_nil] at h ⊢
      rw [openKind?_lexeme hgap hj.spells] at h
      obtain rfl : j = k := Option.some.inj h
      exact ⟨gap, w, rfl, hj.spells⟩
    · rw [openKind?_append hgap hj hrest] at h
      obtain ⟨front, v, rfl, hv⟩ := ih h
      refine ⟨gap ++ (w ++ front), v, ?_, hv⟩
      rw [List.append_assoc, List.append_assoc]

/-- A text that does not end in white space ends in an open lexeme, and in a character of it. -/
theorem openKind?_cases (s : List Char) :
    (openKind? s = none ∧ ∀ c ∈ s.getLast?, isSpace c = true) ∨
      ∃ k c, openKind? s = some k ∧ s.getLast? = some c ∧ k.admits c = true := by
  cases hopen : openKind? s with
  | none =>
    refine Or.inl ⟨rfl, fun c hc => ?_⟩
    unfold openKind? at hopen
    split at hopen
    · next hs => simpa [Option.mem_def.1 hc] using hs
    · rw [Option.map_eq_none_iff, List.getLast?_eq_none_iff, tokensOf_eq_nil_iff] at hopen
      exact hopen c (List.mem_of_getLast? hc)
  | some k =>
    obtain ⟨front, w, rfl, hk⟩ := exists_text_of_openKind? hopen
    obtain ⟨c, hc, hadmits⟩ := hk.getLast?_append front
    exact Or.inr ⟨k, c, rfl, hc, hadmits⟩

/-- Two texts keep their tokens when they are put together, unless the second continues the
    lexeme at the end of the first. -/
theorem tokensOf_append_iff (a b : List Char) :
    tokensOf (a ++ b) = tokensOf a ++ tokensOf b ↔
      ∀ k ∈ openKind? a, ∀ c ∈ b.head?, k.continuedBy c = false := by
  induction a using lexemeInduction with
  | blank gap hgap =>
    rw [tokensOf_blank_append hgap, tokensOf_blank hgap, openKind?_blank hgap]
    simp
  | lexeme gap w rest k hgap hk ih =>
    have hspells := hk.spells
    by_cases hrest : rest = []
    · subst hrest
      rw [tokensOf_lexeme hgap hk, tokensOf_nil, List.append_nil, openKind?_lexeme hgap hspells,
        List.append_assoc, List.singleton_append, tokensOf_eq_cons_iff hgap hspells]
      simp
    · -- the character behind the first lexeme is the same in the longer text
      have hk' : LongestLexeme k w (w ++ (rest ++ b)) :=
        hk.of_head?_eq (List.head?_append_of_ne_nil _ hrest)
      rw [openKind?_append hgap hk hrest, ← ih, tokensOf_lexeme hgap hk, List.append_assoc,
        List.append_assoc, tokensOf_lexeme hgap hk', List.cons_append, List.cons.injEq]
      simp only [true_and]

/-- The lexemes of two such texts follow one another at their places. -/
theorem Cursor.lexemes_append {a b : List Char} (n : Nat)
    (h : ∀ k ∈ openKind? a, ∀ c ∈ b.head?, k.continuedBy c = false) :
    lexemes ⟨n, a ++ b⟩ = lexemes ⟨n, a⟩ ++ lexemes ⟨n + a.length, b⟩ := by
  induction a using lexemeInduction generalizing n with
  | blank gap hgap =>
    rw [lexemes_blank n hgap, List.nil_append, lexemes_blank_append n hgap]
  | lexeme gap w rest k hgap hk ih =>
    have hplace : n + (gap ++ (w ++ rest)).length = n + gap.length + w.length + rest.length := by
      simp only [List.length_append, Nat.add_assoc]
    have hlonger : LongestLexeme k w (w ++ (rest ++ b)) ∧
        ∀ j ∈ openKind? rest, ∀ c ∈ b.head?, j.continuedBy c = false := by
      by_cases hrest : rest = []
      · subst hrest
        rw [List.append_nil, openKind?_lexeme hgap hk.spells] at h
        exact ⟨longestLexeme_append_iff.2 ⟨hk.spells, h k rfl⟩, by simp [openKind?_blank]⟩
      · rw [openKind?_append hgap hk hrest] at h
        exact ⟨hk.of_head?_eq (List.head?_append_of_ne_nil _ hrest), h⟩
    rw [List.append_assoc, List.append_assoc, lexemes_lexeme n hgap hlonger.1,
      lexemes_lexeme n hgap hk, ih _ hlonger.2, List.cons_append, hplace]

theorem tokensOf_append_blank {gap : List Char} (a : List Char)
    (hgap : ∀ c ∈ gap, isSpace c = true) : tokensOf (a ++ gap) = tokensOf a := by
  rw [← List.append_nil (tokensOf a), ← tokensOf_blank hgap, tokensOf_append_iff]
  intro k _ c hc
  exact Kind.continuedBy_of_isSpace (hgap c (List.mem_of_mem_head? hc)) k

/-- White space between two texts keeps their tokens apart. -/
theorem tokensOf_append_blank_append (a : List Char) {gap : List Char} (hne : gap ≠ [])
    (hgap : ∀ c ∈ gap, isSpace c = true) (b : List Char) :
    tokensOf (a ++ (gap ++ b)) = tokensOf a ++ tokensOf b := by
  rw [← tokensOf_blank_append hgap b, tokensOf_append_iff]
  obtain ⟨c, tail, rfl⟩ := List.exists_cons_of_ne_nil hne
  intro k _ d hd
  obtain rfl : c = d := by simpa using hd
  exact Kind.continuedBy_of_isSpace (hgap c (by simp)) k

/-! ### The place where two sources meet -/

/-- The sources `a` and `b` meet inside of what is read as one token: a word, a number, or an
    operator that an equals sign completes. -/
def Seam (a b : String) : Prop :=
  (∃ c ∈ a.toList.getLast?, ∃ d ∈ b.toList.head?, isLetter c = true ∧ isLetter d = true) ∨
  (∃ c ∈ a.toList.getLast?, ∃ d ∈ b.toList.head?, isDigit c = true ∧ isDigit d = true) ∨
  (b.toList.head? = some '=' ∧ (∀ c ∈ a.toList.getLast?, isSpace c = false) ∧
    ∃ t ∈ (scan a).dropLast.getLast?, t.kind = .operator .assign ∨ t.kind = .operator .bang)

theorem dropLast_scan (a : String) : (scan a).dropLast = tokensOf a.toList := by
  rw [scan_eq, List.dropLast_concat]

/-- A seam is a character that continues an open lexeme. -/
theorem seam_iff {a b : String} :
    Seam a b ↔
      ∃ k ∈ openKind? a.toList, ∃ d ∈ b.toList.head?, Kind.continuedBy k d = true := by
  unfold Seam
  rw [dropLast_scan]
  rcases openKind?_cases a.toList with ⟨hnone, hspace⟩ | ⟨k, c, hk, hc, hadmits⟩
  · rw [hnone]
    constructor
    · intro hseam
      rcases hseam with ⟨c, hc, d, _, h, _⟩ | ⟨c, hc, d, _, h, _⟩ | ⟨_, hend, t, ht, _⟩
      · have := hspace c hc
        simp_all [isLetter_iff, isSpace_iff]
      · have := hspace c hc
        simp_all [isDigit_iff, isSpace_iff]
      · -- without a last character there is no last token either
        have hnil : a.toList = [] := by
          rw [← List.getLast?_eq_none_iff, Option.eq_none_iff_forall_ne_some]
          intro c hc
          have := hspace c hc
          rw [hend c hc] at this
          exact absurd this (by simp)
        rw [hnil, tokensOf_nil] at ht
        exact absurd ht (by simp)
    · intro hopen
      obtain ⟨k, hk, -⟩ := hopen
      exact absurd hk (by simp)
  · have hs : isSpace c = false := Kind.not_isSpace_of_admits hadmits
    obtain ⟨t, ht, rfl⟩ : ∃ t, (tokensOf a.toList).getLast? = some t ∧ t.kind = k := by
      simpa [openKind?, hc, hs] using hk
    simp only [hc, hk, ht, hs, Option.mem_some_iff, exists_eq_left', forall_eq',
      Kind.continuedBy_iff, Kind.isWord_iff_of_admits hadmits,
      Kind.eq_integer_iff_of_admits hadmits]
    cases b.toList.head? with
    | none => simp
    | some d => simp [and_comm]

/-- Two sources keep their tokens when they are put together, unless they meet in a seam with no
    white space between them. -/
theorem scan_append_iff (a b w : String) (hw : ∀ c ∈ w.toList, isSpace c = true) :
    scan (a ++ w ++ b) = (scan a).dropLast ++ scan b ↔ w ≠ "" ∨ ¬ Seam a b := by
  rw [dropLast_scan, scan_eq, scan_eq, ← List.append_assoc, List.append_cancel_right_eq,
    String.toList_append, String.toList_append, List.append_assoc]
  by_cases hempty : w = ""
  · rw [hempty, String.toList_empty, List.nil_append, tokensOf_append_iff, seam_iff]
    simp
  · have hne : w.toList ≠ [] := mt String.toList_eq_nil_iff.1 hempty
    rw [tokensOf_append_blank_append _ hne hw]
    simp [hempty]

/-- The end of a line keeps two equals signs apart. -/
theorem scan_append_line_end :
    (∀ c ∈ "\r\n".toList, isSpace c = true) ∧
      scan ("a=" ++ "\r\n" ++ "=b") = (scan "a=").dropLast ++ scan "=b" :=
  have hgap : ∀ c ∈ "\r\n".toList, isSpace c = true := List.all_eq_true.1 (by decide)
  ⟨hgap, (scan_append_iff "a=" "=b" "\r\n" hgap).2 (Or.inl (by decide))⟩

end Monkey
