import Monkey.Proofs.Readings

/-
  Where the lexemes of a text stand. Whether a lexeme stands at a place can be told from what is
  right beside it (`Lexeme.Stands`): it is the longest one there, and the text in front of it does
  not end in a lexeme that goes on. A lexeme that stands at a place is read there, and the lexemes
  in front of it are those that the text in front has by itself (`Stands.lexemes_eq`). Each lexeme
  of a text stands in it (`exists_stands`), so `mem_lexemes_iff` tells the lexemes of a text without
  a run from its beginning.
-/

namespace Monkey

/-- In a text that begins at place `n`, the lexeme stands behind `front` and before `rest`. -/
structure Lexeme.Stands (l : Lexeme) (n : Nat) (front rest : List Char) : Prop where
  start_eq : l.start = n + front.length
  longest : LongestLexeme l.token.kind l.token.literal.toList (l.token.literal.toList ++ rest)
  apart : ∀ k ∈ openKind? front, ∀ c ∈ l.token.literal.toList.head?, k.continuedBy c = false

namespace Lexeme

theorem stop_eq (l : Lexeme) : l.stop = l.start + l.token.literal.toList.length := by
  rw [stop, String.length_toList]

namespace Stands

variable {l : Lexeme} {n : Nat} {front rest : List Char}

theorem literal_ne_nil (h : l.Stands n front rest) : l.token.literal.toList ≠ [] :=
  h.longest.spells.ne_nil

/-- What follows matters by its first character only. -/
theorem of_head?_eq {rest' : List Char} (h : l.Stands n front rest)
    (hhead : rest'.head? = rest.head?) : l.Stands n front rest' :=
  ⟨h.start_eq, h.longest.of_head?_eq hhead, h.apart⟩

/-- Behind the text in front, the lexemes begin anew. -/
theorem lexemes_append (h : l.Stands n front rest) (later : List Char) :
    Cursor.lexemes ⟨n, front ++ (l.token.literal.toList ++ later)⟩ =
      Cursor.lexemes ⟨n, front⟩ ++
        Cursor.lexemes ⟨n + front.length, l.token.literal.toList ++ later⟩ := by
  refine Cursor.lexemes_append n fun k hk c hc => h.apart k hk c ?_
  rwa [List.head?_append_of_ne_nil _ h.literal_ne_nil] at hc

/-- A lexeme that stands in a text is read there. -/
theorem lexemes_eq (h : l.Stands n front rest) :
    Cursor.lexemes ⟨n, front ++ (l.token.literal.toList ++ rest)⟩ =
      Cursor.lexemes ⟨n, front⟩ ++ l :: Cursor.lexemes ⟨l.stop, rest⟩ := by
  have hread := Cursor.lexemes_cons (n + front.length) h.longest
  rw [String.ofList_toList, ← h.start_eq, ← l.stop_eq] at hread
  rw [h.lexemes_append, ← h.start_eq, hread]

end Stands

end Lexeme

namespace Cursor

/-- Each lexeme of a text stands in it, behind those that are read before. -/
theorem exists_stands {n i : Nat} {s : List Char} {l : Lexeme}
    (h : (lexemes ⟨n, s⟩)[i]? = some l) :
    ∃ front rest, s = front ++ (l.token.literal.toList ++ rest) ∧ l.Stands n front rest ∧
      (lexemes ⟨n, front⟩).length = i := by
  obtain ⟨hlt, hget⟩ := List.getElem?_eq_some_iff.1 h
  obtain ⟨text, hs, hposition, htokens, -⟩ := exists_passed (Nat.le_of_lt hlt)
  have hlater : (after i ⟨n, s⟩).lexemes = l :: (lexemes ⟨n, s⟩).drop (i + 1) := by
    rw [lexemes_after, List.drop_eq_getElem_cons hlt, hget]
  have hall : tokensOf s = tokensOf text ++ tokensOf (after i ⟨n, s⟩).rest := by
    rw [tokensOf_rest_after, htokens, ← List.map_append, List.take_append_drop, ← tokensOf_eq]
  generalize after i ⟨n, s⟩ = c at hs hposition hlater hall
  obtain ⟨p, ahead⟩ := c
  rcases blank_or_lexeme ahead with hblank | ⟨gap, w, rest, k, rfl, hgap, hk⟩
  · rw [lexemes_blank p hblank] at hlater
    exact absurd hlater (by simp)
  · rw [lexemes_lexeme p hgap hk] at hlater
    obtain ⟨rfl, -⟩ := List.cons.inj hlater
    have hfront : tokensOf (text ++ gap) = tokensOf text := tokensOf_append_blank text hgap
    have hs : s = text ++ gap ++ (w ++ rest) := by rw [List.append_assoc]; exact hs
    rw [tokensOf_blank_append hgap, ← hfront, hs, tokensOf_append_iff,
      List.head?_append_of_ne_nil _ hk.spells.ne_nil] at hall
    refine ⟨text ++ gap, rest, ?_, ⟨?_, ?_, ?_⟩, ?_⟩
    · rw [hs, String.toList_ofList]
    · rw [List.length_append, ← Nat.add_assoc]
      exact congrArg (· + gap.length) hposition
    · rw [String.toList_ofList]
      exact hk
    · rw [String.toList_ofList]
      exact hall
    · rw [← List.length_map Lexeme.token, ← tokensOf_eq, hfront, htokens, List.length_map,
        List.length_take, Nat.min_eq_left (Nat.le_of_lt hlt)]

/-- The lexemes of a text are those that stand in it. -/
theorem mem_lexemes_iff {n : Nat} {s : List Char} {l : Lexeme} :
    l ∈ lexemes ⟨n, s⟩ ↔
      ∃ front rest, s = front ++ (l.token.literal.toList ++ rest) ∧ l.Stands n front rest := by
  constructor
  · intro h
    obtain ⟨i, hi⟩ := List.mem_iff_getElem?.1 h
    obtain ⟨front, rest, hs, hstands, -⟩ := exists_stands hi
    exact ⟨front, rest, hs, hstands⟩
  · rintro ⟨front, rest, rfl, hstands⟩
    rw [hstands.lexemes_eq]
    exact List.mem_append_right _ List.mem_cons_self

/-- A lexeme has a part of the text that it is a lexeme of. -/
theorem span_of_mem_lexemes {n : Nat} {s : List Char} {l : Lexeme} (h : l ∈ lexemes ⟨n, s⟩) :
    n ≤ l.start ∧ l.start < l.stop ∧ l.stop ≤ n + s.length := by
  obtain ⟨front, rest, rfl, hstands⟩ := mem_lexemes_iff.1 h
  have hpos : 0 < l.token.literal.toList.length := List.length_pos_iff.2 hstands.literal_ne_nil
  have hstart := hstands.start_eq
  rw [l.stop_eq, List.length_append, List.length_append]
  omega

end Cursor

end Monkey
