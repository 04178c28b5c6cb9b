import Monkey.CharClass
import Monkey.Token

/-
  The lexical grammar of the language, said without a cursor. `Spells` lists the texts of each
  kind of token, `Munched` says that a list of tokens comes of a text by always taking the
  longest of these texts, and `Clash` names the neighbours that need white space between them.
  A text is that of one kind only (`Spells.kind_unique`), so a token is determined by its
  literal.
-/

namespace Monkey

/-- The texts of a token of this kind. -/
def Kind.Spells : Kind → List Char → Prop
  | .endOfInput, _ => False
  | .illegal, w => ∃ c, isForeign c = true ∧ w = [c]
  | .identifier, w =>
    w ≠ [] ∧ (∀ c ∈ w, isLetter c = true) ∧ Keyword.ofWord? (String.ofList w) = none
  | .integer, w => w ≠ [] ∧ ∀ c ∈ w, isDigit c = true
  | .operator o, w => w = o.spelling.toList
  | .keyword k, w => w = k.spelling.toList

instance Kind.decidableSpells (k : Kind) (w : List Char) : Decidable (k.Spells w) :=
  match k, w with
  | .endOfInput, _ => inferInstanceAs (Decidable False)
  | .illegal, [c] => decidable_of_iff (isForeign c = true) (by simp [Spells])
  | .illegal, [] => isFalse (by simp [Spells])
  | .illegal, _ :: _ :: _ => isFalse (by simp [Spells])
  | .identifier, w => decidable_of_iff
      (w ≠ [] ∧ w.all isLetter = true ∧ Keyword.ofWord? (String.ofList w) = none)
      (by simp [Spells])
  | .integer, w => decidable_of_iff (w ≠ [] ∧ w.all isDigit = true) (by simp [Spells])
  | .operator o, w => inferInstanceAs (Decidable (w = o.spelling.toList))
  | .keyword k, w => inferInstanceAs (Decidable (w = k.spelling.toList))

/-- No beginning of the text `s` that is the text of a token is longer than `w`. -/
structure LongestLexeme (k : Kind) (w s : List Char) : Prop where
  spells : k.Spells w
  isPrefixOf : w <+: s
  longest : ∀ (j : Kind) v, j.Spells v → v <+: s → v.length ≤ w.length

/-- The tokens that come of a text by dropping white space and taking the longest lexeme, until
    only white space is left. -/
inductive Munched : List Char → List Token → Prop where
  | done {gap : List Char} : (∀ c ∈ gap, isSpace c = true) → Munched gap [.endOfInput]
  | next {gap w rest : List Char} {k : Kind} {ts : List Token} :
      (∀ c ∈ gap, isSpace c = true) → (∀ c ∈ (w ++ rest).head?, isSpace c = false) →
      LongestLexeme k w (w ++ rest) → Munched rest ts →
      Munched (gap ++ (w ++ rest)) (⟨k, String.ofList w⟩ :: ts)

namespace Token

/-- The literal is a text of the kind. -/
def WellFormed (t : Token) : Prop := t.kind.Spells t.literal.toList

/-- Without white space between them, these neighbours would be read as something else. -/
def Clash (t u : Token) : Prop :=
  (t.kind.isWord = true ∧ u.kind.isWord = true) ∨
  (t.kind = .integer ∧ u.kind = .integer) ∨
  ((t.kind = .operator .assign ∨ t.kind = .operator .bang) ∧
    (u.kind = .operator .assign ∨ u.kind = .operator .equal))

instance (t : Token) : Decidable t.WellFormed :=
  inferInstanceAs (Decidable (t.kind.Spells t.literal.toList))

instance (t u : Token) : Decidable (t.Clash u) := inferInstanceAs (Decidable (_ ∨ _ ∨ _))

end Token

theorem Keyword.isLetter_of_mem {k : Keyword} {c : Char} (h : c ∈ k.spelling.toList) :
    isLetter c = true := by
  have hall : k.spelling.toList.all isLetter = true := by cases k <;> decide
  exact List.all_eq_true.1 hall c h

theorem Keyword.spelling_ne_nil (k : Keyword) : k.spelling.toList ≠ [] := by
  cases k <;> decide

theorem Operator.isOperator_of_mem {o : Operator} {c : Char} (h : c ∈ o.spelling.toList) :
    isOperator c = true := by
  have hall : o.spelling.toList.all isOperator = true := by cases o <;> decide
  exact List.all_eq_true.1 hall c h

theorem Operator.spelling_ne_nil (o : Operator) : o.spelling.toList ≠ [] := by
  cases o <;> decide

namespace Kind

/-- The characters that the texts of a kind are made of. -/
def admits : Kind → Char → Bool
  | endOfInput => fun _ => false
  | illegal => isForeign
  | identifier => isLetter
  | integer => isDigit
  | operator _ => isOperator
  | keyword _ => isLetter

theorem Spells.ne_nil {k : Kind} {w : List Char} (h : k.Spells w) : w ≠ [] := by
  cases k with
  | endOfInput => exact h.elim
  | illegal => obtain ⟨c, _, rfl⟩ := h; simp
  | identifier => exact h.1
  | integer => exact h.1
  | operator o => rw [h]; exact o.spelling_ne_nil
  | keyword k => rw [h]; exact k.spelling_ne_nil

theorem Spells.admits {k : Kind} {w : List Char} (h : k.Spells w) :
    ∀ c ∈ w, k.admits c = true := by
  cases k with
  | endOfInput => exact h.elim
  | illegal => obtain ⟨c, hc, rfl⟩ := h; simpa [Kind.admits] using hc
  | identifier => exact h.2.1
  | integer => exact h.2
  | operator o => rw [h]; exact fun c hc => Operator.isOperator_of_mem hc
  | keyword k => rw [h]; exact fun c hc => Keyword.isLetter_of_mem hc

/-- A reserved word is no identifier. -/
theorem not_spells_identifier (k : Keyword) : ¬ identifier.Spells k.spelling.toList := by
  intro h
  have := h.2.2
  rw [String.ofList_toList, Keyword.ofWord?_eq_some_iff.2 rfl] at this
  exact absurd this (by simp)

/-- The kinds whose texts can share a character. -/
theorem eq_or_word_or_operator_of_admits {j k : Kind} {c : Char} (hj : j.admits c = true)
    (hk : k.admits c = true) :
    j = k ∨ (j.isWord = true ∧ k.isWord = true) ∨ ∃ o p, j = operator o ∧ k = operator p := by
  cases j <;> cases k <;>
    simp only [admits, isLetter, isDigit, isForeign, isOperator_iff, beq_iff_eq,
      Bool.false_eq_true] at hj hk <;>
    simp_all [isWord]

/-- A text is the text of one kind at most. -/
theorem Spells.kind_unique {j k : Kind} {w : List Char} (hj : j.Spells w) (hk : k.Spells w) :
    j = k := by
  obtain ⟨c, hc⟩ := List.exists_mem_of_ne_nil w hj.ne_nil
  rcases eq_or_word_or_operator_of_admits (hj.admits c hc) (hk.admits c hc) with
    h | ⟨hwj, hwk⟩ | ⟨o, p, rfl, rfl⟩
  · exact h
  · cases j <;> cases k <;> simp only [isWord, Bool.false_eq_true] at hwj hwk
    · rfl
    · next k => exact (not_spells_identifier k (hk ▸ hj)).elim
    · next k => exact (not_spells_identifier k (hj ▸ hk)).elim
    · rw [Keyword.spelling_injective (String.toList_injective (hj.symm.trans hk))]
  · rw [Operator.spelling_injective (String.toList_injective (hj.symm.trans hk))]

end Kind

end Monkey
