import Monkey.Proofs.Munch

/-
  Characters in the place of others. If each character of a source is replaced by one of its own
  class, and the operators stay what they are, the lexemes stay where they are. A text of a kind
  becomes one of the same kind, and it is continued as before (`WellFormed.substitute`,
  `continuedBy_substitute`), so the longest lexeme stays the longest, and by induction all
  lexemes of the text are the same but for their characters (`lexemes_map`). Only a word may change
  its kind, since which letters are reserved words is not a matter of their class.
-/

namespace Monkey

/-- Each character is replaced by one of its class, and no operator is replaced. -/
structure KeepsClass (f : Char → Char) : Prop where
  letter : ∀ c, isLetter c = true → isLetter (f c) = true
  digit : ∀ c, isDigit c = true → isDigit (f c) = true
  space : ∀ c, isSpace c = true → isSpace (f c) = true
  foreign : ∀ c, isForeign c = true → isForeign (f c) = true
  operator : ∀ c, isOperator c = true → f c = c

/-- The token with other characters. A word is looked up again. -/
def Token.substitute (f : Char → Char) (t : Token) : Token :=
  ⟨if t.kind.isWord then .ofWord (t.literal.map f) else t.kind, t.literal.map f⟩

/-- The lexeme with other characters, at its place. -/
def Lexeme.substitute (f : Char → Char) (l : Lexeme) : Lexeme := ⟨l.token.substitute f, l.start⟩

variable {f : Char → Char}

namespace KeepsClass

theorem class_eq (hf : KeepsClass f) (c : Char) : CharClass.of (f c) = CharClass.of c := by
  cases hc : CharClass.of c with
  | space => exact isSpace_iff.1 (hf.space c (isSpace_iff.2 hc))
  | letter => exact isLetter_iff.1 (hf.letter c (isLetter_iff.2 hc))
  | digit => exact isDigit_iff.1 (hf.digit c (isDigit_iff.2 hc))
  | operator o => rw [hf.operator c (isOperator_iff.2 ⟨o, hc⟩), hc]
  | other => exact isForeign_iff.1 (hf.foreign c (isForeign_iff.2 hc))

theorem of_class_eq (h : ∀ c, CharClass.of (f c) = CharClass.of c) : KeepsClass f where
  letter c hc := by rwa [isLetter_iff, h, ← isLetter_iff]
  digit c hc := by rwa [isDigit_iff, h, ← isDigit_iff]
  space c hc := by rwa [isSpace_iff, h, ← isSpace_iff]
  foreign c hc := by rwa [isForeign_iff, h, ← isForeign_iff]
  operator c hc := by
    -- each operator is in a class of its own
    obtain ⟨o, ho⟩ := isOperator_iff.1 hc
    have hc : o.spelling.toList = [c] :=
      Operator.ofChar?_eq_some_iff.1 (CharClass.of_eq_operator_iff.1 ho)
    have hfc : o.spelling.toList = [f c] :=
      Operator.ofChar?_eq_some_iff.1 (CharClass.of_eq_operator_iff.1 ((h c).trans ho))
    exact List.singleton_inj.1 (hfc.symm.trans hc)

theorem isLetter_eq (hf : KeepsClass f) (c : Char) : isLetter (f c) = isLetter c := by
  rw [isLetter, isLetter, hf.class_eq]

theorem isDigit_eq (hf : KeepsClass f) (c : Char) : isDigit (f c) = isDigit c := by
  rw [isDigit, isDigit, hf.class_eq]

theorem isSpace_of_mem_map (hf : KeepsClass f) {gap : List Char}
    (hgap : ∀ c ∈ gap, isSpace c = true) : ∀ c ∈ gap.map f, isSpace c = true := by
  rw [List.forall_mem_map]
  exact fun c hc => hf.space c (hgap c hc)

/-- Nothing else becomes an equals sign. -/
theorem eq_sign_iff (hf : KeepsClass f) (c : Char) : f c = '=' ↔ c = '=' := by
  have hsign : isOperator '=' = true := rfl
  constructor
  · intro h
    have hc : isOperator c = true := by
      rw [isOperator_iff, ← hf.class_eq, h, ← isOperator_iff]
      exact hsign
    rw [← hf.operator c hc, h]
  · rintro rfl
    exact hf.operator '=' hsign

end KeepsClass

/-! ### One token -/

namespace Token

theorem toList_substitute (f : Char → Char) (t : Token) :
    (t.substitute f).literal.toList = t.literal.toList.map f := String.toList_map

theorem kind_substitute_of_isWord {t : Token} (h : t.kind.isWord = true) :
    (t.substitute f).kind = .ofWord (t.literal.map f) := if_pos h

theorem kind_substitute_of_not_isWord {t : Token} (h : ¬ t.kind.isWord = true) :
    (t.substitute f).kind = t.kind := if_neg h

end Token

/-- A text that is no word stays one of its kind. -/
theorem Kind.Spells.map {k : Kind} {w : List Char} (hk : k.Spells w) (hf : KeepsClass f)
    (hword : ¬ k.isWord = true) : k.Spells (w.map f) := by
  cases k with
  | endOfInput => exact hk.elim
  | illegal =>
    obtain ⟨c, hc, rfl⟩ := hk
    exact ⟨f c, hf.foreign c hc, rfl⟩
  | identifier => exact absurd rfl hword
  | keyword k => exact absurd rfl hword
  | integer =>
    refine ⟨mt List.map_eq_nil_iff.1 hk.1, ?_⟩
    rw [List.forall_mem_map]
    exact fun c hc => hf.digit c (hk.2 c hc)
  | operator o =>
    have hsame : ∀ c ∈ w, f c = id c := fun c hc => hf.operator c (hk.admits c hc)
    rw [List.map_congr_left hsame, List.map_id]
    exact hk

namespace Token

/-- A literal of a kind becomes one of the kind that is then looked up for it. -/
theorem WellFormed.substitute {t : Token} (ht : t.WellFormed) (hf : KeepsClass f) :
    (t.substitute f).WellFormed := by
  unfold WellFormed
  rw [toList_substitute]
  by_cases hword : t.kind.isWord = true
  · have hletters : ∀ c ∈ t.literal.toList.map f, isLetter c = true := by
      rw [List.forall_mem_map]
      exact fun c hc => hf.letter c ((Kind.isWord_iff_of_admits (ht.admits c hc)).1 hword)
    have hspells := Kind.spells_ofWord (mt List.map_eq_nil_iff.1 ht.ne_nil) hletters
    rw [← String.toList_map, String.ofList_toList] at hspells
    rw [kind_substitute_of_isWord hword, ← String.toList_map]
    exact hspells
  · rw [kind_substitute_of_not_isWord hword]
    exact ht.map hf hword

theorem continuedBy_substitute (hf : KeepsClass f) (t : Token) (c : Char) :
    (t.substitute f).kind.continuedBy (f c) = t.kind.continuedBy c := by
  by_cases hword : t.kind.isWord = true
  · rw [kind_substitute_of_isWord hword, Kind.continuedBy_of_isWord (Kind.isWord_ofWord _),
      Kind.continuedBy_of_isWord hword, hf.isLetter_eq]
  · rw [kind_substitute_of_not_isWord hword]
    cases t.kind with
    | identifier => exact hf.isLetter_eq c
    | keyword k => exact hf.isLetter_eq c
    | integer => exact hf.isDigit_eq c
    | operator o => simp [Kind.continuedBy, Bool.beq_eq_decide_eq, hf.eq_sign_iff]
    | illegal => rfl
    | endOfInput => rfl

end Token

/-- The longest lexeme stays the longest. -/
theorem LongestLexeme.map {k : Kind} {w rest : List Char} (hk : LongestLexeme k w (w ++ rest))
    (hf : KeepsClass f) :
    LongestLexeme (Token.substitute f ⟨k, String.ofList w⟩).kind (w.map f)
      (w.map f ++ rest.map f) := by
  obtain ⟨hspells, hbehind⟩ := longestLexeme_append_iff.1 hk
  have hwell : Token.WellFormed ⟨k, String.ofList w⟩ := by
    unfold Token.WellFormed
    rwa [String.toList_ofList]
  have hspells' := hwell.substitute hf
  unfold Token.WellFormed at hspells'
  rw [Token.toList_substitute, String.toList_ofList] at hspells'
  refine longestLexeme_append_iff.2 ⟨hspells', fun c hc => ?_⟩
  rw [List.head?_map] at hc
  obtain ⟨b, hb, rfl⟩ := Option.map_eq_some_iff.1 hc
  rw [Token.continuedBy_substitute hf]
  exact hbehind b hb

/-! ### All tokens -/

namespace Cursor

/-- The lexemes of the other text are those of this one, at their places. -/
theorem lexemes_map (hf : KeepsClass f) (n : Nat) (s : List Char) :
    lexemes ⟨n, s.map f⟩ = (lexemes ⟨n, s⟩).map (Lexeme.substitute f) := by
  induction s using lexemeInduction generalizing n with
  | blank gap hgap =>
    rw [lexemes_blank n hgap, lexemes_blank n (hf.isSpace_of_mem_map hgap), List.map_nil]
  | lexeme gap w rest k hgap hk ih =>
    have hliteral : String.ofList (w.map f) = (String.ofList w).map f := by
      apply String.toList_injective
      rw [String.toList_map, String.toList_ofList, String.toList_ofList]
    rw [List.map_append, List.map_append, lexemes_lexeme n hgap hk,
      lexemes_lexeme n (hf.isSpace_of_mem_map hgap) (hk.map hf), List.map_cons, ← ih,
      List.length_map, List.length_map, hliteral]
    rfl

end Cursor

theorem Token.substitute_endOfInput (f : Char → Char) :
    Token.endOfInput.substitute f = .endOfInput := by
  refine congrArg (Token.mk .endOfInput) (String.toList_injective ?_)
  rw [String.toList_map]
  rfl

theorem Lexeme.stop_substitute (f : Char → Char) (l : Lexeme) :
    (l.substitute f).stop = l.stop :=
  congrArg (l.start + ·) String.length_map

/-- In a source with other characters of the same classes, the tokens are at the same places and
    have the other characters. Only words are looked up again. -/
theorem scan_map (f : Char → Char) (hf : KeepsClass f) (source : String) :
    scan (source.map f) = (scan source).map (Token.substitute f) ∧
      (lexemes (source.map f)).map (fun l => (l.start, l.stop)) =
        (lexemes source).map fun l => (l.start, l.stop) := by
  have hlexemes : lexemes (source.map f) = (lexemes source).map (Lexeme.substitute f) := by
    unfold lexemes Cursor.start
    rw [String.toList_map]
    exact Cursor.lexemes_map hf 0 source.toList
  constructor
  · rw [scan, scan, hlexemes, List.map_append, List.map_map, List.map_map, List.map_singleton,
      Token.substitute_endOfInput]
    rfl
  · rw [hlexemes, List.map_map]
    exact List.map_congr_left fun l _ => congrArg (l.start, ·) (l.stop_substitute f)

/-- A reserved word with another letter in it is looked up again. -/
theorem scan_map_reserved :
    KeepsClass (fun c => if c = 'l' then 'λ' else c) ∧
      scan ("let x = 4".map fun c => if c = 'l' then 'λ' else c) =
        [⟨.identifier, "λet"⟩, ⟨.identifier, "x"⟩, ⟨.operator .assign, "="⟩, ⟨.integer, "4"⟩,
          .endOfInput] := by
  have hkeeps : KeepsClass (fun c => if c = 'l' then 'λ' else c) := by
    refine KeepsClass.of_class_eq fun c => ?_
    by_cases hc : c = 'l'
    · rw [if_pos hc, hc]
      decide
    · rw [if_neg hc]
  have htokens : (scan "let x = 4").map (Token.substitute fun c => if c = 'l' then 'λ' else c) =
      [⟨.identifier, "λet"⟩, ⟨.identifier, "x"⟩, ⟨.operator .assign, "="⟩, ⟨.integer, "4"⟩,
        .endOfInput] := by
    decide +kernel
  refine ⟨hkeeps, ?_⟩
  rw [(scan_map _ hkeeps "let x = 4").1]
  exact htokens

end Monkey
