import Monkey.Proofs.Munch
import Monkey.SourceFile

/-
  Legality of a source, character by character. No kind but the illegal one admits a foreign
  character, and an illegal token has just one, so the illegal tokens of a source are its foreign
  characters in their order (`filter_isIllegal_tokensOf`). What `checkLegal` says of the tokens of
  a source is then said of its characters. `checkLegal_characters` puts it beside what
  `checkLegal` says of any list of tokens.
-/

namespace Monkey

/-- White space, or part of a token that the language has. -/
def isLegal (c : Char) : Bool := isSpace c || isLetter c || isDigit c || isOperator c

/-- The classes leave out the foreign characters, and no others. -/
theorem isForeign_eq (c : Char) : isForeign c = !isLegal c := by
  have hop : isOperator c = true ↔ ∃ o, CharClass.of c = .operator o := isOperator_iff
  unfold isForeign isLegal isSpace isLetter isDigit
  cases hc : CharClass.of c <;> simp_all

/-- The token that is read for a foreign character. -/
def Token.ofForeign (c : Char) : Token := ⟨.illegal, String.singleton c⟩

namespace Kind

theorem eq_illegal_iff_of_admits {k : Kind} {c : Char} (h : k.admits c = true) :
    k = illegal ↔ isForeign c = true := by
  cases k <;>
    simp_all [admits, isForeign_iff, isLetter_iff, isDigit_iff, isOperator_iff]
  next => obtain ⟨o, ho⟩ := h; simp [ho]

/-- No foreign character is in a text of another kind than the illegal one. -/
theorem Spells.filter_isForeign_eq_nil {k : Kind} {w : List Char} (hk : k.Spells w)
    (hne : k ≠ illegal) : w.filter isForeign = [] := by
  rw [List.filter_eq_nil_iff]
  intro c hc
  rw [← eq_illegal_iff_of_admits (hk.admits c hc)]
  exact hne

/-- A token of its text is illegal exactly if the text is a foreign character. -/
theorem Spells.filter_isIllegal {k : Kind} {w : List Char} (hk : k.Spells w) :
    [Token.mk k (String.ofList w)].filter Token.isIllegal =
      (w.filter isForeign).map Token.ofForeign := by
  by_cases hill : k = illegal
  · subst hill
    obtain ⟨c, hc, rfl⟩ := hk
    rw [← String.singleton_eq_ofList]
    simp [Token.isIllegal, Token.ofForeign, hc]
  · rw [hk.filter_isForeign_eq_nil hill]
    simp [Token.isIllegal, hill]

end Kind

theorem filter_isForeign_blank {gap : List Char} (hgap : ∀ c ∈ gap, isSpace c = true) :
    gap.filter isForeign = [] := by
  rw [List.filter_eq_nil_iff]
  intro c hc
  rw [isForeign_eq, isLegal, hgap c hc]
  simp

/-- The illegal tokens of a text are its foreign characters. -/
theorem filter_isIllegal_tokensOf (s : List Char) :
    (tokensOf s).filter Token.isIllegal = (s.filter isForeign).map Token.ofForeign := by
  induction s using lexemeInduction with
  | blank gap hgap =>
    rw [tokensOf_blank hgap, filter_isForeign_blank hgap]
    rfl
  | lexeme gap w rest k hgap hk ih =>
    have hsplit : ∀ t : Token, t :: tokensOf rest = [t] ++ tokensOf rest := fun _ => rfl
    rw [tokensOf_lexeme hgap hk, hsplit, List.filter_append, ih, hk.spells.filter_isIllegal,
      List.filter_append, List.filter_append, filter_isForeign_blank hgap, List.nil_append,
      List.map_append]

theorem filter_isIllegal_scan (source : String) :
    (scan source).filter Token.isIllegal =
      (source.toList.filter isForeign).map Token.ofForeign := by
  rw [scan_eq, List.filter_append, filter_isIllegal_tokensOf]
  exact List.append_nil _

/-! ### The verdict -/

theorem checkLegal_eq_ok_iff (ts : List Token) :
    checkLegal ts = .ok () ↔ ts.filter Token.isIllegal = [] := by
  unfold checkLegal
  split
  · next h => simp [h]
  · next h => simp [h]

theorem checkLegal_of_filter_eq_cons {ts later : List Token} {first : Token}
    (h : ts.filter Token.isIllegal = first :: later) :
    checkLegal ts = .error (.illegalCharacters (later.length + 1) first.literal) := by
  unfold checkLegal
  rw [h]

/-- The elements that are found by a filter begin with the one that is found first. -/
theorem filter_eq_cons_of_find? {α : Type} {p : α → Bool} {xs : List α} {x : α}
    (h : xs.find? p = some x) : ∃ later, xs.filter p = x :: later := by
  rw [← List.head?_filter] at h
  exact List.head?_eq_some_iff.1 h

/-- A source is legal if all its characters are, and else the number of those that are not is
    told and the first of them; of any list of tokens the same is said of the illegal ones. -/
theorem checkLegal_characters (source : String) (ts : List Token) :
    ((checkLegal (scan source) = .ok () ↔ ∀ c ∈ source.toList, isLegal c = true) ∧
      ∀ c, source.toList.find? (fun c => !isLegal c) = some c →
        checkLegal (scan source) = .error (.illegalCharacters
          (source.toList.countP fun c => !isLegal c) (String.singleton c))) ∧
    ((checkLegal ts = .ok () ↔ ∀ t ∈ ts, t.kind ≠ .illegal) ∧
      ∀ t, ts.find? (·.kind == .illegal) = some t →
        checkLegal ts = .error (.illegalCharacters
          (ts.countP (·.kind == .illegal)) t.literal)) := by
  have hforeign : isForeign = fun c => !isLegal c := funext isForeign_eq
  refine ⟨⟨?_, fun c hc => ?_⟩, ?_, fun t ht => ?_⟩
  · rw [checkLegal_eq_ok_iff, filter_isIllegal_scan, List.map_eq_nil_iff,
      List.filter_eq_nil_iff, hforeign]
    simp
  · rw [← hforeign] at hc ⊢
    obtain ⟨later, hlater⟩ := filter_eq_cons_of_find? hc
    have htokens := filter_isIllegal_scan source
    rw [hlater, List.map_cons] at htokens
    rw [checkLegal_of_filter_eq_cons htokens, List.countP_eq_length_filter, hlater,
      List.length_map, List.length_cons]
    rfl
  · rw [checkLegal_eq_ok_iff, List.filter_eq_nil_iff]
    simp [Token.isIllegal]
  · obtain ⟨later, hlater⟩ := filter_eq_cons_of_find? ht
    rw [checkLegal_of_filter_eq_cons hlater, List.countP_eq_length_filter, hlater,
      List.length_cons]

/-- A foreign mark at each end of a source, and illegal tokens on both sides of the end. -/
theorem checkLegal_characters_both_ends :
    ("@ x1\u0301".toList.find? (fun c => !isLegal c) = some '@' ∧
      checkLegal (scan "@ x1\u0301") = .error (.illegalCharacters 2 "@")) ∧
    [Token.mk .illegal "two words", .endOfInput, ⟨.illegal, ""⟩].find? (·.kind == .illegal) =
        some ⟨.illegal, "two words"⟩ ∧
      checkLegal [⟨.illegal, "two words"⟩, .endOfInput, ⟨.illegal, ""⟩] =
        .error (.illegalCharacters 2 "two words") := by
  have hchar : "@ x1\u0301".toList.find? (fun c => !isLegal c) = some '@' := by decide
  have htoken : [Token.mk .illegal "two words", .endOfInput, ⟨.illegal, ""⟩].find?
      (·.kind == .illegal) = some ⟨.illegal, "two words"⟩ := by decide
  refine ⟨⟨hchar, ?_⟩, htoken, ?_⟩
  · exact (checkLegal_characters _ []).1.2 '@' hchar
  · exact (checkLegal_characters "" _).2.2 _ htoken

end Monkey
