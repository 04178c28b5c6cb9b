import Mathlib.Data.List.Chain
import Monkey.Proofs.Concatenation

/-
  Tokens written out as a text again. `layout` puts white space, or nothing, in front of the
  first token and behind each one. `scan_layout_iff` says that such a text has these tokens
  exactly if white space stands wherever two neighbours clash: the separators of `Token.Clash`
  are enough, and none of them can be left out.
-/

namespace Monkey

/-- Among the texts that begin with an equals sign are those of two operators only. -/
theorem Kind.Spells.head_eq_equals_iff {k : Kind} {c : Char} {v : List Char}
    (h : k.Spells (c :: v)) : (k = .operator .assign ∨ k = .operator .equal) ↔ c = '=' := by
  constructor
  · rintro (rfl | rfl)
    · exact (List.cons.inj h).1
    · exact (List.cons.inj h).1
  · rintro rfl
    have hadmits : k.admits '=' = true := h.admits '=' (by simp)
    cases k with
    | operator o => cases o <;> simp_all [Kind.Spells, Operator.spelling]
    | keyword w => exact absurd (show isLetter '=' = true from hadmits) (by decide)
    | _ => exact absurd hadmits (by decide)

namespace Token

/-- Neighbours clash if the second begins with a character that continues the first. -/
theorem clash_iff {t u : Token} (hu : u.WellFormed) :
    t.Clash u ↔ ∃ c ∈ u.literal.toList.head?, t.kind.continuedBy c = true := by
  obtain ⟨c, v, hv⟩ := List.exists_cons_of_ne_nil hu.ne_nil
  have hspells : u.kind.Spells (c :: v) := hv ▸ hu
  have hadmits : u.kind.admits c = true := hspells.admits c (by simp)
  unfold Clash
  rw [Kind.isWord_iff_of_admits hadmits, Kind.eq_integer_iff_of_admits hadmits,
    hspells.head_eq_equals_iff, ← Kind.continuedBy_iff, hv]
  simp

end Token

/-- The text of these tokens, each with the gap behind it, after a first gap. -/
def layout (gap : String) (ts : List (Token × String)) : String :=
  gap ++ String.join (ts.map fun (t, behind) => t.literal ++ behind)

theorem toList_layout_cons (gap behind : String) (t : Token) (ts : List (Token × String)) :
    (layout gap ((t, behind) :: ts)).toList =
      gap.toList ++ (t.literal.toList ++ (layout behind ts).toList) := by
  simp [layout]

/-- What follows a token goes on with it only if there is no gap and the next token clashes. -/
theorem continuedBy_layout_iff {t : Token} {behind : String} {ts : List (Token × String)}
    (hbehind : ∀ c ∈ behind.toList, isSpace c = true) (hts : ∀ p ∈ ts, p.1.WellFormed) :
    (∀ c ∈ (layout behind ts).toList.head?, t.kind.continuedBy c = false) ↔
      ∀ q ∈ ts.head?, behind ≠ "" ∨ ¬ t.Clash q.1 := by
  by_cases hempty : behind = ""
  · subst hempty
    cases ts with
    | nil => simp [layout]
    | cons q ts =>
      obtain ⟨u, gap⟩ := q
      have hu : u.WellFormed := hts (u, gap) (by simp)
      have hhead : (layout "" ((u, gap) :: ts)).toList.head? = u.literal.toList.head? := by
        obtain ⟨c, v, hv⟩ := List.exists_cons_of_ne_nil hu.ne_nil
        rw [toList_layout_cons, hv]
        rfl
      rw [hhead]
      simp [Token.clash_iff hu]
  · obtain ⟨c, gap, hgap⟩ := List.exists_cons_of_ne_nil (mt String.toList_eq_nil_iff.1 hempty)
    have hc : isSpace c = true := hbehind c (by simp [hgap])
    simp [layout, hempty, hgap, Kind.continuedBy_of_isSpace hc]

theorem tokensOf_layout_iff {gap : String} {ts : List (Token × String)}
    (hgap : ∀ c ∈ gap.toList, isSpace c = true)
    (hts : ∀ p ∈ ts, p.1.WellFormed ∧ ∀ c ∈ p.2.toList, isSpace c = true) :
    tokensOf (layout gap ts).toList = ts.map Prod.fst ↔
      ts.IsChain fun p q => p.2 ≠ "" ∨ ¬ p.1.Clash q.1 := by
  induction ts generalizing gap with
  | nil =>
    have hblank : tokensOf (layout gap []).toList = [] :=
      tokensOf_blank (by simpa [layout] using hgap)
    simp [hblank]
  | cons p ts ih =>
    obtain ⟨t, behind⟩ := p
    obtain ⟨ht, hbehind⟩ := hts (t, behind) (by simp)
    have hlater : ∀ p ∈ ts, p.1.WellFormed ∧ ∀ c ∈ p.2.toList, isSpace c = true :=
      fun p hp => hts p (List.mem_cons_of_mem _ hp)
    have hfirst := tokensOf_eq_cons_iff hgap ht (layout behind ts).toList (ts.map Prod.fst)
    rw [String.ofList_toList] at hfirst
    rw [toList_layout_cons, List.map_cons, List.isChain_cons, ← ih hbehind hlater,
      ← continuedBy_layout_iff hbehind fun p hp => (hlater p hp).1]
    exact hfirst

/-- A text of well-formed tokens and white space is read as these tokens exactly if white space
    keeps apart all neighbours that clash. -/
theorem scan_layout_iff (gap : String) (ts : List (Token × String))
    (hgap : ∀ c ∈ gap.toList, isSpace c = true)
    (hts : ∀ p ∈ ts, p.1.WellFormed ∧ ∀ c ∈ p.2.toList, isSpace c = true) :
    scan (layout gap ts) = ts.map Prod.fst ++ [.endOfInput] ↔
      ts.IsChain fun p q => p.2 ≠ "" ∨ ¬ p.1.Clash q.1 := by
  rw [scan_eq, List.append_cancel_right_eq]
  exact tokensOf_layout_iff hgap hts

/-- Without a gap, `!` and `==` are read as something else. -/
theorem scan_layout_bang_equal :
    (∀ c ∈ "".toList, isSpace c = true) ∧
      (∀ p ∈ [(⟨.operator .bang, "!"⟩, ""), (⟨.operator .equal, "=="⟩, " ")],
        Token.WellFormed p.1 ∧ ∀ c ∈ String.toList p.2, isSpace c = true) ∧
      scan (layout "" [(⟨.operator .bang, "!"⟩, ""), (⟨.operator .equal, "=="⟩, " ")]) ≠
        [⟨.operator .bang, "!"⟩, ⟨.operator .equal, "=="⟩, .endOfInput] := by
  have hgap : ∀ c ∈ "".toList, isSpace c = true := List.all_eq_true.1 (by decide)
  have hts : ∀ p ∈ [(⟨.operator .bang, "!"⟩, ""), (⟨.operator .equal, "=="⟩, " ")],
      Token.WellFormed p.1 ∧ ∀ c ∈ String.toList p.2, isSpace c = true := by
    rw [List.forall_mem_cons, List.forall_mem_singleton]
    exact ⟨⟨by decide, hgap⟩, by decide, List.all_eq_true.1 (by decide)⟩
  refine ⟨hgap, hts, fun h => ?_⟩
  have hchain := (scan_layout_iff "" _ hgap hts).1 h
  simp [Token.Clash] at hchain

end Monkey
