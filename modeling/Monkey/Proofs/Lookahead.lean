import Monkey.Proofs.Places

/-
  How far reading looks ahead. A lexeme stands in its text by the character behind it, and not by
  what comes later. So two texts that are the same up to the end of a lexeme and in the character
  behind it, or both end there, have the same lexemes so far (`take_lexemes_eq`). If a text is
  written on, all of its lexemes stay but the last one, and that one can only become longer
  (`exists_lexeme_append`). `looks_one_character_ahead` says both of sources.
-/

namespace Monkey

namespace Cursor

variable {n i : Nat} {l : Lexeme}

/-- Behind the first characters of a text, another text with these characters goes on. -/
theorem exists_append_of_take_eq {front s t : List Char}
    (htake : t.take front.length = (front ++ s).take front.length)
    (hnext : t[front.length]? = (front ++ s)[front.length]?) :
    ∃ later, t = front ++ later ∧ later.head? = s.head? := by
  refine ⟨t.drop front.length, ?_, ?_⟩
  · rw [List.take_left] at htake
    conv_lhs => rw [← List.take_append_drop front.length t, htake]
  · rw [List.head?_drop, hnext, List.getElem?_append_right (Nat.le_refl _), Nat.sub_self,
      List.head?_eq_getElem?]

/-- The lexemes up to one of them are those of any text that is the same up to its end, and in
    the character behind it. -/
theorem take_lexemes_eq {s t : List Char} (hl : (lexemes ⟨0, s⟩)[i]? = some l)
    (htake : t.take l.stop = s.take l.stop) (hnext : t[l.stop]? = s[l.stop]?) :
    (lexemes ⟨0, t⟩).take (i + 1) = (lexemes ⟨0, s⟩).take (i + 1) := by
  obtain ⟨front, rest, rfl, hstands, hlength⟩ := exists_stands hl
  have hstop : l.stop = (front ++ l.token.literal.toList).length := by
    rw [l.stop_eq, hstands.start_eq, Nat.zero_add, List.length_append]
  rw [hstop, ← List.append_assoc] at htake hnext
  obtain ⟨later, rfl, hhead⟩ := exists_append_of_take_eq htake hnext
  rw [List.append_assoc, (hstands.of_head?_eq hhead).lexemes_eq, hstands.lexemes_eq, ← hlength,
    List.take_length_add_append, List.take_length_add_append]
  rfl

/-- What is written behind a text lengthens its last lexeme at most. -/
theorem exists_lexeme_append {s : List Char} {ls : List Lexeme}
    (hs : lexemes ⟨n, s⟩ = ls ++ [l]) (t : List Char) :
    ∃ m later, lexemes ⟨n, s ++ t⟩ = ls ++ m :: later ∧ m.start = l.start ∧
      (m = l ∨ l.token.literal.toList <+: m.token.literal.toList ∧
        l.token.literal.length < m.token.literal.length) := by
  have hl : (lexemes ⟨n, s⟩)[ls.length]? = some l := by rw [hs, List.getElem?_concat_length]
  obtain ⟨front, rest, rfl, hstands, hlength⟩ := exists_stands hl
  obtain ⟨j, v, rest', hv, hj, hbegins⟩ := hstands.longest.spells.exists_longest (rest ++ t)
  have hfront : lexemes ⟨n, front⟩ = ls := by
    rw [hstands.lexemes_eq] at hs
    exact (List.append_inj hs hlength).1
  refine ⟨⟨⟨j, String.ofList v⟩, n + front.length⟩, lexemes ⟨n + front.length + v.length, rest'⟩,
    ?_, hstands.start_eq.symm, ?_⟩
  · rw [List.append_assoc, List.append_assoc, hstands.lexemes_append, hfront, hv, lexemes_cons _ hj]
  · rcases Nat.lt_or_ge l.token.literal.toList.length v.length with hlt | hge
    · right
      rw [String.length_toList] at hlt
      simpa using ⟨hbegins, hlt⟩
    · -- the same text is that of the same kind
      left
      obtain rfl : l.token.literal.toList = v := hbegins.eq_of_length_le hge
      obtain rfl : l.token.kind = j := hstands.longest.spells.kind_unique hj.spells
      rw [← hstands.start_eq, String.ofList_toList]

end Cursor

theorem take_scan {source : String} {n : Nat} (hn : n ≤ (lexemes source).length) :
    (scan source).take n = ((lexemes source).take n).map Lexeme.token := by
  rw [scan, List.take_append_of_le_length (by rwa [List.length_map]), List.map_take]

/-- A source is read with one character of lookahead: its tokens up to one of them depend on no
    more than the text up to its end and the next character, or on the text ending there. So a
    source that is written on keeps all its tokens, but that the last one may become longer. -/
theorem looks_one_character_ahead :
    (∀ (s t : String) (i : Nat) (l : Lexeme), (lexemes s)[i]? = some l →
      t.toList.take l.stop = s.toList.take l.stop → t.toList[l.stop]? = s.toList[l.stop]? →
      (lexemes t).take (i + 1) = (lexemes s).take (i + 1) ∧
        (scan t).take (i + 1) = (scan s).take (i + 1)) ∧
    ∀ a b : String,
      (lexemes a).dropLast <+: lexemes (a ++ b) ∧
      ∀ l ∈ (lexemes a).getLast?, ∃ m,
        (lexemes (a ++ b))[(lexemes a).length - 1]? = some m ∧ m.start = l.start ∧
        (m ≠ l → l.token.literal.toList <+: m.token.literal.toList ∧
          l.token.literal.length < m.token.literal.length) := by
  constructor
  · intro s t i l hl htake hnext
    have hsame : (lexemes t).take (i + 1) = (lexemes s).take (i + 1) :=
      Cursor.take_lexemes_eq hl htake hnext
    have hs : i + 1 ≤ (lexemes s).length := (List.getElem?_eq_some_iff.1 hl).1
    have ht : i + 1 ≤ (lexemes t).length := by
      have hlength := congrArg List.length hsame
      rw [List.length_take, List.length_take] at hlength
      omega
    refine ⟨hsame, ?_⟩
    rw [take_scan hs, take_scan ht, hsame]
  · intro a b
    rcases List.eq_nil_or_concat' (lexemes a) with hnil | ⟨ls, l, hls⟩
    · rw [hnil]
      exact ⟨List.nil_prefix, by simp⟩
    · obtain ⟨m, later, hboth, hstart, hm⟩ := Cursor.exists_lexeme_append hls b.toList
      rw [← String.toList_append] at hboth
      have hboth : lexemes (a ++ b) = ls ++ m :: later := hboth
      rw [hls, hboth, List.dropLast_concat, List.getLast?_concat, List.length_append,
        List.length_singleton, Nat.add_sub_cancel]
      refine ⟨List.prefix_append _ _, ?_⟩
      rintro l' ⟨rfl⟩
      refine ⟨m, ?_, hstart, fun hne => hm.resolve_left hne⟩
      rw [List.getElem?_append_right (Nat.le_refl _), Nat.sub_self, List.getElem?_cons_zero]

/-- A mark behind an equals sign keeps its place whatever is written behind the next letter, and
    an equals sign at the end becomes another operator by a second one. -/
theorem looks_one_character_ahead_operators :
    ((lexemes "=!a")[1]? = some ⟨⟨.operator .bang, "!"⟩, 1⟩ ∧
      "=!ab 9".toList.take 2 = "=!a".toList.take 2 ∧ "=!ab 9".toList[2]? = "=!a".toList[2]? ∧
      (lexemes "=!ab 9").take 2 = (lexemes "=!a").take 2) ∧
    (lexemes "x =").getLast? = some ⟨⟨.operator .assign, "="⟩, 2⟩ ∧
      ∃ m, (lexemes ("x =" ++ "=y"))[(lexemes "x =").length - 1]? = some m ∧ m.start = 2 ∧
        "=".length < m.token.literal.length := by
  have hbang : (lexemes "=!a")[1]? = some ⟨⟨.operator .bang, "!"⟩, 1⟩ := by decide +kernel
  have htake : "=!ab 9".toList.take 2 = "=!a".toList.take 2 := by decide
  have hnext : "=!ab 9".toList[2]? = "=!a".toList[2]? := by decide
  have hlast : (lexemes "x =").getLast? = some ⟨⟨.operator .assign, "="⟩, 2⟩ := by decide +kernel
  obtain ⟨m, hm, hstart, hlonger⟩ := (looks_one_character_ahead.2 "x =" "=y").2 _ hlast
  have hchanged : (lexemes ("x =" ++ "=y"))[(lexemes "x =").length - 1]? ≠
      some ⟨⟨.operator .assign, "="⟩, 2⟩ := by decide +kernel
  refine ⟨⟨hbang, htake, hnext, ?_⟩, hlast, m, hm, hstart, (hlonger ?_).2⟩
  · exact (looks_one_character_ahead.1 "=!a" "=!ab 9" 1 _ hbang htake hnext).1
  · rintro rfl
    exact hchanged hm

end Monkey
