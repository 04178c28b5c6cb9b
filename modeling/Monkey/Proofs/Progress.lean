import Monkey.Proofs.Coverage

/-
  Why reading comes to an end. A reading finds the end of the input exactly if only white space is
  left, and then it passes all of that; otherwise it passes the white space in front of a literal
  and the literal, which is never empty (`Cursor.read_cases`). So each token takes at least one
  character that is no white space (`length_le_literals`), which bounds the tokens that are still
  to come (`Cursor.length_lexemes_le_inked`). The loops inside of a reading, and the one that
  collects what can be pulled, are given step by step (`Cursor.Loops`, `TokenStream.Collects`) and
  come to what the cursor and the stream give at once. `reading_ends` puts all of it together.
-/

namespace Monkey

namespace Cursor

/-! ### One reading -/

/-- What a reading finds, by what is left in front of it. -/
theorem read_cases (c : Cursor) :
    ((∀ a ∈ c.rest, isSpace a = true) ∧
      c.read = (.endOfInput, ⟨c.position + c.rest.length, []⟩)) ∨
    ∃ l c', (∃ a ∈ c.rest, isSpace a = false) ∧ c.read = (.lexeme l, c') ∧
      l.token.kind ≠ .endOfInput ∧ l.token.literal ≠ "" ∧
      c'.position =
        c.position + (c.rest.takeWhile isSpace).length + l.token.literal.length := by
  obtain ⟨n, s⟩ := c
  rcases blank_or_lexeme s with hs | ⟨gap, w, rest, k, rfl, hgap, hk⟩
  · exact Or.inl ⟨hs, read_blank n hs⟩
  · refine Or.inr ⟨_, _, ?_, read_lexeme n hgap hk, ?_, ?_, ?_⟩
    · obtain ⟨a, ha⟩ := List.exists_mem_of_ne_nil w hk.spells.ne_nil
      refine ⟨a, by simp [ha], Kind.not_isSpace_of_admits (hk.spells.admits a ha)⟩
    · rintro rfl
      exact hk.spells.elim
    · intro hempty
      exact hk.spells.ne_nil (String.ofList_eq_empty_iff.1 hempty)
    · have hrun := run_append n hgap (hk.spells.head_not_space rest)
      have htake : (gap ++ (w ++ rest)).takeWhile isSpace = gap := congrArg Prod.fst hrun
      simp only [htake, String.length_ofList]

theorem kind_read_iff (c : Cursor) :
    c.read.1.token.kind = .endOfInput ↔ c.read.1 = .endOfInput := by
  rcases c.read_cases with ⟨-, hread⟩ | ⟨l, c', -, hread, hkind, -, -⟩
  · rw [hread]
    exact iff_of_true rfl rfl
  · rw [hread]
    exact iff_of_false hkind (by simp)

/-! ### Loops of a cursor -/

/-- The loop that advances as long as the current character is of this sort: the characters that
    it passes, and the cursor at which it ends. -/
inductive Loops (p : Char → Bool) : Cursor → List Char → Cursor → Prop where
  | stop {c : Cursor} : (∀ a ∈ c.current?, p a = false) → Loops p c [] c
  | pass {c c' : Cursor} {a : Char} {w : List Char} : c.current? = some a → p a = true →
    Loops p c.advance w c' → Loops p c (a :: w) c'

theorem run_of_stop {p : Char → Bool} {c : Cursor} (h : ∀ a ∈ c.current?, p a = false) :
    c.run p = ([], c) := by
  obtain ⟨n, s⟩ := c
  exact run_append n (w := []) (by simp) h

theorem run_of_current? {p : Char → Bool} {c : Cursor} {a : Char} (hc : c.current? = some a)
    (ha : p a = true) : c.run p = (a :: (c.advance.run p).1, (c.advance.run p).2) := by
  obtain ⟨n, s⟩ := c
  obtain ⟨rest, rfl⟩ := List.head?_eq_some_iff.1 hc
  simp only [run, advance, List.takeWhile_cons, List.dropWhile_cons, ha, if_true,
    List.length_cons, Nat.add_assoc, Nat.add_comm 1]

/-- The loop ends, and a run is what it comes to. -/
theorem loops_run (p : Char → Bool) (c : Cursor) : Loops p c (c.run p).1 (c.run p).2 := by
  obtain ⟨n, s⟩ := c
  induction s generalizing n with
  | nil => exact Loops.stop (by simp [current?])
  | cons a s ih =>
    rcases ha : p a with _ | _
    · rw [run_of_stop (by simp [current?, ha])]
      exact Loops.stop (by simp [current?, ha])
    · rw [run_of_current? rfl ha]
      exact Loops.pass rfl ha (ih (n + 1))

end Cursor

/-! ### Counting characters -/

/-- The literals of a text are the text without its white space. -/
theorem inked_eq_literals (s : List Char) :
    inked s = (tokensOf s).flatMap fun t => t.literal.toList := by
  induction s using lexemeInduction with
  | blank gap hgap => rw [inked_eq_nil hgap, tokensOf_blank hgap, List.flatMap_nil]
  | lexeme gap w rest k hgap hk ih =>
    have hw : ∀ a ∈ w, isSpace a = false := fun a ha =>
      Kind.not_isSpace_of_admits (hk.spells.admits a ha)
    rw [inked_append, inked_append, inked_eq_nil hgap, inked_eq_self hw, ih,
      tokensOf_lexeme hgap hk, List.flatMap_cons, String.toList_ofList, List.nil_append]

/-- Where no literal is empty there are at least as many characters as tokens, and as many only if
    each literal is one character. -/
theorem length_le_literals {ts : List Token} (hts : ∀ t ∈ ts, t.literal ≠ "") :
    ts.length ≤ (ts.flatMap fun t => t.literal.toList).length ∧
      (ts.length = (ts.flatMap fun t => t.literal.toList).length ↔
        ∀ t ∈ ts, t.literal.length = 1) := by
  induction ts with
  | nil => simp
  | cons t ts ih =>
    obtain ⟨hle, hiff⟩ := ih fun u hu => hts u (List.mem_cons_of_mem t hu)
    have hne : t.literal.length ≠ 0 := fun hzero =>
      hts t List.mem_cons_self (String.length_eq_zero_iff.1 hzero)
    rw [List.flatMap_cons, List.length_append, List.length_cons, String.length_toList,
      List.forall_mem_cons, ← hiff]
    omega

theorem length_tokensOf (s : List Char) :
    (tokensOf s).length ≤ (inked s).length ∧
      ((tokensOf s).length = (inked s).length ↔ ∀ t ∈ tokensOf s, t.literal.length = 1) := by
  rw [inked_eq_literals]
  refine length_le_literals fun t ht hempty => ?_
  exact (wellFormed_of_mem ht).ne_nil (String.toList_eq_nil_iff.2 hempty)

theorem Cursor.length_lexemes_le_inked (c : Cursor) : c.lexemes.length ≤ (inked c.rest).length := by
  have hle := (length_tokensOf c.rest).1
  rw [tokensOf_eq c.position, List.length_map] at hle
  exact hle

theorem length_scan (source : String) :
    (scan source).length ≤ (inked source.toList).length + 1 ∧
      ((scan source).length = (inked source.toList).length + 1 ↔
        ∀ t ∈ scan source, t.kind ≠ .endOfInput → t.literal.length = 1) := by
  obtain ⟨hle, hiff⟩ := length_tokensOf source.toList
  have hlength : (scan source).length = (tokensOf source.toList).length + 1 := by
    rw [scan_eq, List.length_append, List.length_singleton]
  rw [hlength, Nat.add_right_cancel_iff, hiff, scan_eq]
  refine ⟨by omega, ?_, ?_⟩
  · intro hone t ht hkind
    rcases List.mem_append.1 ht with ht | ht
    · exact hone t ht
    · rw [List.mem_singleton.1 ht] at hkind
      exact absurd rfl hkind
  · intro hone t ht
    refine hone t (List.mem_append_left _ ht) fun hkind => ?_
    have hend := not_isEndOfInput_of_mem ht
    rw [Token.isEndOfInput, hkind] at hend
    exact absurd hend (by decide)

namespace TokenStream

/-! ### The loop that collects -/

/-- The loop that pulls until nothing comes: what it gets, and the stream with which it ends. -/
inductive Collects : TokenStream → List Reading → TokenStream → Prop where
  | stop {s s' : TokenStream} : s.pull = (none, s') → Collects s [] s'
  | pulled {s s' s'' : TokenStream} {r : Reading} {rs : List Reading} : s.pull = (some r, s') →
    Collects s' rs s'' → Collects s (r :: rs) s''

/-- To take ends this loop, if nothing comes behind what is taken. -/
theorem collects_take {n : Nat} {s : TokenStream} (h : (s.take n).2.pull.1 = none) :
    Collects s (s.take n).1 (s.take n).2 := by
  induction n generalizing s with
  | zero =>
    rcases hflag : s.exhausted with _ | _
    · rw [take, pull_of_not_exhausted hflag] at h
      exact absurd h (by simp)
    · exact Collects.stop (pull_of_exhausted hflag)
  | succ n ih =>
    rcases hflag : s.exhausted with _ | _
    · rw [take_succ_of_not_exhausted hflag] at h ⊢
      exact Collects.pulled (pull_of_not_exhausted hflag) (ih h)
    · rw [take_of_exhausted hflag]
      exact Collects.stop (pull_of_exhausted hflag)

/-- The loop ends, and to drain a stream is what it comes to. -/
theorem collects_drain (s : TokenStream) : Collects s s.drain.1 s.drain.2 :=
  collects_take s.pull_drain

theorem length_drain_le (s : TokenStream) :
    s.drain.1.length ≤ (inked s.cursor.rest).length + 1 := by
  rcases hflag : s.exhausted with _ | _
  · have hle := s.cursor.length_lexemes_le_inked
    rw [drain_eq hflag, List.length_append, List.length_map, List.length_singleton]
    omega
  · rw [drain, take_of_exhausted hflag]
    exact Nat.zero_le _

/-! ### Reading from a stream -/

namespace History

/-- The characters of the source from the position of the stream on. -/
def ahead (h : History) : List Char := h.source.toList.drop h.stream.cursor.position

theorem ahead_eq (h : History) : h.ahead = h.stream.cursor.rest := by
  obtain ⟨text, hsource, hposition, -⟩ := h.exists_covered
  rw [ahead, hsource, hposition, List.drop_left]

theorem position_add_length (h : History) :
    h.stream.cursor.position + h.stream.cursor.rest.length = h.source.length := by
  obtain ⟨text, hsource, hposition, -⟩ := h.exists_covered
  rw [← String.length_toList, hsource, hposition, List.length_append]

theorem read_andThen_reads (h : History) (n : Nat) :
    (h.andThen (List.replicate n .read)).stream.read.1.token.kind = .endOfInput ↔
      h.stream.cursor.lexemes.length ≤ n := by
  have hcursor : (h.andThen (List.replicate n .read)).stream.cursor = h.stream.cursor.after n := by
    rw [stream_andThen, answers_replicate_read]
  show (h.andThen _).stream.cursor.read.1.token.kind = .endOfInput ↔ _
  rw [Cursor.kind_read_iff, Cursor.read_eq_endOfInput_iff, hcursor, Cursor.lexemes_after,
    List.drop_eq_nil_iff]

end History

/-- How reading goes on, whatever has been asked of a stream before. -/
structure Progress (h : History) : Prop where
  /-- The end of the input is read exactly if only white space is left. -/
  end_iff : h.stream.read.1.token.kind = .endOfInput ↔ ∀ c ∈ h.ahead, isSpace c = true
  /-- Then the cursor is at the end of the source. -/
  at_end : h.stream.read.1.token.kind = .endOfInput →
    h.stream.read.2.cursor.position = h.source.length ∧ h.stream.read.2.atEnd = true
  /-- Otherwise it passes white space and a literal, which is not empty. -/
  moves : h.stream.read.1.token.kind ≠ .endOfInput → h.stream.read.1.token.literal ≠ "" ∧
    h.stream.read.2.cursor.position = h.stream.cursor.position +
      (h.ahead.takeWhile isSpace).length + h.stream.read.1.token.literal.length
  /-- It never leaves the source. -/
  within : h.stream.read.2.cursor.position ≤ h.source.length
  /-- The end is read, after no more tokens than there are characters ahead that are no white
      space. -/
  ends : ∃ n ≤ (inked h.ahead).length, ∀ m,
    (h.andThen (List.replicate m .read)).stream.read.1.token.kind = .endOfInput ↔ n ≤ m
  /-- So the loop that collects what can be pulled comes to an end as well. -/
  collects : Collects h.stream h.stream.drain.1 h.stream.drain.2 ∧
    h.stream.drain.1.length ≤ (inked h.ahead).length + 1

theorem progress (h : History) : Progress h := by
  have hlength := h.position_add_length
  have hwithin : h.stream.read.2.cursor.position ≤ h.source.length := by
    have hnext := (h.andThen [.read]).position_add_length
    rw [h.stream_andThen] at hnext
    exact Nat.le.intro hnext
  have hends : ∃ n ≤ (inked h.ahead).length, ∀ m,
      (h.andThen (List.replicate m .read)).stream.read.1.token.kind = .endOfInput ↔ n ≤ m := by
    refine ⟨h.stream.cursor.lexemes.length, ?_, h.read_andThen_reads⟩
    rw [h.ahead_eq]
    exact h.stream.cursor.length_lexemes_le_inked
  have hcollects : Collects h.stream h.stream.drain.1 h.stream.drain.2 ∧
      h.stream.drain.1.length ≤ (inked h.ahead).length + 1 := by
    rw [h.ahead_eq]
    exact ⟨collects_drain h.stream, length_drain_le h.stream⟩
  rcases h.stream.cursor.read_cases with
    ⟨hblank, hcursor⟩ | ⟨l, c', ⟨a, ha, hsolid⟩, hcursor, hkind, hliteral, hposition⟩
  · have hread : h.stream.read = (.endOfInput,
        ⟨⟨h.stream.cursor.position + h.stream.cursor.rest.length, []⟩, h.stream.exhausted⟩) := by
      rw [read, hcursor]
    refine ⟨?_, ?_, ?_, hwithin, hends, hcollects⟩
    · rw [hread, h.ahead_eq]
      exact iff_of_true rfl hblank
    · rw [hread]
      exact fun _ => ⟨hlength, rfl⟩
    · rw [hread]
      exact fun hne => absurd rfl hne
  · have hread : h.stream.read = (.lexeme l, ⟨c', h.stream.exhausted⟩) := by
      rw [read, hcursor]
    refine ⟨?_, ?_, ?_, hwithin, hends, hcollects⟩
    · rw [hread, h.ahead_eq]
      refine iff_of_false hkind fun hall => ?_
      rw [hall a ha] at hsolid
      exact absurd hsolid (by simp)
    · rw [hread]
      exact fun hend => absurd hend hkind
    · rw [hread, h.ahead_eq]
      exact fun _ => ⟨hliteral, hposition⟩

end TokenStream

/-- Reading goes on to the end of the source, from wherever a stream has come, and so do the loops
    that it is made of. A source has no more tokens than characters that are no white space, apart
    from the end of the input, and as many only if each token is one character. -/
theorem reading_ends :
    (∀ h : TokenStream.History, TokenStream.Progress h) ∧
    (∀ (p : Char → Bool) (c : Cursor), Cursor.Loops p c (c.run p).1 (c.run p).2) ∧
    ∀ source : String,
      (TokenStream.ofSource source).drain.1.map Reading.token = scan source ∧
      (scan source).length ≤ (inked source.toList).length + 1 ∧
      ((scan source).length = (inked source.toList).length + 1 ↔
        ∀ t ∈ scan source, t.kind ≠ .endOfInput → t.literal.length = 1) := by
  refine ⟨TokenStream.progress, Cursor.loops_run, fun source => ⟨?_, length_scan source⟩⟩
  rw [TokenStream.drain_eq rfl, List.map_append, List.map_map]
  rfl

end Monkey
