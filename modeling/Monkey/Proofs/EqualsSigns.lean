import Mathlib.Data.Nat.Init
import Monkey.Proofs.Runs

/-
  Equals signs and exclamation marks. In a block of equals signs the lexemes are read in pairs from
  the first sign on, which leaves one over if their number is odd (`lexemes_replicate`). An
  exclamation mark right in front of the block takes the first sign to itself, so the pairs begin
  at the second. Reading always comes to these places, since no lexeme goes on with an exclamation
  mark (`not_continuedBy_mark`), and with an equals sign only one that ends in such a sign or mark.
  `equals_signs_are_paired` tells all lexemes that have equals signs or such marks in them.
-/

namespace Monkey

/-- An operator that is read at this place. -/
def Lexeme.ofOperator (o : Operator) (n : Nat) : Lexeme := ⟨⟨.operator o, o.spelling⟩, n⟩

/-- The lexeme has a character between these places. -/
def Lexeme.touches (l : Lexeme) (i j : Nat) : Bool := decide (l.start < j) && decide (i < l.stop)

/-- Equals signs from this place on, so many, two by two and the last one alone if it is left. -/
def pairedSigns (start n : Nat) : List Lexeme :=
  (List.range (n / 2)).map (fun m => .ofOperator .equal (start + 2 * m)) ++
    if n % 2 = 1 then [.ofOperator .assign (start + (n - 1))] else []

/-- What becomes of a block of `n` equals signs that begins at place `i` of a text. -/
def blockSigns (s : List Char) (i n : Nat) : List Lexeme :=
  if 0 < i ∧ s[i - 1]? = some '!' then
    .ofOperator .notEqual (i - 1) :: pairedSigns (i + 1) (n - 1)
  else pairedSigns i n

/-- What is read of the equals signs and the exclamation marks of a source. -/
structure EqualsSigns (source : String) : Prop where
  /-- The lexemes in a block of equals signs, in their order. -/
  block : ∀ i n, MaximalRun (· == '=') source.toList i (i + n) →
    (lexemes source).filter (·.touches i (i + n)) = blockSigns source.toList i n
  /-- A mark by itself is one that has no equals sign behind it. -/
  mark : ∀ l, l ∈ lexemes source ∧ l.token.kind = .operator .bang ↔
    ∃ i, l = .ofOperator .bang i ∧ source.toList[i]? = some '!' ∧
      source.toList[i + 1]? ≠ some '='
  /-- The other operators with an equals sign come of a block. -/
  sign : ∀ l ∈ lexemes source, ∀ o ∈ [Operator.assign, .equal, .notEqual],
    l.token.kind = .operator o →
      ∃ i n, MaximalRun (· == '=') source.toList i (i + n) ∧
        l ∈ blockSigns source.toList i n

theorem Lexeme.touches_iff {l : Lexeme} {i j : Nat} :
    l.touches i j = true ↔ l.start < j ∧ i < l.stop := by
  rw [touches, Bool.and_eq_true, decide_eq_true_eq, decide_eq_true_eq]

theorem stop_ofOperator (o : Operator) (n : Nat) :
    (Lexeme.ofOperator o n).stop = n + o.spelling.toList.length := Lexeme.stop_eq _

theorem pairedSigns_add_two (start n : Nat) :
    pairedSigns start (n + 2) = .ofOperator .equal start :: pairedSigns (start + 2) n := by
  have hpairs : (List.range (n / 2)).map
      ((fun m => Lexeme.ofOperator .equal (start + 2 * m)) ∘ Nat.succ) =
      (List.range (n / 2)).map fun m => .ofOperator .equal (start + 2 + 2 * m) := by
    refine List.map_congr_left fun m _ => congrArg (Lexeme.ofOperator .equal) ?_
    rw [Nat.mul_succ]
    omega
  have hlast : n % 2 = 1 → start + (n + 2 - 1) = start + 2 + (n - 1) := by omega
  unfold pairedSigns
  rw [Nat.add_div_right n (by decide), Nat.add_mod_right, List.range_succ_eq_map, List.map_cons,
    List.map_map, hpairs, List.cons_append, Nat.mul_zero, Nat.add_zero]
  by_cases hodd : n % 2 = 1
  · rw [if_pos hodd, if_pos hodd, hlast hodd]
  · rw [if_neg hodd, if_neg hodd]

/-! ### Reading at a sign or a mark -/

namespace Kind

/-- No text goes on with an exclamation mark. -/
theorem not_continuedBy_mark (k : Kind) : k.continuedBy '!' = false := by
  rw [Bool.eq_false_iff]
  intro h
  rcases continuedBy_iff.1 h with ⟨-, hletter⟩ | ⟨-, hdigit⟩ | ⟨-, hsign⟩
  · exact absurd hletter (by decide)
  · exact absurd hdigit (by decide)
  · exact absurd hsign (by decide)

/-- Only an equals sign and an exclamation mark go on with an equals sign. -/
theorem eq_assign_or_bang {k : Kind} (h : k.continuedBy '=' = true) :
    k = operator .assign ∨ k = operator .bang := by
  rcases continuedBy_iff.1 h with ⟨-, hletter⟩ | ⟨-, hdigit⟩ | ⟨hk, -⟩
  · exact absurd hletter (by decide)
  · exact absurd hdigit (by decide)
  · exact hk

end Kind

/-- An operator is the longest lexeme at its text, if it is not lengthened there. -/
theorem longestLexeme_operator {o : Operator} {rest : List Char}
    (h : o.withEquals? = none ∨ rest.head? ≠ some '=') :
    LongestLexeme (.operator o) o.spelling.toList (o.spelling.toList ++ rest) := by
  refine longestLexeme_append_iff.2 ⟨rfl, fun c hc => ?_⟩
  rcases h with hnone | hhead
  · simp [Kind.continuedBy, hnone]
  · have hne : c ≠ '=' := by
      rintro rfl
      exact hhead hc
    simp [Kind.continuedBy, hne]

theorem lexemes_operator (o : Operator) (rest : List Char) (p : Nat)
    (h : o.withEquals? = none ∨ rest.head? ≠ some '=') :
    Cursor.lexemes ⟨p, o.spelling.toList ++ rest⟩ =
      .ofOperator o p :: Cursor.lexemes ⟨p + o.spelling.toList.length, rest⟩ := by
  rw [Cursor.lexemes_cons p (longestLexeme_operator h), String.ofList_toList]
  rfl

/-- Equals signs are read two by two. -/
theorem lexemes_replicate {rest : List Char} (hrest : rest.head? ≠ some '=') (n p : Nat) :
    Cursor.lexemes ⟨p, List.replicate n '=' ++ rest⟩ =
      pairedSigns p n ++ Cursor.lexemes ⟨p + n, rest⟩ := by
  induction n using Nat.twoStepInduction generalizing p with
  | zero => rfl
  | one => exact lexemes_operator .assign rest p (Or.inr hrest)
  | more n ih _ =>
    have hplace : p + (n + 2) = p + 2 + n := by omega
    rw [pairedSigns_add_two, List.cons_append, hplace, ← ih]
    exact lexemes_operator .equal (List.replicate n '=' ++ rest) p (Or.inl rfl)

/-! ### The lexemes of a block -/

/-- The lexemes that touch a part of a text are those between the ones that end before it and the
    ones that begin behind it. -/
theorem filter_touches {before within behind : List Lexeme} {i j : Nat}
    (hbefore : ∀ l ∈ before, l.stop ≤ i) (hwithin : ∀ l ∈ within, l.start < j ∧ i < l.stop)
    (hbehind : ∀ l ∈ behind, j ≤ l.start) :
    (before ++ (within ++ behind)).filter (·.touches i j) = within := by
  have hnone : before.filter (·.touches i j) = [] := by
    rw [List.filter_eq_nil_iff]
    intro l hl htouches
    have hstop := hbefore l hl
    have := Lexeme.touches_iff.1 htouches
    omega
  have hall : within.filter (·.touches i j) = within :=
    List.filter_eq_self.2 fun l hl => Lexeme.touches_iff.2 (hwithin l hl)
  have hlast : behind.filter (·.touches i j) = [] := by
    rw [List.filter_eq_nil_iff]
    intro l hl htouches
    have hstart := hbehind l hl
    have := Lexeme.touches_iff.1 htouches
    omega
  rw [List.filter_append, List.filter_append, hnone, hall, hlast, List.append_nil,
    List.nil_append]

/-- Where reading comes to a place and goes on at `j`, what it reads in between are the lexemes
    that touch the part of the text up to there. -/
theorem filter_read {front text rest : List Char} {within : List Lexeme} {i j : Nat}
    (hapart : ∀ k ∈ openKind? front, ∀ c ∈ text.head?, k.continuedBy c = false)
    (hread : Cursor.lexemes ⟨front.length, text⟩ = within ++ Cursor.lexemes ⟨j, rest⟩)
    (hi : front.length ≤ i) (hwithin : ∀ l ∈ within, l.start < j ∧ i < l.stop) :
    (Cursor.lexemes ⟨0, front ++ text⟩).filter (·.touches i j) = within := by
  rw [Cursor.lexemes_append 0 hapart, Nat.zero_add, hread]
  refine filter_touches ?_ hwithin ?_
  · intro l hl
    have := Cursor.span_of_mem_lexemes hl
    omega
  · intro l hl
    exact (Cursor.span_of_mem_lexemes hl).1

theorem span_of_mem_pairedSigns {p n : Nat} {l : Lexeme} (h : l ∈ pairedSigns p n) :
    p ≤ l.start ∧ l.start < l.stop ∧ l.stop ≤ p + n := by
  have hread : Cursor.lexemes ⟨p, List.replicate n '=' ++ []⟩ = pairedSigns p n := by
    rw [lexemes_replicate (by simp) n p, Cursor.lexemes_blank _ (by simp), List.append_nil]
  rw [← hread] at h
  have hspan := Cursor.span_of_mem_lexemes h
  rwa [List.append_nil, List.length_replicate] at hspan

/-- In front of an equals sign, only an equals sign or an exclamation mark goes on. -/
theorem apart_of_getLast?_ne {front : List Char} (hsign : front.getLast? ≠ some '=')
    (hmark : front.getLast? ≠ some '!') : ∀ k ∈ openKind? front, k.continuedBy '=' = false := by
  intro k hk
  obtain ⟨before, w, rfl, hw⟩ := exists_text_of_openKind? hk
  rw [Bool.eq_false_iff]
  intro hcont
  rcases Kind.eq_assign_or_bang hcont with rfl | rfl
  · obtain rfl : w = ['='] := hw
    exact hsign List.getLast?_concat
  · obtain rfl : w = ['!'] := hw
    exact hmark List.getLast?_concat

/-- A block without a mark in front of it is read in pairs. -/
theorem filter_block {front rest : List Char} (n : Nat) (hsign : front.getLast? ≠ some '=')
    (hmark : front.getLast? ≠ some '!') (hrest : rest.head? ≠ some '=') :
    (Cursor.lexemes ⟨0, front ++ (List.replicate (n + 1) '=' ++ rest)⟩).filter
      (·.touches front.length (front.length + (n + 1))) = pairedSigns front.length (n + 1) := by
  have hapart : ∀ k ∈ openKind? front, ∀ c ∈ (List.replicate (n + 1) '=' ++ rest).head?,
      k.continuedBy c = false := by
    rintro k hk c ⟨rfl⟩
    exact apart_of_getLast?_ne hsign hmark k hk
  refine filter_read hapart (lexemes_replicate hrest _ _) (Nat.le_refl _) fun l hl => ?_
  have := span_of_mem_pairedSigns hl
  omega

/-- A mark in front of a block takes the first sign, and the others are read in pairs. -/
theorem filter_marked_block {front rest : List Char} (n : Nat) (hrest : rest.head? ≠ some '=') :
    (Cursor.lexemes ⟨0, front ++ '!' :: (List.replicate (n + 1) '=' ++ rest)⟩).filter
      (·.touches (front.length + 1) (front.length + 1 + (n + 1))) =
        .ofOperator .notEqual front.length :: pairedSigns (front.length + 1 + 1) n := by
  have hapart : ∀ k ∈ openKind? front,
      ∀ c ∈ ('!' :: (List.replicate (n + 1) '=' ++ rest)).head?, k.continuedBy c = false := by
    rintro k hk c ⟨rfl⟩
    exact k.not_continuedBy_mark
  have hread : Cursor.lexemes ⟨front.length, '!' :: (List.replicate (n + 1) '=' ++ rest)⟩ =
      .ofOperator .notEqual front.length :: pairedSigns (front.length + 1 + 1) n ++
        Cursor.lexemes ⟨front.length + 1 + 1 + n, rest⟩ := by
    rw [List.cons_append, ← lexemes_replicate hrest]
    exact lexemes_operator .notEqual _ _ (Or.inl rfl)
  have hplace : front.length + 1 + (n + 1) = front.length + 1 + 1 + n := by omega
  rw [hplace]
  refine filter_read hapart hread (Nat.le_succ _) fun l hl => ?_
  rcases List.mem_cons.1 hl with rfl | hl
  · have hstop := stop_ofOperator .notEqual front.length
    have hlength : Operator.notEqual.spelling.toList.length = 2 := rfl
    have hstart : (Lexeme.ofOperator .notEqual front.length).start = front.length := rfl
    omega
  · have := span_of_mem_pairedSigns hl
    omega

/-! ### The signs and marks of a source -/

theorem blockSigns_append {front rest : List Char} (n : Nat) :
    blockSigns (front ++ '!' :: rest) (front.length + 1) (n + 1) =
      .ofOperator .notEqual front.length :: pairedSigns (front.length + 1 + 1) n := by
  have hmark : 0 < front.length + 1 ∧
      (front ++ '!' :: rest)[front.length + 1 - 1]? = some '!' := by
    simp
  rw [blockSigns, if_pos hmark, Nat.add_sub_cancel, Nat.add_sub_cancel]

theorem blockSigns_of_getLast?_ne {front rest : List Char} (n : Nat)
    (h : front.getLast? ≠ some '!') :
    blockSigns (front ++ rest) front.length n = pairedSigns front.length n := by
  have hmark : ¬ (0 < front.length ∧ (front ++ rest)[front.length - 1]? = some '!') := by
    rintro ⟨hpos, hget⟩
    rw [List.getElem?_append_left (by omega), ← List.getLast?_eq_getElem?] at hget
    exact h hget
  rw [blockSigns, if_neg hmark]

theorem filter_touches_eq_blockSigns {source : String} {i n : Nat}
    (h : MaximalRun (· == '=') source.toList i (i + n)) :
    (lexemes source).filter (·.touches i (i + n)) = blockSigns source.toList i n := by
  obtain ⟨front, w, rest, hsource, rfl, hn⟩ := h.exists_append
  obtain rfl : n = w.length := Nat.add_left_cancel hn
  show (Cursor.lexemes ⟨0, source.toList⟩).filter _ = _
  rw [hsource] at h ⊢
  obtain ⟨hne, hinside, hbefore, hbehind⟩ := MaximalRun.append_iff.1 h
  obtain ⟨n, hn⟩ := Nat.exists_eq_add_of_lt (List.length_pos_iff.2 hne)
  rw [Nat.zero_add] at hn
  obtain rfl : w = List.replicate (n + 1) '=' :=
    List.eq_replicate_iff.2 ⟨hn, fun c hc => by simpa using hinside c hc⟩
  have hrest : rest.head? ≠ some '=' := fun hhead => by simpa using hbehind '=' hhead
  have hsign : front.getLast? ≠ some '=' := fun hlast => by simpa using hbefore '=' hlast
  rw [List.length_replicate]
  by_cases hmark : front.getLast? = some '!'
  · obtain ⟨before, rfl⟩ := List.getLast?_eq_some_iff.1 hmark
    rw [List.length_append, List.length_singleton, List.append_assoc, List.singleton_append,
      filter_marked_block n hrest, blockSigns_append]
  · rw [filter_block n hsign hmark hrest, blockSigns_of_getLast?_ne _ hmark]

/-- An operator is read where its spelling stands and does not go on, unless it is used up by
    what is in front of it. -/
theorem mem_lexemes_operator_iff {source : String} {o : Operator} {l : Lexeme} :
    l ∈ lexemes source ∧ l.token.kind = .operator o ↔
      ∃ front rest, source.toList = front ++ (o.spelling.toList ++ rest) ∧
        l = .ofOperator o front.length ∧
        (∀ c ∈ rest.head?, (Kind.operator o).continuedBy c = false) ∧
        ∀ k ∈ openKind? front, ∀ c ∈ o.spelling.toList.head?, k.continuedBy c = false := by
  constructor
  · rintro ⟨hl, hkind⟩
    obtain ⟨front, rest, hsource, hstart, hlongest, hapart⟩ := Cursor.mem_lexemes_iff.1 hl
    obtain ⟨⟨k, literal⟩, start⟩ := l
    obtain rfl : k = .operator o := hkind
    obtain rfl : literal = o.spelling := String.toList_injective hlongest.spells
    rw [Nat.zero_add] at hstart
    exact ⟨front, rest, hsource, congrArg (Lexeme.mk _) hstart,
      (longestLexeme_append_iff.1 hlongest).2, hapart⟩
  · rintro ⟨front, rest, hsource, rfl, hbehind, hapart⟩
    refine ⟨Cursor.mem_lexemes_iff.2 ⟨front, rest, hsource, ?_, ?_, hapart⟩, rfl⟩
    · rw [Nat.zero_add]
      rfl
    · exact longestLexeme_append_iff.2 ⟨rfl, hbehind⟩

theorem getElem?_length_append (front rest : List Char) (c : Char) :
    (front ++ c :: rest)[front.length]? = some c ∧
      (front ++ c :: rest)[front.length + 1]? = rest.head? := by
  constructor
  · rw [List.getElem?_append_right (Nat.le_refl _), Nat.sub_self, List.getElem?_cons_zero]
  · rw [List.getElem?_append_right (Nat.le_add_right _ 1), Nat.add_sub_cancel_left,
      List.getElem?_cons_succ, List.head?_eq_getElem?]

/-- An exclamation mark is a lexeme by itself unless an equals sign is right behind it. -/
theorem mem_lexemes_mark_iff {source : String} {l : Lexeme} :
    l ∈ lexemes source ∧ l.token.kind = .operator .bang ↔
      ∃ i, l = .ofOperator .bang i ∧ source.toList[i]? = some '!' ∧
        source.toList[i + 1]? ≠ some '=' := by
  have hcont : ∀ c, (Kind.operator .bang).continuedBy c = (c == '=') := fun _ => rfl
  rw [mem_lexemes_operator_iff]
  constructor
  · rintro ⟨front, rest, hsource, rfl, hbehind, -⟩
    have hsource : source.toList = front ++ '!' :: rest := hsource
    obtain ⟨hmark, hnext⟩ := getElem?_length_append front rest '!'
    rw [hsource]
    refine ⟨front.length, rfl, hmark, fun hsign => ?_⟩
    have hcontinued := hbehind '=' (hnext ▸ hsign)
    rw [hcont] at hcontinued
    exact absurd hcontinued (by decide)
  · rintro ⟨i, rfl, hmark, hsign⟩
    obtain ⟨hlt, hget⟩ := List.getElem?_eq_some_iff.1 hmark
    have hlength : (source.toList.take i).length = i := by
      rw [List.length_take, Nat.min_eq_left (Nat.le_of_lt hlt)]
    have hsource : source.toList = source.toList.take i ++ '!' :: source.toList.drop (i + 1) := by
      rw [← hget, ← List.drop_eq_getElem_cons hlt, List.take_append_drop]
    refine ⟨_, _, hsource, congrArg _ hlength.symm, fun c hc => ?_, ?_⟩
    · rw [hcont, beq_eq_false_iff_ne]
      rintro rfl
      rw [List.head?_drop] at hc
      exact hsign hc
    · rintro k - c ⟨rfl⟩
      exact k.not_continuedBy_mark

/-- An operator that ends in an equals sign is one of those in a block. -/
theorem exists_block {source : String} {o : Operator} {l : Lexeme} {u : List Char}
    (hl : l ∈ lexemes source) (hkind : l.token.kind = .operator o)
    (ho : o.spelling.toList = u ++ ['=']) :
    ∃ i n, MaximalRun (· == '=') source.toList i (i + n) ∧
      l ∈ blockSigns source.toList i n := by
  obtain ⟨front, rest, hsource, rfl, -, -⟩ := mem_lexemes_operator_iff.1 ⟨hl, hkind⟩
  have hsign : source.toList = (front ++ u) ++ '=' :: rest := by
    rw [hsource, ho, List.append_assoc, List.append_assoc, List.singleton_append]
  obtain ⟨i, j, hrun, hle, hlt⟩ :=
    MaximalRun.exists_around (p := (· == '=')) (front ++ u) rest (beq_self_eq_true '=')
  rw [← hsign] at hrun
  obtain ⟨n, rfl⟩ := Nat.exists_eq_add_of_lt hrun.lt
  -- the last character of the operator is in the block
  have htouches : (Lexeme.ofOperator o front.length).touches i (i + n + 1) = true := by
    have hstart : (Lexeme.ofOperator o front.length).start = front.length := rfl
    rw [List.length_append] at hle hlt
    rw [Lexeme.touches_iff, stop_ofOperator, hstart, ho, List.length_append,
      List.length_singleton]
    omega
  refine ⟨i, n + 1, hrun, ?_⟩
  rw [← filter_touches_eq_blockSigns hrun, List.mem_filter]
  exact ⟨hl, htouches⟩

/-- Blocks of equals signs are read in pairs, but for a sign that a mark in front takes and for
    the one that is left over. Nothing else in a source is read as such a sign or mark. -/
theorem equals_signs_are_paired (source : String) : EqualsSigns source := by
  refine ⟨fun i n hrun => filter_touches_eq_blockSigns hrun, fun l => mem_lexemes_mark_iff, ?_⟩
  intro l hl o ho hkind
  simp only [List.mem_cons, List.not_mem_nil, or_false] at ho
  rcases ho with rfl | rfl | rfl
  · exact exists_block (u := []) hl hkind rfl
  · exact exists_block (u := ['=']) hl hkind rfl
  · exact exists_block (u := ['!']) hl hkind rfl

/-- Three signs behind a mark. -/
theorem equals_signs_are_paired_behind_mark :
    MaximalRun (· == '=') "a!===b".toList 2 (2 + 3) ∧
      (lexemes "a!===b").filter (·.touches 2 (2 + 3)) =
        [.ofOperator .notEqual 1, .ofOperator .equal 3] := by
  have hrun : MaximalRun (· == '=') "a!===b".toList 2 (2 + 3) := by decide
  refine ⟨hrun, ?_⟩
  rw [(equals_signs_are_paired "a!===b").block 2 3 hrun]
  decide

end Monkey
