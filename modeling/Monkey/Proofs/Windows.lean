import Monkey.Proofs.Progress
import Monkey.Window

/-
  Windows keep in step. In a window that moves have brought somewhere, all that it keeps can be
  told from its position (`InStep`), so it is the window that `moveTo` puts there. What each
  operation does is then one equation: it goes to the position to which the same operation takes
  the cursor that knows nothing but the characters ahead (`InStep.advance_eq`,
  `InStep.passWhile_eq`, `InStep.run_eq`, `InStep.read_eq`). No position that is reached this way
  is behind the end or in front of where the window was, so nothing is ever cut out between
  positions that do not fit (`InStep.exists_move`). `windows_keep_in_step` says it of all moves.
-/

namespace Monkey

/-- The text is as much of `s` as there is without a character that fails the predicate. -/
structure LongestRun (p : Char → Bool) (s text : List Char) : Prop where
  isPrefixOf : text <+: s
  satisfies : ∀ c ∈ text, p c = true
  longest : ∀ v, v <+: s → (∀ c ∈ v, p c = true) → v.length ≤ text.length

theorem longestRun_takeWhile (p : Char → Bool) (s : List Char) :
    LongestRun p s (s.takeWhile p) := by
  refine ⟨List.takeWhile_prefix p, fun c hc => List.all_eq_true.1 List.all_takeWhile c hc, ?_⟩
  intro v hv hp
  obtain ⟨t, rfl⟩ := hv
  rw [List.takeWhile_append_of_pos hp, List.length_append]
  omega

namespace Operator

variable {o p : Operator} {c : Char}

theorem singleton_of_ofChar? (h : ofChar? c = some o) : String.singleton c = o.spelling := by
  rw [String.singleton_eq_ofList, ← ofChar?_eq_some_iff.1 h, String.ofList_toList]

theorem ofList_of_withEquals? (h : ofChar? c = some o) (hp : o.withEquals? = some p) :
    String.ofList [c, '='] = p.spelling := by
  have hspelling : p.spelling.toList = [c, '='] := by
    rw [withEquals?_eq_some_iff.1 hp, ofChar?_eq_some_iff.1 h]
    rfl
  rw [← hspelling, String.ofList_toList]

end Operator

namespace Window

variable {w : Window} {c : Cursor} {n : Nat}

/-! ### Where a window stands -/

/-- On a character of its source, which it shows. -/
def OnCharacter (w : Window) : Prop :=
  ∃ h : w.position < w.source.length,
    w.current? = some w.source[w.position] ∧ w.nextPosition = w.position + 1

/-- Behind the last character of its source. -/
def BehindAll (w : Window) : Prop :=
  w.current? = none ∧ w.position = w.source.length ∧ w.nextPosition = w.source.length + 1

instance : Decidable w.OnCharacter := inferInstanceAs (Decidable (∃ _ : _, _))

instance : Decidable w.BehindAll := inferInstanceAs (Decidable (_ ∧ _))

/-- All that the window keeps can be told from its position, and the end of the input has been
    pulled at the end of the source only. -/
structure InStep (w : Window) : Prop where
  current?_eq : w.current? = w.source[w.position]?
  nextPosition_eq : w.nextPosition = w.position + 1
  position_le : w.position ≤ w.source.length
  exhausted_end : w.exhausted = true → w.position = w.source.length

theorem InStep.onCharacter_or_behindAll (h : w.InStep) : w.OnCharacter ∨ w.BehindAll := by
  rcases Nat.lt_or_eq_of_le h.position_le with hlt | heq
  · refine Or.inl ⟨hlt, ?_, h.nextPosition_eq⟩
    rw [h.current?_eq, List.getElem?_eq_getElem hlt]
  · refine Or.inr ⟨?_, heq, ?_⟩
    · rw [h.current?_eq, List.getElem?_eq_none (by omega)]
    · rw [h.nextPosition_eq, heq]

theorem InStep.current?_eq_none_iff (h : w.InStep) :
    w.current? = none ↔ w.position = w.source.length := by
  have hle := h.position_le
  rw [h.current?_eq, List.getElem?_eq_none_iff]
  omega

/-- The window at another position of the same source. -/
def moveTo (n : Nat) (w : Window) : Window :=
  { w with position := n, nextPosition := n + 1, current? := w.source[n]? }

theorem moveTo_moveTo (m n : Nat) (w : Window) : (w.moveTo m).moveTo n = w.moveTo n := rfl

theorem InStep.moveTo_position (h : w.InStep) : w.moveTo w.position = w := by
  unfold moveTo
  rw [← h.nextPosition_eq, ← h.current?_eq]

theorem InStep.moveTo (h : w.InStep) (hle : w.position ≤ n) (hn : n ≤ w.source.length) :
    (w.moveTo n).InStep := by
  refine ⟨rfl, rfl, hn, fun hend => ?_⟩
  have hposition := h.exhausted_end hend
  show n = w.source.length
  omega

/-! ### What a window has ahead -/

/-- The cursor has what the source of the window has from there on, and is not in front of it. -/
structure Reaches (w : Window) (c : Cursor) : Prop where
  le_position : w.position ≤ c.position
  position_le : c.position ≤ w.source.length
  rest_eq : c.rest = w.source.drop c.position

theorem Reaches.cursor_moveTo (h : w.Reaches c) : (w.moveTo c.position).cursor = c := by
  show Cursor.mk c.position (w.source.drop c.position) = c
  rw [← h.rest_eq]

theorem Reaches.inStep_moveTo (h : w.Reaches c) (hw : w.InStep) :
    (w.moveTo c.position).InStep := hw.moveTo h.le_position h.position_le

theorem Reaches.trans {d : Cursor} (h : w.Reaches c) (hd : (w.moveTo c.position).Reaches d) :
    w.Reaches d := ⟨Nat.le_trans h.le_position hd.le_position, hd.position_le, hd.rest_eq⟩

/-- What is behind some text ahead can be reached. -/
theorem InStep.reaches_of_append (h : w.InStep) (text : List Char)
    (hrest : w.cursor.rest = text ++ c.rest)
    (hposition : c.position = w.position + text.length) : w.Reaches c := by
  have hdrop : w.source.drop w.position = text ++ c.rest := hrest
  have hlength := congrArg List.length hdrop
  have hle := h.position_le
  rw [List.length_drop, List.length_append] at hlength
  refine ⟨by omega, by omega, ?_⟩
  rw [hposition, ← List.drop_drop, hdrop, List.drop_left]

theorem InStep.current?_cursor (h : w.InStep) : w.cursor.current? = w.current? := by
  rw [h.current?_eq]
  exact List.head?_drop

theorem InStep.peek?_cursor (h : w.InStep) : w.cursor.peek? = w.peek? := by
  unfold peek?
  rw [h.nextPosition_eq]
  exact List.getElem?_drop

theorem InStep.reaches_advance (h : w.InStep) : w.Reaches w.cursor.advance := by
  unfold Cursor.advance
  split
  · exact ⟨Nat.le_refl _, h.position_le, rfl⟩
  · next a rest hrest => exact h.reaches_of_append [a] hrest rfl

theorem InStep.reaches_run (h : w.InStep) (p : Char → Bool) : w.Reaches (w.cursor.run p).2 :=
  h.reaches_of_append _ List.takeWhile_append_dropWhile.symm rfl

theorem InStep.reaches_read (h : w.InStep) : w.Reaches w.cursor.read.2 := by
  obtain ⟨gap, hpasses⟩ := w.cursor.read_passes
  apply h.reaches_of_append (gap ++ w.cursor.read.1.token.literal.toList)
  · rw [List.append_assoc]
    exact hpasses.rest
  · rw [List.length_append, ← Nat.add_assoc]
    exact hpasses.position

/-! ### Advancing -/

theorem InStep.position_advance_cursor (h : w.InStep) :
    w.cursor.advance.position = min (w.position + 1) w.source.length := by
  have hle := h.position_le
  unfold Cursor.advance
  split
  · next hnil =>
    have hend : w.source.length ≤ w.position := List.drop_eq_nil_iff.1 hnil
    show w.position = _
    omega
  · next a rest hcons =>
    have hlength := congrArg List.length (show w.source.drop w.position = a :: rest from hcons)
    rw [List.length_drop, List.length_cons] at hlength
    show w.position + 1 = _
    omega

/-- To advance is to go to the next position, but not behind the end of the source. -/
theorem advance_eq_moveTo (w : Window) :
    w.advance = w.moveTo (min w.nextPosition w.source.length) := by
  unfold advance
  split
  · next c hc =>
    have hlt : w.nextPosition < w.source.length := (List.getElem?_eq_some_iff.1 hc).1
    rw [Nat.min_eq_left (Nat.le_of_lt hlt), moveTo, hc]
  · next hnone =>
    have hend : w.source.length ≤ w.nextPosition := List.getElem?_eq_none_iff.1 hnone
    rw [Nat.min_eq_right hend, moveTo, List.getElem?_eq_none (Nat.le_refl _)]

theorem ofSource_eq_moveTo (source : String) :
    ofSource source = moveTo 0 ⟨source.toList, 0, 0, none, false⟩ := by
  unfold ofSource
  rw [advance_eq_moveTo, Nat.zero_min]

theorem inStep_ofSource (source : String) : (ofSource source).InStep := by
  rw [ofSource_eq_moveTo]
  exact ⟨rfl, rfl, Nat.zero_le _, by simp [moveTo]⟩

theorem InStep.advance_eq (h : w.InStep) : w.advance = w.moveTo w.cursor.advance.position := by
  rw [advance_eq_moveTo, h.nextPosition_eq, h.position_advance_cursor]

theorem InStep.advance (h : w.InStep) : w.advance.InStep := by
  rw [h.advance_eq]
  exact h.reaches_advance.inStep_moveTo h

theorem InStep.cursor_advance (h : w.InStep) : w.advance.cursor = w.cursor.advance := by
  rw [h.advance_eq]
  exact h.reaches_advance.cursor_moveTo

/-- Two steps lead where the cursor comes in two steps. -/
theorem InStep.advance_advance_eq (h : w.InStep) :
    w.advance.advance = w.moveTo w.cursor.advance.advance.position := by
  rw [h.advance.advance_eq, h.cursor_advance, h.advance_eq, moveTo_moveTo]

theorem InStep.reaches_advance_advance (h : w.InStep) :
    w.Reaches w.cursor.advance.advance := by
  have hnext := h.advance.reaches_advance
  rw [h.cursor_advance, h.advance_eq] at hnext
  exact h.reaches_advance.trans hnext

/-! ### Runs -/

theorem slice?_eq_some {first last : Nat} (hle : first ≤ last) (hlast : last ≤ w.source.length) :
    w.slice? first last = some (w.source.extract first last) := if_pos ⟨hle, hlast⟩

/-- A run that is over leaves the window where it is. -/
theorem InStep.moveTo_run_of_stop (h : w.InStep) {p : Char → Bool}
    (hstop : ∀ a ∈ w.current?, p a = false) : w.moveTo (w.cursor.run p).2.position = w := by
  rw [← h.current?_cursor] at hstop
  rw [Cursor.run_of_stop hstop]
  exact h.moveTo_position

/-- The loop comes to the end of the run. -/
theorem InStep.passWhile_eq (h : w.InStep) (p : Char → Bool) :
    w.passWhile p = w.moveTo (w.cursor.run p).2.position := by
  fun_induction passWhile p w with
  | case1 w c hc hp ih =>
    have hcurrent : w.cursor.current? = some c := h.current?_cursor.trans hc
    -- the loop goes on from a window that is in step again, one character further
    rw [ih h.advance, h.cursor_advance, Cursor.run_of_current? hcurrent hp, h.advance_eq,
      moveTo_moveTo]
  | case2 w c hc hp =>
    have hstop : ∀ a ∈ w.current?, p a = false := by
      rw [hc]
      simpa using hp
    exact (h.moveTo_run_of_stop hstop).symm
  | case3 w hnone =>
    have hstop : ∀ a ∈ w.current?, p a = false := by
      rw [hnone]
      simp
    exact (h.moveTo_run_of_stop hstop).symm

theorem extract_eq (w : Window) (p : Char → Bool) :
    w.source.extract w.position (w.cursor.run p).2.position = (w.cursor.run p).1 := by
  have hposition : (w.cursor.run p).2.position - w.position =
      ((w.source.drop w.position).takeWhile p).length := Nat.add_sub_cancel_left _ _
  show (w.source.drop w.position).take ((w.cursor.run p).2.position - w.position) =
    (w.source.drop w.position).takeWhile p
  rw [hposition]
  exact (List.prefix_iff_eq_take.1 (List.takeWhile_prefix p)).symm

/-- What has been passed is cut out within the source. -/
theorem InStep.slice?_run (h : w.InStep) (p : Char → Bool) :
    (w.moveTo (w.cursor.run p).2.position).slice? w.position (w.cursor.run p).2.position =
      some (w.cursor.run p).1 := by
  have hreach := h.reaches_run p
  refine (slice?_eq_some hreach.le_position hreach.position_le).trans ?_
  exact congrArg some (w.extract_eq p)

theorem InStep.run_eq (h : w.InStep) (p : Char → Bool) :
    w.run p = some (String.ofList (w.cursor.run p).1,
      w.moveTo (w.cursor.run p).2.position) := by
  unfold run
  rw [h.passWhile_eq]
  show ((w.moveTo (w.cursor.run p).2.position).slice? w.position
    (w.cursor.run p).2.position).bind _ = _
  rw [h.slice?_run]
  rfl

/-! ### One token -/

theorem InStep.single_eq (h : w.InStep) (ch : Char) (k : Kind) :
    w.single ch k = (⟨k, String.singleton ch⟩, w.moveTo w.cursor.advance.position) := by
  unfold single
  rw [h.advance_eq]

theorem InStep.either_eq (h : w.InStep) {ch : Char} {o p : Operator}
    (ho : Operator.ofChar? ch = some o) (hp : o.withEquals? = some p) :
    w.either ch '=' (.operator o) (.operator p) =
      ((w.cursor.operator o).1, w.moveTo (w.cursor.operator o).2.position) := by
  unfold either Cursor.operator
  rw [hp, h.peek?_cursor, h.single_eq, h.advance_advance_eq, Operator.singleton_of_ofChar? ho,
    Operator.ofList_of_withEquals? ho hp]
  dsimp only
  split <;> rfl

/-- How far it goes depends on the second character only. -/
theorem InStep.snd_either_eq (h : w.InStep) (current second : Char) (alone paired : Kind) :
    (w.either current second alone paired).2 = w.moveTo
      (if w.cursor.peek? = some second then w.cursor.advance.advance
        else w.cursor.advance).position := by
  unfold either
  rw [h.peek?_cursor]
  split
  · exact h.advance_advance_eq
  · exact h.advance_eq

theorem InStep.munch_eq (h : w.InStep) (ch : Char) :
    w.munch ch = some ((w.cursor.munch ch).1, w.moveTo (w.cursor.munch ch).2.position) := by
  rw [Cursor.munch_eq]
  unfold munch
  cases hclass : CharClass.of ch with
  | letter =>
    show (w.run isLetter).bind _ = _
    rw [h.run_eq]
    rfl
  | digit =>
    show (w.run isDigit).bind _ = _
    rw [h.run_eq]
    rfl
  | operator o =>
    have ho : Operator.ofChar? ch = some o := CharClass.of_eq_operator_iff.1 hclass
    dsimp only
    cases hp : o.withEquals? with
    | some p => exact congrArg some (h.either_eq ho hp)
    | none =>
      unfold Cursor.operator
      rw [hp, h.single_eq, Operator.singleton_of_ofChar? ho]
  | space => exact congrArg some (h.single_eq ch .illegal)
  | other => exact congrArg some (h.single_eq ch .illegal)

theorem InStep.skipSpaces_eq (h : w.InStep) :
    w.skipSpaces = w.moveTo w.cursor.skipSpaces.position := h.passWhile_eq isSpace

/-- A window reads what its cursor reads. -/
theorem InStep.read_eq (h : w.InStep) :
    w.read = some (w.cursor.read.1.token, w.moveTo w.cursor.read.2.position) := by
  have hreach : w.Reaches w.cursor.skipSpaces := h.reaches_run isSpace
  have hskip := hreach.inStep_moveTo h
  rw [Cursor.read_eq]
  unfold read
  dsimp only
  rw [h.skipSpaces_eq, ← hskip.current?_cursor, hreach.cursor_moveTo]
  cases w.cursor.skipSpaces.current? with
  | none => rfl
  | some ch =>
    dsimp only
    rw [hskip.munch_eq, hreach.cursor_moveTo, moveTo_moveTo]
    rfl

theorem InStep.isEndOfInput_read (h : w.InStep) :
    w.cursor.read.1.token.isEndOfInput = w.cursor.read.1.isEndOfInput ∧
      (w.cursor.read.1.isEndOfInput = true → w.cursor.read.2.position = w.source.length) := by
  have hle := h.position_le
  rcases w.cursor.read_cases with ⟨-, hread⟩ | ⟨l, c', -, hread, hkind, -, -⟩
  · rw [hread]
    refine ⟨rfl, fun _ => ?_⟩
    show w.position + (w.source.drop w.position).length = w.source.length
    rw [List.length_drop]
    omega
  · rw [hread]
    exact ⟨beq_false_of_ne hkind, fun hend => absurd hend Bool.false_ne_true⟩

theorem InStep.pull_eq (h : w.InStep) (hflag : w.exhausted = false) :
    w.pull = some (some w.cursor.read.1.token,
      { w.moveTo w.cursor.read.2.position with exhausted := w.cursor.read.1.isEndOfInput }) := by
  unfold pull
  -- a window knows the end of the input by the kind of the token only
  rw [hflag, ← h.isEndOfInput_read.1]
  show w.read.bind _ = _
  rw [h.read_eq]
  rfl

/-! ### Any moves -/

/-- From one window to another on the same source, which has gone forward and is in step. -/
structure Forward (w w' : Window) : Prop where
  source_eq : w'.source = w.source
  le_position : w.position ≤ w'.position
  inStep : w'.InStep

theorem Forward.trans {w w' w'' : Window} (h : w.Forward w') (h' : w'.Forward w'') :
    w.Forward w'' :=
  ⟨h'.source_eq.trans h.source_eq, Nat.le_trans h.le_position h'.le_position, h'.inStep⟩

theorem InStep.forward (h : w.InStep) : w.Forward w := ⟨rfl, Nat.le_refl _, h⟩

/-- To go to what can be reached is to go forward, and the stream goes there as well. -/
theorem InStep.goes (h : w.InStep) (hc : w.Reaches c) :
    (w.moveTo c.position).stream = ⟨c, w.exhausted⟩ ∧ w.Forward (w.moveTo c.position) :=
  ⟨congrArg (TokenStream.mk · _) hc.cursor_moveTo, rfl, hc.le_position, hc.inStep_moveTo h⟩

theorem InStep.exists_pull (h : w.InStep) :
    ∃ w', w.pull = some (w.stream.pull.1.map Reading.token, w') ∧
      w'.stream = w.stream.pull.2 ∧ w.Forward w' := by
  cases hflag : w.exhausted with
  | true =>
    have hstream : w.stream.pull = (none, w.stream) := TokenStream.pull_of_exhausted hflag
    refine ⟨w, ?_, ?_, h.forward⟩
    · unfold pull
      rw [hstream, if_pos hflag]
      rfl
    · rw [hstream]
  | false =>
    have hreach := h.reaches_read
    have hstream : w.stream.pull = _ := TokenStream.pull_of_not_exhausted hflag
    rw [hstream]
    refine ⟨_, h.pull_eq hflag, ?_, rfl, hreach.le_position, ?_⟩
    · exact congrArg (TokenStream.mk · _) hreach.cursor_moveTo
    · exact ⟨rfl, rfl, hreach.position_le, h.isEndOfInput_read.2⟩

/-- Each move can be done. It goes forward, and to where it takes the stream. -/
theorem InStep.exists_move (h : w.InStep) (m : Move) :
    ∃ w', w.move m = some w' ∧ w'.stream = m.onStream w.stream ∧ w.Forward w' := by
  cases m with
  | advance => exact ⟨_, congrArg some h.advance_eq, h.goes h.reaches_advance⟩
  | skipSpaces => exact ⟨_, congrArg some h.skipSpaces_eq, h.goes (h.reaches_run isSpace)⟩
  | run p =>
    refine ⟨_, ?_, h.goes (h.reaches_run p)⟩
    show (w.run p).map Prod.snd = _
    rw [h.run_eq]
    rfl
  | either current second alone paired =>
    refine ⟨_, congrArg some (h.snd_either_eq current second alone paired), h.goes ?_⟩
    split
    · exact h.reaches_advance_advance
    · exact h.reaches_advance
  | single current kind => exact ⟨_, congrArg some h.advance_eq, h.goes h.reaches_advance⟩
  | read =>
    refine ⟨_, ?_, h.goes h.reaches_read⟩
    show w.read.map Prod.snd = _
    rw [h.read_eq]
    rfl
  | pull =>
    obtain ⟨w', hpull, hgoes⟩ := h.exists_pull
    refine ⟨w', ?_, hgoes⟩
    show w.pull.map Prod.snd = _
    rw [hpull]
    rfl

/-- So can any moves, one after the other. -/
theorem InStep.exists_moves (h : w.InStep) (ms : List Move) :
    ∃ w', w.moves ms = some w' ∧ w'.stream = ms.foldl Move.onStream w.stream ∧
      w.Forward w' := by
  induction ms generalizing w with
  | nil => exact ⟨w, rfl, rfl, h.forward⟩
  | cons m ms ih =>
    obtain ⟨w', hmove, hstream, hforward⟩ := h.exists_move m
    obtain ⟨w'', hmoves, hlater, hfurther⟩ := ih hforward.inStep
    refine ⟨w'', ?_, ?_, hforward.trans hfurther⟩
    · show (w.move m).bind _ = _
      rw [hmove]
      exact hmoves
    · rw [hlater, hstream, List.foldl_cons]

/-- The window does what the stream does that has only the characters from there on. -/
structure Follows (w : Window) : Prop where
  advance : w.advance.cursor = w.cursor.advance
  peek? : w.peek? = w.cursor.peek?
  skipSpaces : w.skipSpaces.cursor = w.cursor.skipSpaces
  run : ∀ p, ∃ w', w.run p = some (String.ofList (w.cursor.run p).1, w') ∧
    w'.cursor = (w.cursor.run p).2
  read : ∃ w', w.read = some (w.stream.read.1.token, w') ∧ w'.stream = w.stream.read.2
  /-- A token is taken where its lexeme begins, which is the place that is told of it. -/
  start : ∀ l, w.stream.read.1 = .lexeme l → w.skipSpaces.position = l.start
  pull : ∃ w', w.pull = some (w.stream.pull.1.map Reading.token, w') ∧
    w'.stream = w.stream.pull.2

theorem InStep.follows (h : w.InStep) : w.Follows where
  advance := h.cursor_advance
  peek? := h.peek?_cursor.symm
  skipSpaces := by
    rw [h.skipSpaces_eq]
    exact (h.reaches_run isSpace).cursor_moveTo
  run p := ⟨_, h.run_eq p, (h.reaches_run p).cursor_moveTo⟩
  read := ⟨_, h.read_eq, (h.goes h.reaches_read).1⟩
  start l hl := by
    rw [h.skipSpaces_eq]
    exact (Cursor.start_of_read hl).symm
  pull := by
    obtain ⟨w', hpull, hstream, -⟩ := h.exists_pull
    exact ⟨w', hpull, hstream⟩

/-- What holds of a window on this source, whatever has been done to it before. -/
structure Kept (source : String) (w : Window) : Prop where
  /-- The source stays as it is. -/
  source_eq : w.source = source.toList
  /-- The window shows the character at its position, or nothing at the end of the source. -/
  place : w.OnCharacter ∨ w.BehindAll
  /-- Once the end of the input has been pulled it shows nothing. -/
  ended : w.exhausted = true → w.current? = none
  /-- To peek is to look at the position behind its own. -/
  ahead : w.peek? = source.toList[w.position + 1]?
  /-- A run is cut out within the source, from the position on, and is the longest one there. -/
  cut : ∀ p, ∃ text w', w.run p = some (String.ofList text, w') ∧
    w.position ≤ w'.position ∧ w'.position ≤ source.length ∧
    w'.slice? w.position w'.position = some text ∧
    LongestRun p (source.toList.drop w.position) text
  /-- Neither position is further than one behind the end of the source. -/
  bounded : w.position ≤ source.length + 1 ∧ w.nextPosition ≤ source.length + 1
  /-- Whatever is done next can be done, and does not lead back. -/
  forward : ∀ ms, ∃ w', w.moves ms = some w' ∧ w.position ≤ w'.position
  /-- It gives the answers of the stream at this place, and comes to the same place. -/
  follows : w.Follows

theorem InStep.kept (h : w.InStep) {source : String} (hsource : w.source = source.toList) :
    w.Kept source := by
  have hlength : w.source.length = source.length := by rw [hsource, String.length_toList]
  have hposition := h.position_le
  have hnext := h.nextPosition_eq
  refine ⟨hsource, h.onCharacter_or_behindAll, ?_, ?_, ?_, by omega, ?_, h.follows⟩
  · intro hend
    exact h.current?_eq_none_iff.2 (h.exhausted_end hend)
  · rw [← hsource, ← hnext]
    rfl
  · intro p
    have hreach := h.reaches_run p
    refine ⟨_, _, h.run_eq p, hreach.le_position, ?_, h.slice?_run p, ?_⟩
    · rw [← hlength]
      exact hreach.position_le
    · rw [← hsource]
      exact longestRun_takeWhile p _
  · intro ms
    obtain ⟨w', hmoves, -, hforward⟩ := h.exists_moves ms
    exact ⟨w', hmoves, hforward.le_position⟩

end Window

/-- A window stays in step with its source, whatever is done to it, in any order and any number of
    times: no move fails, and what the window keeps besides its position is what the source has
    there. It comes to where a stream comes that has only the characters ahead. -/
theorem windows_keep_in_step (source : String) (ms : List Window.Move) :
    ∃ w, (Window.ofSource source).moves ms = some w ∧
      w.stream = ms.foldl Window.Move.onStream (TokenStream.ofSource source) ∧
      w.Kept source := by
  have hstart := Window.ofSource_eq_moveTo source
  obtain ⟨w, hmoves, hstream, hforward⟩ := (Window.inStep_ofSource source).exists_moves ms
  refine ⟨w, hmoves, ?_, hforward.inStep.kept ?_⟩
  · rw [hstream, hstart]
    rfl
  · rw [hforward.source_eq, hstart]
    rfl

/-- At the end of a source, here an empty one, a window stays parked. -/
example : (Window.ofSource "").moves [.advance, .read, .pull, .advance] =
    some ⟨[], 0, 1, none, true⟩ := by decide +kernel

end Monkey
