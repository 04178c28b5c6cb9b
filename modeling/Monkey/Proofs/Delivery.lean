import Monkey.Proofs.Readings
import Monkey.TokenStream.Script

/-
  A stream that is driven in several ways at once. Whatever is asked of it, all that it hands out
  is, in order, what plain reading from the start of the source would give (`moves_answers`): no
  call loses a reading or gives one twice. The flag of a stream counts the ends of the input that
  have been pulled (`count_pulled_answers`), so there is one at most, and pulling gives nothing
  behind it. `Delivery` says what this means for a caller, and `delivery` proves it of every
  history.
-/

namespace Monkey

/-- The tokens that are not the end of the input. -/
def proper (ts : List Token) : List Token := ts.filter fun t => !t.isEndOfInput

theorem proper_scan (source : String) : proper (scan source) = tokensOf source.toList := by
  have hall : ∀ t ∈ tokensOf source.toList, (!t.isEndOfInput) = true := by
    intro t ht
    rw [not_isEndOfInput_of_mem ht]
    rfl
  rw [proper, scan_eq, List.filter_append, List.filter_eq_self.2 hall]
  exact List.append_nil _

theorem length_proper_scan (source : String) :
    (proper (scan source)).length = (Cursor.start source).lexemes.length := by
  rw [proper_scan]
  exact List.length_map Lexeme.token

/-- Reading gives the proper tokens of a source one after the other, and then no more. -/
theorem proper_readings (source : String) (n : Nat) :
    proper (((Cursor.start source).readings n).map Reading.token) =
      (proper (scan source)).take n := by
  have hends : ∀ k, proper ((List.replicate k Reading.endOfInput).map Reading.token) = [] := by
    intro k
    rw [proper, List.map_replicate, List.filter_eq_nil_iff]
    intro t ht
    rw [List.eq_of_mem_replicate ht]
    decide
  have hlexemes : ∀ ls : List Lexeme,
      (ls.map Reading.lexeme).map Reading.token = ls.map Lexeme.token := by
    intro ls
    rw [List.map_map]
    rfl
  have htokens : ((Cursor.start source).lexemes.take n).map Lexeme.token =
      (tokensOf source.toList).take n := List.map_take
  have hall : ∀ t ∈ (tokensOf source.toList).take n, (!t.isEndOfInput) = true := by
    intro t ht
    rw [not_isEndOfInput_of_mem (List.mem_of_mem_take ht)]
    rfl
  rw [Cursor.readings_eq, List.map_append, hlexemes, htokens, proper_scan]
  unfold proper at hends ⊢
  rw [List.filter_append, hends, List.append_nil, List.filter_eq_self.2 hall]

namespace TokenStream

/-! ### What is handed out -/

/-- From the one cursor to the other these are handed out, as plain reading would. -/
def Moves (c : Cursor) (rs : List Reading) (c' : Cursor) : Prop :=
  rs = c.readings rs.length ∧ c' = c.after rs.length

theorem Moves.refl (c : Cursor) : Moves c [] c := ⟨rfl, rfl⟩

theorem Moves.trans {a b c : Cursor} {rs ss : List Reading} (h : Moves a rs b)
    (h' : Moves b ss c) : Moves a (rs ++ ss) c := by
  obtain ⟨hrs, rfl⟩ := h
  obtain ⟨hss, rfl⟩ := h'
  constructor
  · rw [List.length_append, Cursor.readings_add, ← hrs, ← hss]
  · rw [List.length_append, Cursor.after_add]

theorem Moves.read (c : Cursor) : Moves c [c.read.1] c.read.2 := ⟨rfl, rfl⟩

theorem pull_of_exhausted {s : TokenStream} (h : s.exhausted = true) : s.pull = (none, s) := by
  rw [pull, if_pos h]

theorem pull_of_not_exhausted {s : TokenStream} (h : s.exhausted = false) :
    s.pull = (some s.cursor.read.1, ⟨s.cursor.read.2, s.cursor.read.1.isEndOfInput⟩) := by
  rw [pull, if_neg (by simp [h])]

theorem take_of_exhausted {s : TokenStream} (h : s.exhausted = true) (n : Nat) :
    s.take n = ([], s) := by
  cases n with
  | zero => rfl
  | succ n => rw [take, pull_of_exhausted h]

theorem take_succ_of_not_exhausted {s : TokenStream} (h : s.exhausted = false) (n : Nat) :
    s.take (n + 1) =
      (s.cursor.read.1 :: (take n ⟨s.cursor.read.2, s.cursor.read.1.isEndOfInput⟩).1,
        (take n ⟨s.cursor.read.2, s.cursor.read.1.isEndOfInput⟩).2) := by
  rw [take, pull_of_not_exhausted h]

theorem moves_pull (s : TokenStream) : Moves s.cursor s.pull.1.toList s.pull.2.cursor := by
  rcases hflag : s.exhausted with _ | _
  · rw [pull_of_not_exhausted hflag]
    exact Moves.read s.cursor
  · rw [pull_of_exhausted hflag]
    exact Moves.refl s.cursor

theorem moves_take (n : Nat) (s : TokenStream) :
    Moves s.cursor (s.take n).1 (s.take n).2.cursor := by
  induction n generalizing s with
  | zero => exact Moves.refl s.cursor
  | succ n ih =>
    rcases hflag : s.exhausted with _ | _
    · rw [take_succ_of_not_exhausted hflag]
      exact (Moves.read s.cursor).trans (ih ⟨s.cursor.read.2, _⟩)
    · rw [take_of_exhausted hflag]
      exact Moves.refl s.cursor

theorem answers_cons (s : TokenStream) (call : Call) (calls : List Call) :
    s.answers (call :: calls) =
      ((s.answer call).1 :: ((s.answer call).2.answers calls).1,
        ((s.answer call).2.answers calls).2) := rfl

theorem moves_answer (s : TokenStream) (call : Call) :
    Moves s.cursor (s.answer call).1.handedOut (s.answer call).2.cursor := by
  cases call with
  | read => exact Moves.read s.cursor
  | pull => exact moves_pull s
  | take n => exact moves_take n s
  | drain => exact moves_take (s.cursor.rest.length + 1) s
  | atEnd => exact Moves.refl s.cursor

/-- All calls together hand out what plain reading would. -/
theorem moves_answers (s : TokenStream) (calls : List Call) :
    Moves s.cursor ((s.answers calls).1.flatMap Answer.handedOut) (s.answers calls).2.cursor := by
  induction calls generalizing s with
  | nil => exact Moves.refl s.cursor
  | cons call calls ih =>
    rw [answers_cons, List.flatMap_cons]
    exact (moves_answer s call).trans (ih (s.answer call).2)

theorem answers_append (s : TokenStream) (calls later : List Call) :
    s.answers (calls ++ later) =
      ((s.answers calls).1 ++ ((s.answers calls).2.answers later).1,
        ((s.answers calls).2.answers later).2) := by
  induction calls generalizing s with
  | nil => rfl
  | cons call calls ih =>
    rw [List.cons_append, answers_cons, ih, answers_cons]
    rfl

/-! ### What is pulled -/

/-- What an answer hands out that was pulled. -/
def Answer.pulledOut : Answer → List Reading
  | reading _ => []
  | pulled r => r.toList
  | readings rs => rs
  | flag _ => []

/-- One if the end of the input has been pulled, else none. -/
def pulledEnds (s : TokenStream) : Nat := if s.exhausted then 1 else 0

theorem count_pull (s : TokenStream) :
    s.pulledEnds + s.pull.1.toList.count .endOfInput = s.pull.2.pulledEnds := by
  unfold pulledEnds
  rcases hflag : s.exhausted with _ | _
  · rw [pull_of_not_exhausted hflag]
    cases s.cursor.read.1 <;> rfl
  · rw [pull_of_exhausted hflag]
    simp [hflag]

theorem count_take (n : Nat) (s : TokenStream) :
    s.pulledEnds + (s.take n).1.count .endOfInput = (s.take n).2.pulledEnds := by
  induction n generalizing s with
  | zero => rfl
  | succ n ih =>
    rcases hflag : s.exhausted with _ | _
    · have hpull := count_pull s
      rw [pull_of_not_exhausted hflag] at hpull
      rw [take_succ_of_not_exhausted hflag, ← ih, ← hpull, ← List.singleton_append,
        List.count_append, Nat.add_assoc]
      rfl
    · rw [take_of_exhausted hflag]
      rfl

theorem count_pulled_answer (s : TokenStream) (call : Call) :
    s.pulledEnds + (s.answer call).1.pulledOut.count .endOfInput =
      (s.answer call).2.pulledEnds := by
  cases call with
  | read => rfl
  | pull => exact count_pull s
  | take n => exact count_take n s
  | drain => exact count_take (s.cursor.rest.length + 1) s
  | atEnd => rfl

/-- The flag is set by the end of the input that is pulled, and by nothing else. -/
theorem count_pulled_answers (s : TokenStream) (calls : List Call) :
    s.pulledEnds + ((s.answers calls).1.flatMap Answer.pulledOut).count .endOfInput =
      (s.answers calls).2.pulledEnds := by
  induction calls generalizing s with
  | nil => rfl
  | cons call calls ih =>
    rw [answers_cons, List.flatMap_cons, List.count_append, ← Nat.add_assoc, count_pulled_answer, ih]

theorem exhausted_iff_pulledEnds (s : TokenStream) : s.exhausted = true ↔ s.pulledEnds = 1 := by
  unfold pulledEnds
  cases s.exhausted <;> decide

theorem pulledEnds_le (s : TokenStream) : s.pulledEnds ≤ 1 := by
  unfold pulledEnds
  cases s.exhausted <;> decide

theorem exhausted_answers {s : TokenStream} (h : s.exhausted = true) (calls : List Call) :
    (s.answers calls).2.exhausted = true := by
  have hcount := count_pulled_answers s calls
  have hle := pulledEnds_le (s.answers calls).2
  rw [exhausted_iff_pulledEnds] at h ⊢
  omega

/-- While the end of the input has not been pulled, pulling is reading, up to the end. -/
theorem take_eq {s : TokenStream} (h : s.exhausted = false) (n : Nat) :
    (s.take n).1 = s.cursor.readings (min n (s.cursor.lexemes.length + 1)) := by
  induction n generalizing s with
  | zero => rw [Nat.zero_min]; rfl
  | succ n ih =>
    rw [take_succ_of_not_exhausted h, Nat.add_min_add_right, Cursor.readings]
    rcases hls : s.cursor.lexemes with _ | ⟨l, ls⟩
    · rw [(Cursor.read_of_lexemes_eq_nil hls).1, take_of_exhausted rfl, List.length_nil,
        Nat.min_zero]
      rfl
    · obtain ⟨hlexeme, hlater⟩ := Cursor.read_of_lexemes_eq_cons hls
      rw [ih (by rw [hlexeme]; rfl), hlater, List.length_cons]

/-- Draining gives all lexemes that are left, and the end of the input. -/
theorem drain_eq {s : TokenStream} (h : s.exhausted = false) :
    s.drain.1 = s.cursor.lexemes.map .lexeme ++ [.endOfInput] := by
  have hle := Cursor.length_lexemes_le s.cursor
  have hmin : min (s.cursor.rest.length + 1) (s.cursor.lexemes.length + 1) =
      s.cursor.lexemes.length + 1 := Nat.min_eq_right (by omega)
  have hone : s.cursor.lexemes.length + 1 - s.cursor.lexemes.length = 1 := by omega
  rw [drain, take_eq h, hmin, Cursor.readings_eq, hone, List.take_of_length_le (by omega)]
  rfl

/-- Behind a drain, pulling gives nothing, so it is never cut short by its bound. -/
theorem pull_drain (s : TokenStream) : s.drain.2.pull.1 = none := by
  have hflag : s.drain.2.exhausted = true := by
    have hcount := count_take (s.cursor.rest.length + 1) s
    have hle := pulledEnds_le s.drain.2
    rcases hs : s.exhausted with _ | _
    · have hmem : .endOfInput ∈ s.drain.1 := by
        rw [drain_eq hs]
        simp
      have hpos := List.count_pos_iff.2 hmem
      rw [exhausted_iff_pulledEnds]
      unfold drain at hpos hle ⊢
      omega
    · exact exhausted_answers hs [.drain]
  rw [pull_of_exhausted hflag]

/-! ### The tokens of a history -/

theorem mem_handedOut_of_mem_pulledOut {a : Answer} {r : Reading} (h : r ∈ a.pulledOut) :
    r ∈ a.handedOut := by
  cases a with
  | reading _ => exact absurd h (by simp [Answer.pulledOut])
  | pulled _ => exact h
  | readings _ => exact h
  | flag _ => exact absurd h (by simp [Answer.pulledOut])

namespace History

def answers (h : History) : List Answer := ((ofSource h.source).answers h.calls).1

/-- The readings that all calls together have handed out. -/
def given (h : History) : List Reading := h.answers.flatMap Answer.handedOut

/-- Those of them that were pulled. -/
def pulled (h : History) : List Reading := h.answers.flatMap Answer.pulledOut

/-- The history with more calls behind it. -/
def andThen (h : History) (later : List Call) : History := ⟨h.source, h.calls ++ later⟩

theorem stream_andThen (h : History) (later : List Call) :
    (h.andThen later).stream = (h.stream.answers later).2 := by
  rw [stream, andThen, answers_append]
  rfl

theorem moves_given (h : History) : Moves (.start h.source) h.given h.stream.cursor :=
  moves_answers (ofSource h.source) h.calls

theorem count_pulled (h : History) : h.pulled.count .endOfInput = h.stream.pulledEnds := by
  have hcount := count_pulled_answers (ofSource h.source) h.calls
  rw [show (ofSource h.source).pulledEnds = 0 from rfl, Nat.zero_add] at hcount
  exact hcount

theorem mem_given_of_mem_pulled {h : History} {r : Reading} (hr : r ∈ h.pulled) :
    r ∈ h.given := by
  obtain ⟨a, ha, hr⟩ := List.mem_flatMap.1 hr
  exact List.mem_flatMap.2 ⟨a, ha, mem_handedOut_of_mem_pulledOut hr⟩

/-- The proper tokens that all calls together have handed out. -/
def tokens (h : History) : List Token := proper (h.given.map Reading.token)

/-- All readings are those that plain reading gives, and only they count. -/
theorem tokens_eq_take (h : History) :
    h.tokens = (proper (scan h.source)).take h.given.length := by
  rw [tokens, h.moves_given.1, proper_readings, Cursor.length_readings]

theorem length_tokens_eq_iff (h : History) :
    h.tokens.length = (proper (scan h.source)).length ↔
      (Cursor.start h.source).lexemes.length ≤ h.given.length := by
  rw [tokens_eq_take, List.length_take, length_proper_scan]
  omega

theorem lexemes_stream_eq_nil_iff (h : History) :
    h.stream.cursor.lexemes = [] ↔ h.tokens.length = (proper (scan h.source)).length := by
  rw [h.moves_given.2, Cursor.lexemes_after, List.drop_eq_nil_iff, length_tokens_eq_iff]

/-- A reading of the history is the end of the input exactly if its token is. -/
theorem isEndOfInput_token_of_mem {h : History} {r : Reading} (hr : r ∈ h.given) :
    r.token.isEndOfInput = true ↔ r = .endOfInput := by
  rw [h.moves_given.1, Cursor.readings_eq, List.mem_append] at hr
  rcases hr with hr | hr
  · obtain ⟨l, hl, rfl⟩ := List.mem_map.1 hr
    have htoken : l.token ∈ tokensOf h.source.toList :=
      List.mem_map_of_mem (List.mem_of_mem_take hl)
    rw [Reading.token, not_isEndOfInput_of_mem htoken]
    simp
  · rw [List.eq_of_mem_replicate hr]
    decide

theorem exists_end_given_iff (h : History) :
    (∃ r ∈ h.given, r.token.isEndOfInput = true) ↔ .endOfInput ∈ h.given := by
  constructor
  · rintro ⟨r, hr, hend⟩
    rw [isEndOfInput_token_of_mem hr] at hend
    exact hend ▸ hr
  · intro hmem
    exact ⟨_, hmem, rfl⟩

theorem countP_pulled (h : History) :
    h.pulled.countP (·.token.isEndOfInput) = h.stream.pulledEnds := by
  rw [← count_pulled]
  refine List.countP_congr fun r hr => ?_
  rw [isEndOfInput_token_of_mem (mem_given_of_mem_pulled hr), beq_iff_eq]

theorem endOfInput_mem_given_iff (h : History) :
    .endOfInput ∈ h.given ↔ (Cursor.start h.source).lexemes.length < h.given.length := by
  constructor
  · intro hmem
    rw [h.moves_given.1, Cursor.readings_eq, List.mem_append, List.mem_map,
      List.mem_replicate] at hmem
    rcases hmem with ⟨l, _, hl⟩ | ⟨hne, _⟩
    · exact absurd hl (by simp)
    · omega
  · intro hlt
    rw [h.moves_given.1, Cursor.readings_eq, List.mem_append, List.mem_replicate]
    exact Or.inr ⟨by omega, rfl⟩

theorem endOfInput_mem_pulled_iff (h : History) :
    .endOfInput ∈ h.pulled ↔ h.stream.exhausted = true := by
  have hcount := h.count_pulled
  have hle := h.stream.pulledEnds_le
  rw [exhausted_iff_pulledEnds, ← List.count_pos_iff]
  omega

/-! ### The laws of delivery -/

theorem isEndOfInput_read_iff (h : History) :
    h.stream.read.1.token.isEndOfInput = true ↔
      h.tokens.length = (proper (scan h.source)).length := by
  have hstep : h.stream.read.1 ∈ (h.andThen [.read]).given := by
    have hgiven : (h.andThen [.read]).given = h.given ++ [h.stream.read.1] := by
      rw [given, answers, andThen, answers_append, List.flatMap_append]
      rfl
    rw [hgiven]
    simp
  rw [isEndOfInput_token_of_mem hstep, ← lexemes_stream_eq_nil_iff,
    ← Cursor.read_eq_endOfInput_iff]
  rfl

theorem read_andThen {h : History} (hend : h.stream.cursor.lexemes = []) (later : List Call) :
    (h.andThen later).stream.read.1 = .endOfInput := by
  obtain ⟨-, hcursor⟩ := moves_answers h.stream later
  rw [stream_andThen]
  refine (Cursor.read_eq_endOfInput_iff _).2 ?_
  rw [hcursor, Cursor.lexemes_after, hend, List.drop_nil]

/-- Up to an end of the input, all proper tokens have been handed out. -/
theorem proper_before_end {h : History} {before after : List Reading}
    (hgiven : h.given = before ++ .endOfInput :: after) :
    proper (before.map Reading.token) = proper (scan h.source) := by
  have hlength : h.given.length = before.length + (after.length + 1) := by
    rw [hgiven, List.length_append, List.length_cons]
  have hmoves := h.moves_given.1
  rw [hlength, Cursor.readings_add, hgiven, Cursor.readings] at hmoves
  obtain ⟨hbefore, hlater⟩ := List.append_inj hmoves (by simp)
  -- the next reading behind `before` is the end, so no lexeme is left there
  have hend := (Cursor.read_eq_endOfInput_iff _).1 (List.cons.inj hlater).1.symm
  rw [Cursor.lexemes_after, List.drop_eq_nil_iff] at hend
  rw [hbefore, proper_readings]
  refine List.take_of_length_le ?_
  rw [length_proper_scan]
  exact hend

theorem proper_given_drain (h : History) :
    proper ((h.given ++ h.stream.drain.1).map Reading.token) = proper (scan h.source) := by
  have hmoves : Moves (.start h.source) (h.given ++ h.stream.drain.1) h.stream.drain.2.cursor :=
    h.moves_given.trans (moves_take _ h.stream)
  rw [hmoves.1, proper_readings]
  refine List.take_of_length_le ?_
  rw [length_proper_scan, List.length_append]
  rcases hflag : h.stream.exhausted with _ | _
  · -- draining gives one reading for each lexeme that is left
    have hdrop := Cursor.lexemes_after h.given.length (Cursor.start h.source)
    rw [← h.moves_given.2] at hdrop
    rw [drain_eq hflag, List.length_append, List.length_map, hdrop, List.length_drop]
    omega
  · -- the end of the input has been handed out already
    have hmem := mem_given_of_mem_pulled (h.endOfInput_mem_pulled_iff.2 hflag)
    have hlt := h.endOfInput_mem_given_iff.1 hmem
    omega

theorem atEnd_iff (h : History) :
    h.stream.atEnd = true ↔ h.tokens.length = (proper (scan h.source)).length ∧
      ((∀ c ∈ h.source.toList.getLast?, isSpace c = false) ∨ .endOfInput ∈ h.given) := by
  rw [atEnd, Cursor.atEnd, List.isEmpty_iff, h.moves_given.2, Cursor.rest_after_eq_nil_iff,
    length_tokens_eq_iff, endOfInput_mem_given_iff]
  rfl

end History

/-- What the calls of a history have given, and what its stream gives next. -/
structure Delivery (h : History) : Prop where
  /-- Nothing is lost, repeated or moved. -/
  inOrder : h.tokens <+: proper (scan h.source)
  /-- The end is read when all proper tokens have been handed out, and not before. -/
  read_end_iff : h.stream.read.1.token.isEndOfInput = true ↔
    h.tokens.length = (proper (scan h.source)).length
  /-- Then it is read for ever, whatever is asked in between. -/
  read_end_again : h.stream.read.1.token.isEndOfInput = true →
    ∀ later, (h.andThen later).stream.read.1.token = ⟨.endOfInput, ""⟩
  /-- No end comes before the last proper token. -/
  end_last : ∀ before r after, h.given = before ++ r :: after → r.token.isEndOfInput = true →
    proper (before.map Reading.token) = proper (scan h.source)
  /-- One end is pulled at most, no matter how many have been read. -/
  pulled_once : h.pulled.countP (·.token.isEndOfInput) ≤ 1
  /-- Behind it, nothing is pulled any more. -/
  pulled_last : ∀ r ∈ h.pulled, r.token.isEndOfInput = true → ∀ later,
    (h.andThen later).stream.pull.1 = none ∧
      (∀ n, ((h.andThen later).stream.take n).1 = []) ∧ (h.andThen later).stream.drain.1 = []
  /-- Until then, pulling gives what reading would. -/
  pull_eq_read : (∀ r ∈ h.pulled, r.token.isEndOfInput = false) →
    h.stream.pull.1 = some h.stream.read.1
  /-- Draining gives all that has not been given, and leaves nothing to pull. -/
  drained : proper ((h.given ++ h.stream.drain.1).map Reading.token) = proper (scan h.source) ∧
    h.stream.drain.2.pull.1 = none
  /-- To take nothing, and to ask for the end, leaves the stream as it is. -/
  idle : h.stream.answer (.take 0) = (.readings [], h.stream) ∧
    h.stream.answer .atEnd = (.flag h.stream.atEnd, h.stream)
  /-- White space at the end of the source counts as not passed until the end is handed out. -/
  atEnd_iff : h.stream.atEnd = true ↔ h.tokens.length = (proper (scan h.source)).length ∧
    ((∀ c ∈ h.source.toList.getLast?, isSpace c = false) ∨
      ∃ r ∈ h.given, r.token.isEndOfInput = true)

/-- However a stream is driven, it loses nothing and repeats nothing. -/
theorem delivery (h : History) : Delivery h where
  inOrder := by
    rw [h.tokens_eq_take]
    exact List.take_prefix _ _
  read_end_iff := h.isEndOfInput_read_iff
  read_end_again := by
    intro hend later
    rw [h.isEndOfInput_read_iff, ← h.lexemes_stream_eq_nil_iff] at hend
    rw [History.read_andThen hend later]
    rfl
  end_last := by
    intro before r after hgiven hend
    have hr : r ∈ h.given := by simp [hgiven]
    rw [History.isEndOfInput_token_of_mem hr] at hend
    exact History.proper_before_end (hend ▸ hgiven)
  pulled_once := by
    rw [h.countP_pulled]
    exact h.stream.pulledEnds_le
  pulled_last := by
    intro r hr hend later
    rw [History.isEndOfInput_token_of_mem (History.mem_given_of_mem_pulled hr)] at hend
    have hflag : (h.andThen later).stream.exhausted = true := by
      rw [h.stream_andThen]
      exact exhausted_answers (h.endOfInput_mem_pulled_iff.1 (hend ▸ hr)) later
    refine ⟨?_, fun n => ?_, ?_⟩
    · rw [pull_of_exhausted hflag]
    · rw [take_of_exhausted hflag]
    · rw [drain, take_of_exhausted hflag]
  pull_eq_read := by
    intro hnone
    have hflag : h.stream.exhausted = false := by
      rw [Bool.eq_false_iff, ne_eq, ← h.endOfInput_mem_pulled_iff]
      intro hmem
      exact absurd (hnone _ hmem) (by decide)
    rw [pull_of_not_exhausted hflag]
    rfl
  drained := ⟨h.proper_given_drain, h.stream.pull_drain⟩
  idle := ⟨rfl, rfl⟩
  atEnd_iff := by
    rw [h.atEnd_iff, h.exists_end_given_iff]

end TokenStream

end Monkey
