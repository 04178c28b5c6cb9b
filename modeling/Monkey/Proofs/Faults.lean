import Monkey.Proofs.Effects
import Monkey.Session.Steps

/-
  A session in which anything may go wrong. Apart from what it reports, a session does its steps
  one after the other (`alike_run`): that it writes the tokens of a line one by one does not show.
  Steps on a console with a limit and a failing flush follow their course as long as what is
  written fits (`perform_of_hasRoom`), and break off in the write that does not
  (`perform_of_breaksOff`). `session_with_faults` puts both together.
-/

namespace Monkey

namespace Sink

/-- There is room for this many bytes more. -/
def HasRoom (s : Sink) (n : Nat) : Prop := ∀ limit ∈ s.limit, s.kept.size + n ≤ limit

/-- The sink when these bytes are kept in it. -/
def keep (s : Sink) (bytes : Bytes) : Sink := { s with kept := s.kept ++ bytes.toArray }

theorem keep_keep (s : Sink) (a b : Bytes) : (s.keep a).keep b = s.keep (a ++ b) := by
  simp [keep, List.append_toArray]

theorem hasRoom_keep {s : Sink} {bytes : Bytes} {n : Nat} :
    (s.keep bytes).HasRoom n ↔ s.HasRoom (bytes.length + n) := by
  simp [HasRoom, keep, Nat.add_assoc]

theorem HasRoom.mono {s : Sink} {m n : Nat} (h : s.HasRoom n) (hmn : m ≤ n) : s.HasRoom m := by
  intro limit hlimit
  have hle := h limit hlimit
  omega

theorem write_of_hasRoom {s : Sink} {bytes : Bytes} (h : s.HasRoom bytes.length) :
    s.write bytes = (true, s.keep bytes) := by
  obtain ⟨limit, kept⟩ := s
  cases limit with
  | none => rfl
  | some limit =>
    have hle : kept.size + bytes.length ≤ limit := h limit rfl
    have htake : bytes.take (limit - kept.size) = bytes := List.take_of_length_le (by omega)
    simp only [write, keep, hle, htake, decide_true]

/-- A write that does not fit keeps what does. -/
theorem write_of_lt {s : Sink} {bytes : Bytes} {limit : Nat} (hlimit : s.limit = some limit)
    (h : limit < s.kept.size + bytes.length) :
    s.write bytes = (false, s.keep (bytes.take (limit - s.kept.size))) := by
  obtain ⟨_, kept⟩ := s
  obtain rfl : _ = some limit := hlimit
  have hnot : ¬ kept.size + bytes.length ≤ limit := Nat.not_le.2 h
  simp only [write, keep, hnot, decide_false]

theorem hasRoom_or_lt (s : Sink) (n : Nat) :
    s.HasRoom n ∨ ∃ limit, s.limit = some limit ∧ limit < s.kept.size + n := by
  unfold HasRoom
  rcases s.limit with _ | limit
  · exact Or.inl fun limit hlimit => absurd hlimit (by simp)
  · rcases Nat.lt_or_ge limit (s.kept.size + n) with hlt | hge
    · exact Or.inr ⟨limit, rfl, hlt⟩
    · left
      intro limit' hlimit'
      obtain rfl : limit = limit' := Option.some.inj hlimit'
      exact hge

theorem hasRoom_write {s : Sink} (hs : s.HasRoom 0) (bytes : Bytes) :
    (s.write bytes).2.HasRoom 0 := by
  rcases s.hasRoom_or_lt bytes.length with h | ⟨limit, hlimit, hlt⟩
  · rw [write_of_hasRoom h, hasRoom_keep]
    exact h
  · rw [write_of_lt hlimit hlt, hasRoom_keep]
    intro limit' hlimit'
    have hle := hs limit' hlimit'
    obtain rfl : limit = limit' := by simpa [hlimit] using hlimit'
    rw [List.length_take]
    omega

/-- Behind a write that does not fit, nothing more is kept. -/
theorem write_append_of_full {s : Sink} {a : Bytes} (h : (s.write a).1 = false) (b : Bytes) :
    s.write (a ++ b) = s.write a := by
  rcases s.hasRoom_or_lt a.length with hroom | ⟨limit, hlimit, hlt⟩
  · rw [write_of_hasRoom hroom] at h
    exact absurd h (by simp)
  · have hlt' : limit < s.kept.size + (a ++ b).length := by
      rw [List.length_append]
      omega
    rw [write_of_lt hlimit hlt, write_of_lt hlimit hlt',
      List.take_append_of_le_length (by omega)]

end Sink

/-! ### Actions that differ in what they report -/

/-- The console without the record of events. -/
def Console.silent (c : Console) : Console := { c with events := #[] }

namespace Action

theorem write_of_fits {c : Console} {bytes : Bytes} (h : (c.sink.write bytes).1 = true) :
    write bytes c = .ok () { c with sink := (c.sink.write bytes).2 } := by
  unfold write
  rcases hw : c.sink.write bytes with ⟨_ | _, sink⟩
  · rw [hw] at h
    exact absurd h (by simp)
  · rfl

theorem write_of_full {c : Console} {bytes : Bytes} (h : (c.sink.write bytes).1 = false) :
    write bytes c = .error (.io .pipeClosed) { c with sink := (c.sink.write bytes).2 } := by
  unfold write
  rcases hw : c.sink.write bytes with ⟨_ | _, sink⟩
  · rfl
  · rw [hw] at h
    exact absurd h (by simp)

theorem flush_of_failing {c : Console} (h : c.failingFlush = some c.flushes) :
    flush c = .error (.io .flushFailed) { c with flushes := c.flushes + 1 } := if_pos h

theorem flush_of_ne {c : Console} (h : c.failingFlush ≠ some c.flushes) :
    flush c = .ok () { c with flushes := c.flushes + 1 } := if_neg h

theorem throw_eq (e : Failure) (c : Console) : (throw e : Action Unit) c = .error e c := rfl

/-- To write one thing behind the other is to write both at once, however much room there is. -/
theorem write_append (a b : Bytes) : (do write a; write b) = write (a ++ b) := by
  funext c
  rcases hw : (c.sink.write a).1 with _ | _
  · have hall : c.sink.write (a ++ b) = c.sink.write a := Sink.write_append_of_full hw b
    rw [andThen_of_error (write_of_full hw), write_of_full (by rw [hall]; exact hw), hall]
  · have hall : c.sink.write (a ++ b) = (c.sink.write a).2.write b := Sink.write_append hw b
    rw [andThen_of_ok (write_of_fits hw)]
    unfold write
    rw [hall]

theorem writeAll_cons_eq_write (piece : Bytes) (pieces : List Bytes) :
    writeAll (piece :: pieces) = write (piece :: pieces).flatten := by
  induction pieces generalizing piece with
  | nil =>
    rw [List.flatten_cons, List.flatten_nil, List.append_nil]
    exact bind_pure_unit
  | cons next pieces ih =>
    rw [writeAll, ih, write_append]
    rfl

/-- Only if there is nothing to write, it matters that the sink is not too full already. -/
theorem writeAll_eq_write {c : Console} (hc : c.sink.HasRoom 0) (pieces : List Bytes) :
    writeAll pieces c = write pieces.flatten c := by
  cases pieces with
  | nil =>
    have hnil : c.sink.write [] = (true, c.sink) := by
      rw [Sink.write_of_hasRoom hc, Sink.keep, Array.append_empty]
    rw [List.flatten_nil, write_of_fits (by rw [hnil]), hnil]
    rfl
  | cons piece pieces => rw [writeAll_cons_eq_write]

/-- Apart from what is reported, the first action does what the second one does. -/
def Alike (f g : Action Unit) : Prop :=
  ∀ c : Console, c.sink.HasRoom 0 →
    (∃ d, f c = .ok () d ∧ g c.silent = .ok () d.silent ∧ d.sink.HasRoom 0) ∨
      ∃ e d, f c = .error e d ∧ g c.silent = .error e d.silent

namespace Alike

theorem andThen {f f' g g' : Action Unit} (h : Alike f g) (h' : Alike f' g') :
    Alike (do f; f') (do g; g') := by
  intro c hc
  rcases h c hc with ⟨d, hf, hg, hd⟩ | ⟨e, d, hf, hg⟩
  · rw [andThen_of_ok hf, andThen_of_ok hg]
    exact h' d hd
  · exact Or.inr ⟨e, d, andThen_of_error hf, andThen_of_error hg⟩

theorem pure : Alike (pure ()) (pure ()) := fun c hc => Or.inl ⟨c, rfl, rfl, hc⟩

theorem throw (e : Failure) : Alike (throw e) (throw e) := fun c _ => Or.inr ⟨e, c, rfl, rfl⟩

theorem report (events : List Log.Event) : Alike (report events) (Pure.pure ()) :=
  fun _ hc => Or.inl ⟨_, rfl, rfl, hc⟩

theorem flush : Alike flush flush := by
  intro c hc
  by_cases hfail : c.failingFlush = some c.flushes
  · exact Or.inr ⟨_, _, flush_of_failing hfail, flush_of_failing (c := c.silent) hfail⟩
  · exact Or.inl ⟨_, flush_of_ne hfail, flush_of_ne (c := c.silent) hfail, hc⟩

theorem write (bytes : Bytes) : Alike (write bytes) (write bytes) := by
  intro c hc
  rcases hw : (c.sink.write bytes).1 with _ | _
  · exact Or.inr ⟨_, _, write_of_full hw, write_of_full (c := c.silent) hw⟩
  · exact Or.inl ⟨_, write_of_fits hw, write_of_fits (c := c.silent) hw,
      Sink.hasRoom_write hc bytes⟩

/-- To write in pieces is to write all at once. -/
theorem writeAll (pieces : List Bytes) : Alike (writeAll pieces) (Action.write pieces.flatten) := by
  intro c hc
  rw [writeAll_eq_write hc]
  exact write pieces.flatten c hc

end Alike

end Action

/-! ### The steps of a session -/

namespace Session

/-- What a step does on the console. A read that fails ends the session with its failure. -/
def Step.effects : Step → List Effect
  | write bytes => [.write bytes]
  | flush => [.flush]
  | read none => []
  | read (some cause) => [.fail (.io cause)]

/-- Does one step after the other. -/
def perform (ss : List Step) : Action Unit := Effect.perform (ss.flatMap Step.effects)

theorem perform_append (ss ts : List Step) :
    perform (ss ++ ts) = (do perform ss; perform ts) := by
  rw [perform, List.flatMap_append, Effect.perform_append]
  rfl

theorem perform_write (bytes : Bytes) (ss : List Step) :
    perform (.write bytes :: ss) = (do Action.write bytes; perform ss) := rfl

theorem perform_flush (ss : List Step) :
    perform (.flush :: ss) = (do Action.flush; perform ss) := rfl

theorem perform_fault (cause : IoFailure) (ss : List Step) :
    perform (.read (some cause) :: ss) = (do throw (.io cause); perform ss) := rfl

open Monkey.Action (Alike)

theorem alike_perform (ss : List Step) : Alike (perform ss) (perform ss) := by
  induction ss with
  | nil => exact Alike.pure
  | cons s ss ih =>
    cases s with
    | write bytes => exact (Alike.write bytes).andThen ih
    | flush => exact Alike.flush.andThen ih
    | read fault =>
      cases fault with
      | none => exact ih
      | some cause => exact (Alike.throw _).andThen ih

theorem alike_ask : Alike ask (perform askSteps) := by
  have hask : ask = perform askSteps := by
    simp [ask, prompt, perform, Effect.perform, askSteps, Step.effects, Effect.act]
  rw [hask]
  exact alike_perform askSteps

theorem alike_answer (line : String) :
    Alike (answer line) (perform [.read none, .write (listing (scan line))]) := by
  have hwrite : perform [.read none, .write (listing (scan line))] = (do
      pure ()
      (do
        Action.write (((listed (scan line)).map Token.line).flatten)
        pure ())) := by
    rw [listing, List.flatMap_def]
    rfl
  rw [hwrite, answer_eq]
  exact (Alike.report _).andThen ((Alike.writeAll _).andThen (Alike.report _))

/-- A line is asked for, read and answered by its steps. -/
theorem alike_line (line : Bytes) :
    Alike (do ask; turn (Input.text line)) (perform (lineSteps line)) := by
  unfold Input.text lineSteps
  rcases Utf8.decode? line with _ | text
  · rw [perform_append]
    exact alike_ask.andThen (alike_perform [.read (some .notText)])
  · rw [perform_append]
    exact alike_ask.andThen (alike_answer text)

theorem alike_lines {later : List (Except IoFailure String)} {ss : List Step}
    (h : Alike (converse later) (perform ss)) (lines : List Bytes) :
    Alike (converse (lines.map Input.text ++ later)) (perform (lines.flatMap lineSteps ++ ss)) := by
  induction lines with
  | nil => exact h
  | cons line lines ih =>
    have hline := (alike_line line).andThen ih
    rw [List.flatMap_cons, List.append_assoc, perform_append]
    rw [bind_assoc] at hline
    exact hline

theorem alike_close :
    Alike (converse []) (perform (askSteps ++ [.read none, .write (Utf8.encode "\n")])) := by
  have hclose : close = perform [.read none, .write (Utf8.encode "\n")] := by
    simp [close, perform, Effect.perform, Step.effects, Effect.act]
  rw [perform_append, ← hclose]
  exact alike_ask.andThen (Alike.write _)

/-- What comes behind the last end of a line is asked for, and is a fault, a line or nothing. -/
theorem alike_last (faulty : Bool) (rest : Bytes) :
    Alike (converse (Input.lastReads faulty rest)) (perform (lastSteps faulty rest)) := by
  unfold Input.lastReads lastSteps
  cases faulty with
  | true =>
    show Alike (converse [.error .readFailed]) (perform (askSteps ++ [.read (some .readFailed)]))
    rw [perform_append]
    exact alike_ask.andThen (Alike.throw _)
  | false =>
    rw [if_neg Bool.false_ne_true, if_neg Bool.false_ne_true, List.append_assoc]
    rcases rest.isEmpty with _ | _
    · have hline := alike_lines alike_close [rest]
      rw [List.flatMap_singleton] at hline
      exact hline
    · exact alike_close

/-- Apart from what it reports, a session does its steps one after the other. -/
theorem alike_run (input : Input) : Alike (run input) (perform (steps input)) := by
  rcases hcut : Lines.cut 0x0A input.bytes with ⟨lines, rest⟩
  have hlines := alike_lines (alike_last input.faulty rest) (lines.map (Lines.withoutReturn 0x0D))
  rw [List.map_map, List.flatMap_map] at hlines
  unfold run Input.reads steps
  rw [hcut]
  exact hlines

/-! ### The course of steps -/

variable {failing : Option Nat} {n room : Nat}

/-- A course goes on where the one before it has ended. -/
theorem course_append {before : List Step} (h : (course failing n before).fault = none)
    (later : List Step) :
    course failing n (before ++ later) =
      ⟨(course failing n before).written ++
          (course failing (course failing n before).flushes later).written,
        (course failing (course failing n before).flushes later).flushes,
        (course failing (course failing n before).flushes later).fault⟩ := by
  induction before generalizing n with
  | nil => rfl
  | cons s before ih =>
    cases s with
    | write bytes =>
      rw [List.cons_append, course, course, ih h]
      simp only [List.append_assoc]
    | flush =>
      rw [List.cons_append, course, course]
      rw [course] at h
      by_cases hfail : failing = some n
      · rw [if_pos hfail] at h
        exact absurd h (by simp)
      · rw [if_neg hfail] at h ⊢
        rw [if_neg hfail]
        exact ih h
    | read fault =>
      cases fault with
      | none => exact ih h
      | some cause => exact absurd h (by simp [course])

/-- The steps up to the first write that needs more room than there is. -/
structure BreaksOff (room : Nat) (failing : Option Nat) (n : Nat) (before ss : List Step) : Prop where
  fault : (course failing n before).fault = none
  fits : (course failing n before).written.length ≤ room
  breaks : ∃ bytes later, ss = before ++ .write bytes :: later ∧
    room < (course failing n before).written.length + bytes.length

theorem exists_breaksOff {ss : List Step} (h : room < (course failing n ss).written.length) :
    ∃ before, BreaksOff room failing n before ss := by
  induction ss generalizing n room with
  | nil => exact absurd h (Nat.not_lt_zero _)
  | cons s ss ih =>
    cases s with
    | write bytes =>
      rw [course, List.length_append] at h
      rcases Nat.lt_or_ge room bytes.length with hlt | hge
      · refine ⟨[], rfl, Nat.zero_le _, bytes, ss, rfl, ?_⟩
        rw [course, List.length_nil, Nat.zero_add]
        exact hlt
      · -- the write fits, and leaves so much room for the others
        have hlater : room - bytes.length < (course failing n ss).written.length := by omega
        obtain ⟨before, hfault, hfits, bytes', later, hss, hbreaks⟩ := ih hlater
        refine ⟨.write bytes :: before, hfault, ?_, bytes', later, by rw [hss]; rfl, ?_⟩
        · rw [course, List.length_append]
          omega
        · rw [course, List.length_append]
          omega
    | flush =>
      rw [course] at h
      by_cases hfail : failing = some n
      · rw [if_pos hfail] at h
        exact absurd h (Nat.not_lt_zero _)
      · rw [if_neg hfail] at h
        obtain ⟨before, hfault, hfits, bytes, later, hss, hbreaks⟩ := ih h
        have hcourse : course failing n (.flush :: before) = course failing (n + 1) before := by
          rw [course, if_neg hfail]
        rw [← hcourse] at hfault hfits hbreaks
        exact ⟨.flush :: before, hfault, hfits, bytes, later, by rw [hss]; rfl, hbreaks⟩
    | read fault =>
      cases fault with
      | none =>
        obtain ⟨before, hfault, hfits, bytes, later, hss, hbreaks⟩ := ih h
        exact ⟨.read none :: before, hfault, hfits, bytes, later, by rw [hss]; rfl, hbreaks⟩
      | some cause => exact absurd h (Nat.not_lt_zero _)

/-- How a course ends. -/
def Course.ending (k : Course) : Except Failure Unit :=
  match k.fault with
  | none => .ok ()
  | some cause => .error (.io cause)

/-- What an action gives that takes this course, on a console with this sink and these events. -/
def Course.result (k : Course) (sink : Sink) (failing : Option Nat) (events : Array Log.Event) :
    EStateM.Result Failure Console Unit :=
  match k.fault with
  | none => .ok () ⟨sink.keep k.written, k.flushes, failing, events⟩
  | some cause => .error (.io cause) ⟨sink.keep k.written, k.flushes, failing, events⟩

variable {sink : Sink} {events : Array Log.Event}

theorem write_of_hasRoom {bytes : Bytes} (h : sink.HasRoom bytes.length) :
    Action.write bytes ⟨sink, n, failing, events⟩ =
      .ok () ⟨sink.keep bytes, n, failing, events⟩ := by
  have hwrite := Sink.write_of_hasRoom h
  rw [Action.write_of_fits (by rw [hwrite]), hwrite]

/-- Steps follow their course if there is room for all that they write. -/
theorem perform_of_hasRoom (ss : List Step)
    (hroom : sink.HasRoom (course failing n ss).written.length) :
    perform ss ⟨sink, n, failing, events⟩ = (course failing n ss).result sink failing events := by
  induction ss generalizing sink n with
  | nil => simp [perform, Effect.perform, course, Course.result, pure, EStateM.pure, Sink.keep]
  | cons s ss ih =>
    cases s with
    | write bytes =>
      rw [course, List.length_append] at hroom
      rw [perform_write, Action.andThen_of_ok (write_of_hasRoom (hroom.mono (Nat.le_add_right _ _))),
        ih (Sink.hasRoom_keep.2 hroom)]
      simp only [course, Course.result, Sink.keep_keep]
    | flush =>
      by_cases hfail : failing = some n
      · rw [perform_flush, Action.andThen_of_error (Action.flush_of_failing hfail), course,
          if_pos hfail]
        simp [Course.result, Sink.keep]
      · rw [course, if_neg hfail] at hroom ⊢
        rw [perform_flush, Action.andThen_of_ok (Action.flush_of_ne hfail)]
        exact ih hroom
    | read fault =>
      cases fault with
      | none => exact ih hroom
      | some cause =>
        rw [course, perform_fault, Action.andThen_of_error (Action.throw_eq _ _)]
        simp [Course.result, Sink.keep]

/-- The write that needs more room than there is ends the steps, and what fits of it is kept. -/
theorem perform_of_breaksOff {limit : Nat} {before ss : List Step}
    (hlimit : sink.limit = some limit) (hsink : sink.kept.size ≤ limit)
    (h : BreaksOff (limit - sink.kept.size) failing n before ss) :
    perform ss ⟨sink, n, failing, events⟩ = .error (.io .pipeClosed)
      ⟨sink.keep ((course failing n ss).written.take (limit - sink.kept.size)),
        (course failing n before).flushes, failing, events⟩ := by
  obtain ⟨hfault, hfits, bytes, later, rfl, hbreaks⟩ := h
  have hroom : sink.HasRoom (course failing n before).written.length := by
    intro limit' hlimit'
    obtain rfl : limit = limit' := by simpa [hlimit] using hlimit'
    omega
  have hbefore : perform before ⟨sink, n, failing, events⟩ = _ := perform_of_hasRoom before hroom
  simp only [Course.result, hfault] at hbefore
  generalize hk : course failing n before = k at *
  have hsize : (sink.keep k.written).kept.size = sink.kept.size + k.written.length := by
    simp [Sink.keep]
  have hfull : limit < (sink.keep k.written).kept.size + bytes.length := by
    rw [hsize]
    omega
  have hwrite := Sink.write_of_lt (s := sink.keep k.written) hlimit hfull
  have hrest : limit - (sink.kept.size + k.written.length) =
      limit - sink.kept.size - k.written.length := by omega
  rw [perform_append, Action.andThen_of_ok hbefore, perform_write,
    Action.andThen_of_error (Action.write_of_full (by rw [hwrite])), hwrite, hsize,
    course_append (by rw [hk]; exact hfault), hk, course, Sink.keep_keep, List.take_append,
    List.take_of_length_le hfits, hrest, List.take_append_of_le_length (by omega)]

end Session

/-! ### A session and its course -/

/-- How an action ends on a fresh console with this limit and this failing flush, what it has
    written by then, and how often it has flushed. -/
def Action.outcomeOn (limit failing : Option Nat) (act : Action Unit) :
    Except Failure Unit × Bytes × Nat :=
  match act (Console.fresh limit failing) with
  | .ok u c => (.ok u, c.sink.kept.toList, c.flushes)
  | .error e c => (.error e, c.sink.kept.toList, c.flushes)

theorem Action.Alike.outcomeOn_eq {f g : Action Unit} (h : Alike f g) (limit failing : Option Nat) :
    f.outcomeOn limit failing = g.outcomeOn limit failing := by
  have hfresh : (Console.fresh limit failing).sink.HasRoom 0 := fun _ _ => Nat.zero_le _
  unfold outcomeOn
  rcases h _ hfresh with ⟨d, hf, hg, -⟩ | ⟨e, d, hf, hg⟩
  · rw [hf, show Console.fresh limit failing = (Console.fresh limit failing).silent from rfl, hg]
    rfl
  · rw [hf, show Console.fresh limit failing = (Console.fresh limit failing).silent from rfl, hg]
    rfl

namespace Session

/-- Whatever goes wrong, a session follows the course of its steps as far as the limit lets it. If
    all is written that is written before the first failing read or flush, that is what ends it,
    and else the writer does, behind as many bytes as the limit allows. The four ways to fail are
    of different sorts. -/
theorem session_with_faults (input : Input) (limit failing : Option Nat) :
    ((∀ l ∈ limit, (course failing 0 (steps input)).written.length ≤ l) →
      (run input).outcomeOn limit failing =
        ((course failing 0 (steps input)).ending, (course failing 0 (steps input)).written,
          (course failing 0 (steps input)).flushes)) ∧
    (∀ l ∈ limit, l < (course failing 0 (steps input)).written.length →
      ∃ before, BreaksOff l failing 0 before (steps input) ∧
        (run input).outcomeOn limit failing =
          (.error (.io .pipeClosed), (course failing 0 (steps input)).written.take l,
            (course failing 0 before).flushes)) ∧
    IoFailure.notText.kind = .invalidData ∧ IoFailure.readFailed.kind = .connectionReset ∧
    IoFailure.flushFailed.kind = .timedOut ∧ IoFailure.pipeClosed.kind = .brokenPipe := by
  rw [(alike_run input).outcomeOn_eq]
  refine ⟨?_, ?_, rfl, rfl, rfl, rfl⟩
  · intro hfits
    have hroom : (Sink.mk limit #[]).HasRoom (course failing 0 (steps input)).written.length := by
      intro l hl
      have hle := hfits l hl
      simpa using hle
    have hperform : perform (steps input) ⟨⟨limit, #[]⟩, 0, failing, #[]⟩ = _ :=
      perform_of_hasRoom _ hroom
    unfold Action.outcomeOn Console.fresh Course.ending
    rw [hperform]
    unfold Course.result
    cases (course failing 0 (steps input)).fault <;> simp [Sink.keep]
  · intro l hl hlt
    obtain ⟨before, hbefore⟩ := exists_breaksOff hlt
    have hperform : perform (steps input) ⟨⟨limit, #[]⟩, 0, failing, #[]⟩ = _ :=
      perform_of_breaksOff hl (Nat.zero_le l) hbefore
    refine ⟨before, hbefore, ?_⟩
    unfold Action.outcomeOn Console.fresh
    rw [hperform]
    simp [Sink.keep]

/-- An empty line and a byte that no text has, with room for both prompts, or for the first and a
    part of the second, and with a second flush that fails. Then a letter of two bytes on a line,
    with a fault of the input that swallows what is behind it, and with room for the first of the
    two bytes. -/
theorem session_with_faults_two_prompts :
    ((run ⟨[0x0A, 0xFF], false⟩).outcomeOn (some 6) none =
        (.error (.io .notText), Utf8.encode ">> >> ", 2) ∧
      (∃ before, BreaksOff 4 none 0 before (steps ⟨[0x0A, 0xFF], false⟩) ∧
        (run ⟨[0x0A, 0xFF], false⟩).outcomeOn (some 4) none =
          (.error (.io .pipeClosed), Utf8.encode ">> >", (course none 0 before).flushes)) ∧
      (run ⟨[0x0A, 0xFF], false⟩).outcomeOn (some 6) (some 1) =
        (.error (.io .flushFailed), Utf8.encode ">> >> ", 2)) ∧
    (run ⟨Utf8.encode "é\nx", true⟩).outcomeOn none none =
      (.error (.io .readFailed), Utf8.encode ">> \x7bType:IDENT Literal:é\x7d\n>> ", 2) ∧
    (run ⟨Utf8.encode "é\nx", true⟩).outcomeOn (some 24) none =
      (.error (.io .pipeClosed), Utf8.encode ">> \x7bType:IDENT Literal:" ++ [0xC3], 1) := by
  constructor
  · have hsteps : steps ⟨[0x0A, 0xFF], false⟩ =
        askSteps ++ [.read none, .write (listing (scan ""))] ++
          (askSteps ++ [.read (some .notText)] ++ askSteps ++
            [.read none, .write (Utf8.encode "\n")]) := rfl
    have hlisting : listing (scan "") = [] := by decide +kernel
    rw [hlisting] at hsteps
    have hroom := (session_with_faults ⟨[0x0A, 0xFF], false⟩ (some 6) none).1
    have hcut := (session_with_faults ⟨[0x0A, 0xFF], false⟩ (some 4) none).2.1 4 rfl
    have hflush := (session_with_faults ⟨[0x0A, 0xFF], false⟩ (some 6) (some 1)).1
    rw [hsteps] at hroom hcut hflush ⊢
    exact ⟨hroom (by decide), hcut (by decide), hflush (by decide)⟩
  · have hsteps : steps ⟨Utf8.encode "é\nx", true⟩ =
        askSteps ++ [.read none, .write (listing (scan "é"))] ++
          (askSteps ++ [.read (some .readFailed)]) := rfl
    have hlisting : listing (scan "é") = Utf8.encode "\x7bType:IDENT Literal:é\x7d\n" := by
      decide +kernel
    have hwritten : (course none 0 (steps ⟨Utf8.encode "é\nx", true⟩)).written =
        Utf8.encode ">> \x7bType:IDENT Literal:é\x7d\n>> " := by
      rw [hsteps, hlisting]
      decide +kernel
    have hkept : (Utf8.encode ">> \x7bType:IDENT Literal:é\x7d\n>> ").take 24 =
        Utf8.encode ">> \x7bType:IDENT Literal:" ++ [0xC3] := by
      decide +kernel
    have hswallowed := (session_with_faults ⟨Utf8.encode "é\nx", true⟩ none none).1 (by simp)
    have hcut := (session_with_faults ⟨Utf8.encode "é\nx", true⟩ (some 24) none).2.1 24 rfl
    rw [hwritten] at hswallowed hcut
    obtain ⟨before, -, hrun⟩ := hcut (by decide +kernel)
    have hflushes : ((run ⟨Utf8.encode "é\nx", true⟩).outcomeOn (some 24) none).2.2 = 1 := by
      decide +kernel
    rw [hrun] at hflushes
    have hbefore : (course none 0 before).flushes = 1 := hflushes
    rw [hkept, hbefore] at hrun
    rw [hsteps] at hswallowed
    exact ⟨hswallowed, hrun⟩

end Session

end Monkey
