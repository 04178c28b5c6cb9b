import Monkey.Proofs.Effects
import Monkey.Proofs.Lines
import Monkey.Session
import Monkey.SourceFile

/-
  A session and a source file of the same bytes. If they are a text, the replies of the session
  to its lines are together the listing of the file, although each line is decoded, cut and read
  by itself. If they are none, both fail for the same reason, the session at the first line that
  is none. `session_agrees_with_file` says both. `Session.effects` lists what a session does, and
  `Session.account_effects` adds up the lines that are answered.
-/

namespace Monkey

/-! ### The listing of a source -/

theorem listed_scan (source : String) : listed (scan source) = tokensOf source.toList := by
  rw [listed, scan_eq, List.takeWhile_append_of_pos]
  · exact List.append_nil _
  · intro t ht
    rw [not_isEndOfInput_of_mem ht]
    rfl

/-- The listing of a source is that of its lines, one after the other. -/
theorem listing_lines (text : String) :
    ((Lines.ofText text).flatMap fun line => listing (scan (Lines.content line))) =
      listing (scan text) := by
  simp only [listing, listed_scan]
  rw [tokensOf_lines, List.flatMap_assoc]

/-! ### What is read -/

namespace Input

theorem reads_eq (bytes : Bytes) :
    reads ⟨bytes, false⟩ =
      (Lines.whole 0x0A bytes).map fun line => text (Lines.bare 0x0A 0x0D line) := by
  have hmap : ((Lines.whole 0x0A bytes).map fun line => text (Lines.bare 0x0A 0x0D line)) =
      ((Lines.whole 0x0A bytes).map (Lines.bare 0x0A 0x0D)).map text := by
    rw [List.map_map]
    rfl
  rcases hcut : Lines.cut 0x0A bytes with ⟨lines, rest⟩
  rw [hmap, Lines.map_bare_whole, hcut, List.map_append, List.map_map]
  simp only [reads, lastReads, hcut, Bool.false_eq_true, if_false]
  congr 1
  split
  · rfl
  · rfl

/-- A line of a text is read as its content. -/
theorem text_bare_encode (line : String) :
    text (Lines.bare 0x0A 0x0D (Utf8.encode line)) = .ok (Lines.content line) := by
  rw [text, Lines.bare_encode, Utf8.decode?_encode]

theorem text_bare_of_not_text {line : Bytes} (h : Utf8.decode? line = none) :
    text (Lines.bare 0x0A 0x0D line) = .error .notText := by
  rw [text, Lines.decode?_bare_eq_none h]

theorem reads_encode (source : String) :
    reads ⟨Utf8.encode source, false⟩ =
      (Lines.ofText source).map fun line => .ok (Lines.content line) := by
  rw [reads_eq, Lines.whole_encode, List.map_map]
  simp only [Function.comp_def, text_bare_encode]

theorem reads_of_not_text {bytes bad : Bytes} {lines : List String} {later : List Bytes}
    (hwhole : Lines.whole 0x0A bytes = lines.map Utf8.encode ++ bad :: later)
    (hbad : Utf8.decode? bad = none) :
    ∃ rest, reads ⟨bytes, false⟩ =
      (lines.map fun line => .ok (Lines.content line)) ++ .error .notText :: rest := by
  refine ⟨later.map fun line => text (Lines.bare 0x0A 0x0D line), ?_⟩
  rw [reads_eq, hwhole, List.map_append, List.map_cons, List.map_map,
    text_bare_of_not_text hbad]
  simp only [Function.comp_def, text_bare_encode]

end Input

/-! ### What a session does -/

namespace Session

def askEffects : List Effect := [.write (Utf8.encode ">> "), .flush]

def turnEffects : Except IoFailure String → List Effect
  | .ok line =>
    .report ((lexemes line).flatMap Log.Event.ofLexeme) ::
      (((listed (scan line)).map fun t => .write t.line) ++
        [.report [.answeredLine (listed (scan line)).length]])
  | .error cause => [.fail (.io cause)]

/-- What a session does on what the reads give. -/
def effects : List (Except IoFailure String) → List Effect
  | [] => askEffects ++ [.write (Utf8.encode "\n")]
  | r :: later => askEffects ++ (turnEffects r ++ effects later)

theorem ask_eq : ask = Effect.perform askEffects := by
  rw [askEffects, Effect.perform, Effect.perform_singleton]
  rfl

theorem turn_eq (r : Except IoFailure String) : turn r = Effect.perform (turnEffects r) := by
  cases r with
  | ok line =>
    rw [turn, answer_eq, Action.writeAll_eq, List.map_map, turnEffects, Effect.perform,
      Effect.perform_append, Effect.perform_singleton]
    rfl
  | error cause => rfl

theorem converse_eq (reads : List (Except IoFailure String)) :
    converse reads = Effect.perform (effects reads) := by
  induction reads with
  | nil => rw [converse, effects, Effect.perform_append, Effect.perform_singleton, ask_eq]; rfl
  | cons r later ih =>
    rw [converse, effects, Effect.perform_append, Effect.perform_append, ask_eq, turn_eq, ih]

/-- What comes of answering these lines, given without their ends. -/
def answers (lines : List String) : Account where
  written := lines.flatMap fun line => Utf8.encode ">> " ++ listing (scan line)
  flushes := lines.length
  events := lines.flatMap fun line =>
    (lexemes line).flatMap Log.Event.ofLexeme ++ [.answeredLine (listed (scan line)).length]
  failure? := none

theorem account_line (line : String) :
    Effect.account (askEffects ++ turnEffects (.ok line)) = answers [line] := by
  rw [Effect.account_append, turnEffects, Effect.account, Effect.account_append,
    Effect.account_writes]
  simp [askEffects, Effect.account, Effect.tally, Account.andThen, Account.empty, answers, listing]

theorem answers_cons (line : String) (lines : List String) :
    answers (line :: lines) = (answers [line]).andThen (answers lines) := by
  simp [answers, Account.andThen, Nat.add_comm]

/-- A session answers all lines that it can read before it turns to what comes then. -/
theorem account_effects (lines : List String) (later : List (Except IoFailure String)) :
    Effect.account (effects (lines.map .ok ++ later)) =
      (answers lines).andThen (Effect.account (effects later)) := by
  induction lines with
  | nil => simp [answers, Account.andThen]
  | cons line lines ih =>
    rw [List.map_cons, List.cons_append, effects, ← List.append_assoc, Effect.account_append,
      account_line, ih, answers_cons line lines, Account.andThen_assoc]

/-- What is written for the tokens of a line alone. -/
def reply (line : String) : Bytes := (Action.list (scan (Lines.content line))).outcome.2

theorem reply_eq : reply = fun line => listing (scan (Lines.content line)) := by
  funext line
  rw [reply, Action.outcome_list]

/-- Prompts and replies take turns. -/
theorem written_answers (lines : List String) :
    (answers (lines.map Lines.content)).written =
      lines.flatMap fun line => Utf8.encode ">> " ++ reply line := by
  simp only [answers, reply_eq, List.flatMap_map]

/-- The lines of a text that can be read come before what is read behind them. -/
theorem account_of_reads {input : Input} {lines : List String}
    {later : List (Except IoFailure String)}
    (h : input.reads = (lines.map fun line => .ok (Lines.content line)) ++ later) :
    Effect.account (effects input.reads) =
      (answers (lines.map Lines.content)).andThen (Effect.account (effects later)) := by
  have hreads : input.reads = (lines.map Lines.content).map .ok ++ later := by
    rw [h, List.map_map]
    rfl
  rw [hreads, account_effects]

theorem run_of_reads_ok {input : Input} {lines : List String}
    (h : input.reads = lines.map fun line => .ok (Lines.content line)) :
    (run input).outcome =
      (.ok (), (lines.flatMap fun line => Utf8.encode ">> " ++ reply line) ++
        Utf8.encode ">> \n") := by
  have hreads := h.trans (List.append_nil _).symm
  rw [run, converse_eq, Action.outcome_perform, account_of_reads hreads, ← written_answers]
  rfl

theorem run_of_reads_error {input : Input} {lines : List String} {cause : IoFailure}
    {rest : List (Except IoFailure String)}
    (h : input.reads = (lines.map fun line => .ok (Lines.content line)) ++ .error cause :: rest) :
    (run input).outcome =
      (.error (.io cause), (lines.flatMap fun line => Utf8.encode ">> " ++ reply line) ++
        Utf8.encode ">> ") := by
  rw [run, converse_eq, Action.outcome_perform, account_of_reads h, ← written_answers]
  rfl

end Session

/-! ### A session that hears its input piece by piece -/

namespace Session

theorem converse_eq_turns (reads : List (Except IoFailure String)) :
    converse reads = (do ask; turns reads; close) := by
  induction reads with
  | nil => simp [converse, turns]
  | cons r later ih => simp only [converse, turns, ih, bind_assoc]

theorem turns_append (rs ss : List (Except IoFailure String)) :
    turns (rs ++ ss) = (do turns rs; turns ss) := by
  induction rs with
  | nil => simp [turns]
  | cons r rs ih => simp [turns, ih]

/-- From bytes in which no line ends, hearing the pieces is turning to what the reads give of all
    that is then there. -/
theorem hearAll_eq (faulty : Bool) {pending : Bytes} (hpending : 0x0A ∉ pending)
    (pieces : List Bytes) :
    hearAll faulty pending pieces =
      (do turns (Input.reads ⟨pending ++ pieces.flatten, faulty⟩); close) := by
  induction pieces generalizing pending with
  | nil =>
    have hcut : Lines.cut 0x0A pending = ([], pending) := by
      have h := Lines.cut_append_of_not_mem hpending []
      simpa [Lines.cut] using h
    simp [hearAll, hearEnd, Input.reads, hcut]
  | cons piece later ih =>
    rcases hcut : Lines.cut 0x0A (pending ++ piece) with ⟨lines, rest⟩
    have hrest : 0x0A ∉ rest := by
      have h := Lines.not_mem_rest 0x0A (pending ++ piece)
      rwa [hcut] at h
    have hall : Lines.cut 0x0A (pending ++ (piece :: later).flatten) =
        (lines ++ (Lines.cut 0x0A (rest ++ later.flatten)).1,
          (Lines.cut 0x0A (rest ++ later.flatten)).2) := by
      rw [List.flatten_cons, ← List.append_assoc, Lines.cut_append, hcut]
    have hreads : Input.reads ⟨pending ++ (piece :: later).flatten, faulty⟩ =
        (lines.map fun line => Input.text (Lines.withoutReturn 0x0D line)) ++
          Input.reads ⟨rest ++ later.flatten, faulty⟩ := by
      simp only [Input.reads, hall, List.map_append, List.append_assoc]
    simp only [hearAll, hear, hcut, bind_assoc, pure_bind, ih hrest, hreads, turns_append]

/-- However the input is cut into pieces, to hear them is to hold the session on the whole. -/
theorem run_eq_hearAll (faulty : Bool) (pieces : List Bytes) :
    run ⟨pieces.flatten, faulty⟩ = (do ask; hearAll faulty [] pieces) := by
  rw [run, converse_eq_turns, hearAll_eq faulty List.not_mem_nil, List.nil_append]

end Session

/-! ### The session and the file -/

/-- The listing of a file is what a session replies to its lines, and both need a text. -/
theorem session_agrees_with_file (contents : Bytes → Except IoFailure Bytes) (path bytes : Bytes)
    (hfile : contents path = .ok bytes) :
    (∀ source, bytes = Utf8.encode source →
      (SourceFile.tokenize contents path).map Log.Told.value = .ok (scan source) ∧
      (Session.run ⟨bytes, false⟩).outcome =
        (.ok (), ((Lines.ofText source).flatMap fun line =>
          Utf8.encode ">> " ++ Session.reply line) ++ Utf8.encode ">> \n") ∧
      (Lines.ofText source).flatMap Session.reply = (Action.list (scan source)).outcome.2) ∧
    (Utf8.decode? bytes = none →
      IoFailure.notText.kind = .invalidData ∧
      (SourceFile.tokenize contents path).map Log.Told.value =
        .error (.unreadableSource path .notText) ∧
      ∃ (lines : List String) (bad : Bytes) (later : List Bytes),
        Lines.whole 0x0A bytes = lines.map Utf8.encode ++ bad :: later ∧
        Utf8.decode? bad = none ∧
        (Session.run ⟨bytes, false⟩).outcome =
          (.error (.io .notText), (lines.flatMap fun line =>
            Utf8.encode ">> " ++ Session.reply line) ++ Utf8.encode ">> ")) := by
  constructor
  · rintro source rfl
    refine ⟨?_, Session.run_of_reads_ok (Input.reads_encode source), ?_⟩
    · rw [SourceFile.tokenize_of_text hfile]
      rfl
    · rw [Session.reply_eq, listing_lines, Action.outcome_list]
  · intro hnone
    refine ⟨rfl, ?_, ?_⟩
    · rw [SourceFile.tokenize_of_not_text hfile hnone]
      rfl
    · obtain ⟨lines, bad, later, hwhole, hbad⟩ := Lines.exists_first_line_not_text hnone
      obtain ⟨rest, hreads⟩ := Input.reads_of_not_text hwhole hbad
      exact ⟨lines, bad, later, hwhole, hbad, Session.run_of_reads_error hreads⟩

/-- Two equals signs, at the end of a line and behind it, and a line in front of a byte that no
    text has. -/
theorem session_agrees_with_file_two_lines :
    ((SourceFile.tokenize (fun _ => .ok (Utf8.encode "a=\r\n=")) []).map Log.Told.value =
        .ok (scan "a=\r\n=") ∧
      (Session.run ⟨Utf8.encode "a=\r\n=", false⟩).outcome =
        (.ok (), Utf8.encode (">> \x7bType:IDENT Literal:a\x7d\n\x7bType:ASSIGN Literal:=\x7d\n" ++
          ">> \x7bType:ASSIGN Literal:=\x7d\n>> \n")) ∧
      (Action.list (scan "a=\r\n=")).outcome.2 = Utf8.encode
        ("\x7bType:IDENT Literal:a\x7d\n\x7bType:ASSIGN Literal:=\x7d\n" ++
          "\x7bType:ASSIGN Literal:=\x7d\n")) ∧
    (SourceFile.tokenize (fun _ => .ok [0x3D, 0x0A, 0xFF]) []).map Log.Told.value =
        .error (.unreadableSource [] .notText) ∧
      (Session.run ⟨[0x3D, 0x0A, 0xFF], false⟩).outcome =
        (.error (.io .notText), Utf8.encode ">> \x7bType:ASSIGN Literal:=\x7d\n>> ") := by
  have hlines : Lines.ofText "a=\r\n=" = ["a=\r\n", "="] := by decide
  have hfirst : Session.reply "a=\r\n" =
      Utf8.encode "\x7bType:IDENT Literal:a\x7d\n\x7bType:ASSIGN Literal:=\x7d\n" := by
    decide +kernel
  have hsecond : Session.reply "=" = Utf8.encode "\x7bType:ASSIGN Literal:=\x7d\n" := by
    decide +kernel
  have hthird : Session.reply "=\n" = Utf8.encode "\x7bType:ASSIGN Literal:=\x7d\n" := by
    decide +kernel
  have htext := (session_agrees_with_file (fun _ => .ok (Utf8.encode "a=\r\n=")) [] _ rfl).1 _ rfl
  have hbytes := (session_agrees_with_file (fun _ => .ok [0x3D, 0x0A, 0xFF]) [] _ rfl).2 (by decide)
  constructor
  · obtain ⟨htokens, hrun, hreplies⟩ := htext
    rw [hlines] at hrun hreplies
    refine ⟨htokens, hrun.trans (congrArg (Prod.mk _) ?_), hreplies.symm.trans ?_⟩
    · simp only [List.flatMap_cons, List.flatMap_nil, hfirst, hsecond]
      decide +kernel
    · simp only [List.flatMap_cons, List.flatMap_nil, hfirst, hsecond]
      decide +kernel
  · obtain ⟨-, hfail, lines, bad, later, hwhole, hbad, hrun⟩ := hbytes
    have hpieces : Lines.whole 0x0A [0x3D, 0x0A, 0xFF] =
        ["=\n"].map Utf8.encode ++ [0xFF] :: [] := by decide
    obtain rfl : lines = ["=\n"] :=
      Lines.texts_before_first_not_text hbad (by decide) (hwhole.symm.trans hpieces)
    refine ⟨hfail, hrun.trans (congrArg (Prod.mk _) ?_)⟩
    simp only [List.flatMap_cons, List.flatMap_nil, hthird]
    decide +kernel

end Monkey
