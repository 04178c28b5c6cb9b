import Monkey.Command
import Monkey.Proofs.Delivery
import Monkey.Proofs.Legality
import Monkey.Proofs.Session

/-
  A run of the program on a source file. What a run does is a list of effects (`listFile_of_text`),
  and what it leaves behind is their account as the filter of the log lets it be seen
  (`run_of_perform`). The filter stands outside of the account, so verbosity decides on nothing but
  the log, and strictness adds a failure behind everything else. `file_run` says what comes of it
  for each path and what can lie under it, whatever filters there are.
-/

namespace Monkey

namespace Utf8

/-- The bytes of a character are taken apart as that character. -/
theorem pieces_encodeChar_append (c : Char) (rest : Bytes) :
    pieces (String.utf8EncodeChar c ++ rest) = .char c :: pieces rest := by
  obtain ⟨b, later, hbytes⟩ := List.exists_cons_of_ne_nil (String.utf8EncodeChar_ne_nil (c := c))
  have hsize : c.utf8Size = later.length + 1 := by
    rw [← String.length_utf8EncodeChar, hbytes, List.length_cons]
  have hle : c.utf8Size ≤ 4 := c.utf8Size_le_four
  have htake : (later ++ rest).take 3 = later ++ rest.take (3 - later.length) := by
    rw [List.take_append, List.take_of_length_le (by omega)]
  have hdecode :
      ByteArray.utf8DecodeChar? (b :: (later ++ rest).take 3).toByteArray 0 = some c := by
    rw [htake, ← List.cons_append, ← hbytes, List.toByteArray_append]
    exact ByteArray.utf8DecodeChar?_utf8EncodeChar_append
  have hdrop : (later ++ rest).drop (c.utf8Size - 1) = rest := by
    rw [hsize, Nat.add_sub_cancel, List.drop_left]
  rw [hbytes, List.cons_append, pieces, hdecode]
  simp only [hdrop]

theorem pieces_encode (text : String) : pieces (encode text) = text.toList.map .char := by
  unfold encode
  induction text.toList with
  | nil => rw [List.flatMap_nil, pieces, List.map_nil]
  | cons c cs ih => rw [List.flatMap_cons, pieces_encodeChar_append, ih, List.map_cons]

/-- The bytes of a text are shown as that text. -/
theorem lossy_encode (text : String) : lossy (encode text) = text := by
  rw [lossy, pieces_encode, List.map_map]
  show String.ofList (text.toList.map id) = text
  rw [List.map_id, String.ofList_toList]

end Utf8

/-- What is wrong with the characters of a text. -/
def illegal? (text : String) : Option Failure :=
  (text.toList.find? fun c => !isLegal c).map fun c =>
    .illegalCharacters (text.toList.countP fun c => !isLegal c) (String.singleton c)

theorem illegal?_eq_none_iff {text : String} :
    illegal? text = none ↔ ∀ c ∈ text.toList, isLegal c = true := by
  simp [illegal?]

theorem checkLegal_scan (text : String) :
    checkLegal (scan text) =
      match illegal? text with
      | none => .ok ()
      | some e => .error e := by
  have hforeign : isForeign = fun c => !isLegal c := funext isForeign_eq
  have htokens := filter_isIllegal_scan text
  unfold illegal?
  rw [← hforeign, List.countP_eq_length_filter]
  rcases hfind : text.toList.find? isForeign with _ | c
  · rw [← List.head?_filter, List.head?_eq_none_iff] at hfind
    rw [hfind] at htokens
    exact (checkLegal_eq_ok_iff _).2 htokens
  · obtain ⟨later, hlater⟩ := filter_eq_cons_of_find? hfind
    rw [hlater, List.map_cons] at htokens
    rw [checkLegal_of_filter_eq_cons htokens, hlater, List.length_map]
    rfl

namespace Command

/-! ### What a run does -/

def verdictEffects (strict : Bool) (text : String) : List Effect :=
  match strict, illegal? text with
  | true, some e => [.fail e]
  | _, _ => []

/-- What is told of a source file that is a text. -/
def fileEvents (path : Bytes) (text : String) : List Log.Event :=
  .readSource path text.length :: Log.Event.ofSource text

/-- What is done to list a source file that is a text. -/
def fileEffects (path : Bytes) (text : String) (strict : Bool) : List Effect :=
  .report (fileEvents path text) ::
    (((listed (scan text)).map fun t => .write t.line) ++ verdictEffects strict text)

theorem verdict_eq (strict : Bool) (text : String) :
    (if strict then orFail (checkLegal (scan text)) else pure ()) =
      Effect.perform (verdictEffects strict text) := by
  rw [checkLegal_scan]
  unfold verdictEffects
  cases strict with
  | false => rfl
  | true =>
    rcases illegal? text with _ | e
    · rfl
    · show orFail (.error e) = Effect.perform [.fail e]
      rw [Effect.perform_singleton]
      rfl

variable {s : Surroundings} {o : Options} {path : Bytes}

theorem listFile_of_error {contents : Bytes → Except IoFailure Bytes} {e : Failure}
    (h : SourceFile.tokenize contents path = .error e) (strict : Bool) :
    listFile contents path strict = Effect.perform [.fail e] := by
  rw [listFile, h]
  rfl

theorem listFile_of_text {contents : Bytes → Except IoFailure Bytes} {text : String}
    (h : contents path = .ok (Utf8.encode text)) (strict : Bool) :
    listFile contents path strict = Effect.perform (fileEffects path text strict) := by
  rw [listFile, SourceFile.tokenize_of_text h, fileEffects, Effect.perform, Effect.perform_append,
    ← verdict_eq]
  simp only [orFail, pure_bind, Action.list_eq, bind_assoc]
  rfl

/-! ### What a run leaves behind -/

/-- What is told of a failure, behind the log. -/
def told : Option Failure → String
  | none => ""
  | some e => e.line ++ "\n"

/-- The outcome of a run of which this is the account. -/
def outcomeOf (f : Log.Filter) (a : Account) : Outcome where
  code := if a.failure?.isSome then 1 else 0
  output := a.written
  log := a.events.filter f
  error := told a.failure?

/-- The filter decides on what is seen of the account, and on nothing in it. -/
theorem run_of_perform {es : List Effect} (h : act s o = Effect.perform es) :
    run s o = outcomeOf (filter s o) (Effect.account es) := by
  have hperform := Effect.perform_eq (c := Console.fresh none none) rfl rfl es
  unfold run
  rw [h, EStateM.run, hperform]
  unfold Account.result outcomeOf
  rcases (Effect.account es).failure? with _ | e
  · simp [Account.on, Console.fresh, told]
  · simp [Account.on, Console.fresh, told]

theorem account_verdictEffects (strict : Bool) (text : String) :
    Effect.account (verdictEffects strict text) =
      { Account.empty with failure? := if strict then illegal? text else none } := by
  unfold verdictEffects
  cases strict with
  | false => rfl
  | true =>
    rcases illegal? text with _ | e
    · rfl
    · rfl

/-- The whole listing is written before the text is judged. -/
theorem account_fileEffects (path : Bytes) (text : String) (strict : Bool) :
    Effect.account (fileEffects path text strict) =
      { written := listing (scan text)
        flushes := 0
        events := fileEvents path text
        failure? := if strict then illegal? text else none } := by
  rw [fileEffects, Effect.account, Effect.account_append, Effect.account_writes,
    account_verdictEffects]
  simp [Effect.tally, Account.andThen, Account.empty, listing]

theorem act_of_path (hpath : o.path? = some path) :
    act s o = listFile s.contents path o.strict := by
  simp only [act, hpath]

theorem run_of_text {text : String} (hpath : o.path? = some path)
    (h : s.contents path = .ok (Utf8.encode text)) :
    run s o = outcomeOf (filter s o)
      { written := listing (scan text)
        flushes := 0
        events := fileEvents path text
        failure? := if o.strict then illegal? text else none } := by
  rw [run_of_perform ((act_of_path hpath).trans (listFile_of_text h o.strict)),
    account_fileEffects]

/-! ### What is told of a failure -/

/-- A failure is told by its name and its tip. -/
theorem told_of_tip {e : Failure} {tip : String} (h : e.tip? = some tip) :
    told (some e) = "Error: " ++ e.name ++ " (" ++ tip ++ ")\n" := by
  have hend : ")\n" = ")" ++ "\n" := rfl
  rw [told, Failure.line, h, Option.getD_some, hend, ← String.append_assoc]

theorem told_unreadable (path : Bytes) (cause : IoFailure) :
    told (some (.unreadableSource path cause)) =
      "Error: SourceRead (Could not read `" ++ Utf8.lossy path ++
        "`, does the file exist and contain UTF-8 text?)\n" := by
  have hhead : "Error: SourceRead (Could not read `" =
      "Error: " ++ "SourceRead" ++ " (" ++ "Could not read `" := rfl
  have htail : "`, does the file exist and contain UTF-8 text?)\n" =
      "`, does the file exist and contain UTF-8 text?" ++ ")\n" := rfl
  rw [told_of_tip rfl, hhead, htail]
  simp only [Failure.name, String.append_assoc]

theorem told_illegal (count : Nat) (first : String) :
    told (some (.illegalCharacters count first)) =
      "Error: IllegalCharacters (Found " ++ toString count ++
        " illegal character(s), the first being `" ++ first ++ "`)\n" := by
  have hhead : "Error: IllegalCharacters (Found " =
      "Error: " ++ "IllegalCharacters" ++ " (" ++ "Found " := rfl
  have htail : "`)\n" = "`" ++ ")\n" := rfl
  rw [told_of_tip rfl, hhead, htail]
  simp only [Failure.name, String.append_assoc]

theorem run_of_no_text (hpath : o.path? = some path)
    (h : ∀ text, s.contents path ≠ .ok (Utf8.encode text)) :
    run s o = ⟨1, [], [], "Error: SourceRead (Could not read `" ++ Utf8.lossy path ++
      "`, does the file exist and contain UTF-8 text?)\n"⟩ := by
  obtain ⟨cause, htokens⟩ := SourceFile.tokenize_of_no_text h
  rw [run_of_perform ((act_of_path hpath).trans (listFile_of_error htokens o.strict)),
    ← told_unreadable path cause]
  rfl

/-! ### The run on a source file -/

/-- A run that lists this text leaves this behind. -/
structure ListsText (r : Outcome) (strict : Bool) (text : String) : Prop where
  /-- All tokens but the end have their lines, whether the text is legal or not. -/
  output : r.output = (proper (scan text)).flatMap fun t =>
    Utf8.encode ("\x7bType:" ++ t.kind.tag ++ " Literal:" ++ t.literal ++ "\x7d" ++ "\n")
  accepted : (strict = false ∨ ∀ c ∈ text.toList, isLegal c = true) →
    r.code = 0 ∧ r.error = ""
  refused : strict = true → ∀ c, text.toList.find? (fun c => !isLegal c) = some c →
    r.code = 1 ∧ r.error = "Error: IllegalCharacters (Found " ++
      toString (text.toList.countP fun c => !isLegal c) ++
      " illegal character(s), the first being `" ++ String.singleton c ++ "`)\n"
  code_eq_one_iff : r.code = 1 ↔ strict = true ∧ ∃ c ∈ text.toList, isLegal c = false

theorem listsText_outcomeOf (f : Log.Filter) (strict : Bool) (text : String)
    (events : List Log.Event) :
    ListsText (outcomeOf f { written := listing (scan text)
                             flushes := 0
                             events := events
                             failure? := if strict then illegal? text else none })
      strict text := by
  have hnone : illegal? text = none ↔ ∀ c ∈ text.toList, isLegal c = true :=
    illegal?_eq_none_iff
  have houtput : listing (scan text) = (proper (scan text)).flatMap Token.line := by
    rw [listing, listed_scan, proper_scan]
  refine ⟨houtput, fun h => ?_, fun hstrict c hc => ?_, ?_⟩
  · have hpassed : (if strict then illegal? text else none) = none := by
      rcases h with rfl | hlegal
      · rfl
      · rw [hnone.2 hlegal, ite_self]
    simp [outcomeOf, hpassed, told]
  · have hfailed : (if strict then illegal? text else none) =
        some (.illegalCharacters (text.toList.countP fun c => !isLegal c)
          (String.singleton c)) := by
      rw [if_pos hstrict, illegal?, hc]
      rfl
    rw [← told_illegal]
    simp [outcomeOf, hfailed]
  · cases strict with
    | false => simp [outcomeOf]
    | true =>
      rcases hillegal : illegal? text with _ | e
      · have hlegal := hnone.1 hillegal
        simpa [outcomeOf, hillegal] using hlegal
      · have hfound : ¬ ∀ c ∈ text.toList, isLegal c = true := by
          rw [← hnone, hillegal]
          simp
        simpa [outcomeOf, hillegal] using hfound

/-- What a run with a path comes to, for all that may lie under the path. -/
structure FileRun (s : Surroundings) (o : Options) (path : Bytes) : Prop where
  /-- Where there is no text, nothing is listed and the log is empty. -/
  unreadable : (∀ text, s.contents path ≠ .ok (Utf8.encode text)) →
    run s o = ⟨1, [], [], "Error: SourceRead (Could not read `" ++ Utf8.lossy path ++
      "`, does the file exist and contain UTF-8 text?)\n"⟩
  /-- A path that is a text is shown as it is. -/
  shown : ∀ name, path = Utf8.encode name → Utf8.lossy path = name
  readable : ∀ text, s.contents path = .ok (Utf8.encode text) →
    ListsText (run s o) o.strict text ∧
      (run s o).log =
        (.readSource path text.length :: Log.Event.ofSource text).filter (filter s o)
  /-- Another run on the same source, with other filters and another verbosity, has the same
      output. If it is as strict, it ends as this one does and tells the same of it. -/
  alike : ∀ s' o', o'.path? = some path → s'.contents = s.contents →
    (run s' o').output = (run s o).output ∧
      (o'.strict = o.strict →
        (run s' o').code = (run s o).code ∧ (run s' o').error = (run s o).error)

/-- A run with a path lists what lies under it if that is a text, and fails if it is none, or if
    it is to be strict and the text is not legal. -/
theorem file_run (s : Surroundings) (o : Options) (path : Bytes) (hpath : o.path? = some path) :
    FileRun s o path where
  unreadable := run_of_no_text hpath
  shown := by
    rintro name rfl
    exact Utf8.lossy_encode name
  readable := by
    intro text htext
    rw [run_of_text hpath htext]
    exact ⟨listsText_outcomeOf (filter s o) o.strict text _, rfl⟩
  alike := by
    intro s' o' hpath' hcontents
    by_cases htext : ∃ text, s.contents path = .ok (Utf8.encode text)
    · obtain ⟨text, htext⟩ := htext
      rw [run_of_text hpath htext, run_of_text hpath' (hcontents ▸ htext)]
      refine ⟨rfl, fun hstrict => ?_⟩
      rw [hstrict]
      exact ⟨rfl, rfl⟩
    · have hno := not_exists.1 htext
      rw [run_of_no_text hpath hno, run_of_no_text hpath' (hcontents ▸ hno)]
      exact ⟨rfl, fun _ => ⟨rfl, rfl⟩⟩

/-- Surroundings with a source of two foreign marks behind a letter, a byte that no text has under
    every other path, and filters for debugging and for nothing else. -/
def twoMarks : Surroundings where
  contents path := if path = [0x78] then .ok (Utf8.encode "a$@") else .ok [0xFF]
  input := ⟨[], false⟩
  filterOf name e := name == "debug" && e.level == .debug
  environmentFilter? := none

/-- A strict run, one that is to tell all, and one on a path and a source that are no texts. -/
theorem file_run_two_marks :
    run twoMarks ⟨some [0x78], true, false⟩ =
      ⟨1, Utf8.encode ("\x7bType:IDENT Literal:a\x7d\n\x7bType:ILLEGAL Literal:$\x7d\n" ++
          "\x7bType:ILLEGAL Literal:@\x7d\n"), [],
        "Error: IllegalCharacters (Found 2 illegal character(s), the first being `$`)\n"⟩ ∧
    run twoMarks ⟨some [0x78], false, true⟩ =
      ⟨0, Utf8.encode ("\x7bType:IDENT Literal:a\x7d\n\x7bType:ILLEGAL Literal:$\x7d\n" ++
          "\x7bType:ILLEGAL Literal:@\x7d\n"),
        [.readSource [0x78] 3, .illegalCharacter '$' 1, .illegalCharacter '@' 2, .scannedSource 4],
        ""⟩ ∧
    run twoMarks ⟨some [0x78, 0xFF], false, false⟩ =
      ⟨1, [], [], "Error: SourceRead (Could not read `x\uFFFD`, " ++
        "does the file exist and contain UTF-8 text?)\n"⟩ := by
  have hstrict := file_run twoMarks ⟨some [0x78], true, false⟩ [0x78] rfl
  have hverbose := file_run twoMarks ⟨some [0x78], false, true⟩ [0x78] rfl
  have hbytes := file_run twoMarks ⟨some [0x78, 0xFF], false, false⟩ [0x78, 0xFF] rfl
  have hlines : ((proper (scan "a$@")).flatMap fun t =>
      Utf8.encode ("\x7bType:" ++ t.kind.tag ++ " Literal:" ++ t.literal ++ "\x7d" ++ "\n")) =
      Utf8.encode ("\x7bType:IDENT Literal:a\x7d\n\x7bType:ILLEGAL Literal:$\x7d\n" ++
        "\x7bType:ILLEGAL Literal:@\x7d\n") := by
    decide +kernel
  refine ⟨?_, ?_, ?_⟩
  · obtain ⟨hlists, hlog⟩ := hstrict.readable "a$@" rfl
    have hfirst : "a$@".toList.find? (fun c => !isLegal c) = some '$' := by decide
    obtain ⟨hcode, herror⟩ := hlists.refused rfl '$' hfirst
    show Outcome.mk (run _ _).code (run _ _).output (run _ _).log (run _ _).error = _
    rw [hcode, hlists.output, hlog, herror, hlines]
    decide +kernel
  · obtain ⟨hlists, hlog⟩ := hverbose.readable "a$@" rfl
    obtain ⟨hcode, herror⟩ := hlists.accepted (Or.inl rfl)
    show Outcome.mk (run _ _).code (run _ _).output (run _ _).log (run _ _).error = _
    rw [hcode, hlists.output, hlog, herror, hlines]
    decide +kernel
  · rw [hbytes.unreadable]
    · decide +kernel
    · have hbyte : Utf8.decode? [0xFF] = none := by decide
      intro text htext
      exact Utf8.decode?_eq_none_iff.1 hbyte text (Except.ok.inj htext)

end Command

end Monkey
