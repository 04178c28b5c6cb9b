import Monkey.Proofs.Delivery
import Monkey.TokenStream.Script

/-
  Streams that are driven side by side. The history of a stream grows by the calls on that stream
  and by nothing else (`getElem?_foldl_record`). A script is run on the streams to which some
  histories have led, and a step on them does what it does to the histories (`step_of_histories`),
  so after the whole script each stream is where its own history leads, and its calls have been
  answered as if they were all there is (`script_of_histories`). `streams_are_independent` says it
  of every stream that a script makes, from a source or as a copy of another one.
-/

namespace Monkey.TokenStream

/-! ### The part of a script that is about one stream -/

/-- Each step uses a stream that is there: one of those made at first, or one made on the way. -/
def Addressed : Nat → List Step → Prop
  | _, [] => True
  | made, .fresh _ :: later => Addressed (made + 1) later
  | made, .copy on :: later => on < made ∧ Addressed (made + 1) later
  | made, .call on _ :: later => on < made ∧ Addressed made later

instance decidableAddressed : (made : Nat) → (steps : List Step) → Decidable (Addressed made steps)
  | _, [] => isTrue trivial
  | made, .fresh _ :: later => decidableAddressed (made + 1) later
  | made, .copy on :: later =>
    @instDecidableAnd (on < made) _ _ (decidableAddressed (made + 1) later)
  | made, .call on _ :: later =>
    @instDecidableAnd (on < made) _ _ (decidableAddressed made later)

/-- The calls on stream `n`. -/
def callsOn (n : Nat) (steps : List Step) : List Call :=
  steps.filterMap fun
    | .call on c => if on = n then some c else none
    | _ => none

/-- What comes of the calls on stream `n`. -/
def answersOn (n : Nat) (steps : List Step) (os : List Outcome) : List Answer :=
  (steps.zip os).filterMap fun
    | (.call on _, .answered a) => if on = n then some a else none
    | _ => none

theorem callsOn_append (n : Nat) (before later : List Step) :
    callsOn n (before ++ later) = callsOn n before ++ callsOn n later :=
  List.filterMap_append

theorem callsOn_cons (n : Nat) (st : Step) (later : List Step) :
    callsOn n (st :: later) = callsOn n [st] ++ callsOn n later :=
  callsOn_append n [st] later

theorem answersOn_cons (n : Nat) (st : Step) (later : List Step) (o : Outcome)
    (os : List Outcome) :
    answersOn n (st :: later) (o :: os) = answersOn n [st] [o] ++ answersOn n later os :=
  List.filterMap_append (l := [(st, o)])

theorem answersOn_append (n : Nat) {before : List Step} {os : List Outcome}
    (h : os.length = before.length) (later : List Step) (os' : List Outcome) :
    answersOn n (before ++ later) (os ++ os') =
      answersOn n before os ++ answersOn n later os' := by
  unfold answersOn
  rw [List.zip_append h.symm, List.filterMap_append]

/-! ### Histories -/

namespace History

theorem andThen_nil (h : History) : h.andThen [] = h := by
  unfold andThen
  rw [List.append_nil]

theorem andThen_andThen (h : History) (calls later : List Call) :
    (h.andThen calls).andThen later = h.andThen (calls ++ later) := by
  unfold andThen
  rw [List.append_assoc]

theorem answers_andThen (h : History) (later : List Call) :
    (h.andThen later).answers = h.answers ++ (h.stream.answers later).1 := by
  unfold answers andThen
  rw [answers_append]
  rfl

end History

variable {hs : List History} {n : Nat} {h : History}

/-- A step is taken down in the history of the stream that it calls, and in no other. -/
theorem getElem?_record (hn : hs[n]? = some h) (st : Step) :
    (record hs st)[n]? = some (h.andThen (callsOn n [st])) := by
  have hlt : n < hs.length := (List.getElem?_eq_some_iff.1 hn).1
  cases st with
  | fresh source =>
    rw [record, List.getElem?_append_left hlt, hn]
    exact congrArg some h.andThen_nil.symm
  | copy on =>
    rw [record, List.getElem?_append_left hlt, hn]
    exact congrArg some h.andThen_nil.symm
  | call on c =>
    rw [record, List.getElem?_modify, hn]
    by_cases hon : on = n
    · simp [callsOn, hon, History.andThen]
    · simp [callsOn, hon, History.andThen]

theorem getElem?_record_fresh (hs : List History) (source : String) :
    (record hs (.fresh source))[hs.length]? = some ⟨source, []⟩ :=
  List.getElem?_concat_length

theorem getElem?_record_copy {on : Nat} (hon : hs[on]? = some h) :
    (record hs (.copy on))[hs.length]? = some h := by
  rw [record, hon]
  exact List.getElem?_concat_length

/-- The history of a stream grows by the calls on it, whatever else a script does. -/
theorem getElem?_foldl_record (hn : hs[n]? = some h) (steps : List Step) :
    (steps.foldl record hs)[n]? = some (h.andThen (callsOn n steps)) := by
  induction steps generalizing hs h with
  | nil =>
    rw [List.foldl_nil, hn]
    exact congrArg some h.andThen_nil.symm
  | cons st later ih =>
    rw [List.foldl_cons, ih (getElem?_record hn st), callsOn_cons n st later,
      History.andThen_andThen]

theorem length_le_foldl_record (hs : List History) (steps : List Step) :
    hs.length ≤ (steps.foldl record hs).length := by
  induction steps generalizing hs with
  | nil => exact Nat.le_refl _
  | cons st later ih =>
    have hrecord : hs.length ≤ (record hs st).length := by
      cases st with
      | fresh source => simp [record]
      | copy on => simp [record]
      | call on c => simp [record]
    exact Nat.le_trans hrecord (ih (record hs st))

/-- What comes behind some steps uses the streams that are there then. -/
theorem addressed_append (hs : List History) {before later : List Step} :
    Addressed hs.length (before ++ later) ↔
      Addressed hs.length before ∧ Addressed (before.foldl record hs).length later := by
  induction before generalizing hs with
  | nil => exact (and_iff_right trivial).symm
  | cons st before ih =>
    rw [List.cons_append, List.foldl_cons]
    cases st with
    | fresh source =>
      have hlength : (record hs (.fresh source)).length = hs.length + 1 := by simp [record]
      rw [Addressed, Addressed, ← hlength, ih]
    | copy on =>
      rw [Addressed, Addressed, and_assoc]
      refine and_congr_right fun hlt => ?_
      have hlength : (record hs (.copy on)).length = hs.length + 1 := by simp [record, hlt]
      rw [← hlength, ih]
    | call on c =>
      have hlength : (record hs (.call on c)).length = hs.length := by simp [record]
      rw [Addressed, Addressed, and_assoc, ← hlength, ih]

theorem addressed_cons {st : Step} {later : List Step} :
    Addressed hs.length (st :: later) ↔
      Addressed hs.length [st] ∧ Addressed (record hs st).length later := by
  rw [← List.singleton_append, addressed_append]
  rfl

/-- Nothing is asked of a stream before it is made. -/
theorem callsOn_eq_nil (hs : List History) {steps : List Step} (h : Addressed hs.length steps)
    (hn : (steps.foldl record hs).length ≤ n) : callsOn n steps = [] := by
  induction steps generalizing hs with
  | nil => rfl
  | cons st later ih =>
    obtain ⟨hst, hlater⟩ := addressed_cons.1 h
    rw [callsOn_cons, ih _ hlater hn, List.append_nil]
    cases st with
    | fresh source => rfl
    | copy on => rfl
    | call on c =>
      have hle : hs.length ≤ n := Nat.le_trans (length_le_foldl_record hs _) hn
      have hne : on ≠ n := Nat.ne_of_lt (Nat.lt_of_lt_of_le hst.1 hle)
      simp [callsOn, hne]

/-! ### A script and the histories -/

/-- A step on streams with these histories leaves them where the histories then lead. -/
theorem step_of_histories {st : Step} {later : List Step}
    (h : Addressed hs.length (st :: later)) :
    ∃ o, step (hs.map History.stream) st = some (o, (record hs st).map History.stream) ∧
      ((∀ on c, st ≠ .call on c) → o = .made hs.length) ∧
      ∀ (n : Nat) (h : History), hs[n]? = some h →
        answersOn n [st] [o] = (h.stream.answers (callsOn n [st])).1 := by
  cases st with
  | fresh source =>
    refine ⟨.made hs.length, ?_, fun _ => rfl, fun n h _ => rfl⟩
    rw [step, record, List.length_map, List.map_append]
    rfl
  | copy on =>
    obtain ⟨hlt, -⟩ := h
    refine ⟨.made hs.length, ?_, fun _ => rfl, fun n h _ => rfl⟩
    simp [step, record, hlt]
  | call on c =>
    obtain ⟨hlt, -⟩ := h
    have hon : hs[on]? = some hs[on] := List.getElem?_eq_getElem hlt
    refine ⟨.answered (hs[on].nextAnswer c), ?_, fun hne => absurd rfl (hne on c), ?_⟩
    · have hset : (hs.map History.stream).set on (hs[on].stream.answer c).2 =
          (record hs (.call on c)).map History.stream := by
        have hlast : (hs[on].stream.answer c).2 = (hs[on].andThen [c]).stream := by
          rw [History.stream_andThen]
          rfl
        rw [record, List.modify_eq_set_getElem?, hon, hlast, ← List.map_set]
        rfl
      simp only [step, List.getElem?_map, hon, Option.map_some, Option.bind_eq_bind,
        Option.bind_some, hset]
      rfl
    · intro n h hn
      by_cases heq : on = n
      · subst heq
        obtain rfl : hs[on] = h := Option.some.inj (hon.symm.trans hn)
        simp [answersOn, callsOn, answers, History.nextAnswer]
      · simp [answersOn, callsOn, heq, answers]

theorem script_cons_of {streams streams' streams'' : List TokenStream} {st : Step}
    {later : List Step} {o : Outcome} {os : List Outcome}
    (hstep : step streams st = some (o, streams'))
    (hlater : script streams' later = some (os, streams'')) :
    script streams (st :: later) = some (o :: os, streams'') := by
  simp only [script, hstep, hlater, Option.bind_eq_bind, Option.bind_some]

/-- After a script, each stream is where its history leads, and what it was asked on the way was
    answered as if nothing else had been done. -/
theorem script_of_histories (hs : List History) {steps : List Step}
    (h : Addressed hs.length steps) :
    ∃ os, script (hs.map History.stream) steps =
        some (os, (steps.foldl record hs).map History.stream) ∧
      os.length = steps.length ∧
      ∀ (n : Nat) (h : History), hs[n]? = some h →
        answersOn n steps os = (h.stream.answers (callsOn n steps)).1 := by
  induction steps generalizing hs with
  | nil => exact ⟨[], rfl, rfl, fun n h _ => rfl⟩
  | cons st later ih =>
    obtain ⟨o, hstep, -, hfirst⟩ := step_of_histories h
    obtain ⟨os, hscript, hlength, hlater⟩ :=
      ih _ (addressed_cons.1 h).2
    refine ⟨o :: os, script_cons_of hstep hscript, ?_, ?_⟩
    · rw [List.length_cons, hlength, List.length_cons]
    · intro n h hn
      rw [answersOn_cons, hfirst n h hn, hlater n _ (getElem?_record hn st),
        History.stream_andThen, callsOn_cons n st later, answers_append]

theorem script_append (streams : List TokenStream) (before later : List Step) :
    script streams (before ++ later) = (do
      let (os, streams') ← script streams before
      let (os', streams'') ← script streams' later
      some (os ++ os', streams'')) := by
  induction before generalizing streams with
  | nil =>
    show _ = (script streams later).bind some
    rw [Option.bind_fun_some]
    rfl
  | cons st before ih =>
    simp only [List.cons_append, script, ih, Option.bind_eq_bind, Option.bind_assoc,
      Option.bind_some]

/-- What is not asked is not answered. -/
theorem answersOn_eq_nil {steps : List Step} (h : callsOn n steps = []) (os : List Outcome) :
    answersOn n steps os = [] := by
  unfold answersOn callsOn at *
  rw [List.filterMap_eq_nil_iff] at h ⊢
  rintro ⟨st, o⟩ hmem
  have hst := h st (List.of_mem_zip hmem).1
  cases st with
  | fresh source => rfl
  | copy on => rfl
  | call on c =>
    have hne : on ≠ n := by simpa using hst
    cases o with
    | made number => rfl
    | answered a => exact if_neg hne

theorem histories_append (before later : List Step) :
    histories (before ++ later) = later.foldl record (histories before) := List.foldl_append

theorem addressed_iff {before later : List Step} :
    Addressed 0 (before ++ later) ↔
      Addressed 0 before ∧ Addressed (histories before).length later :=
  addressed_append []

/-- A script from its beginning on. -/
theorem script_of_addressed {steps : List Step} (h : Addressed 0 steps) :
    ∃ os, script [] steps = some (os, (histories steps).map History.stream) ∧
      os.length = steps.length := by
  obtain ⟨os, hscript, hlength, -⟩ := script_of_histories [] h
  exact ⟨os, hscript, hlength⟩

/-- A script taken apart at one of its steps. -/
theorem exists_split {before later : List Step} {st : Step}
    (h : Addressed 0 (before ++ st :: later)) :
    ∃ os o os', script [] (before ++ st :: later) =
        some (os ++ o :: os', (histories (before ++ st :: later)).map History.stream) ∧
      os.length = before.length ∧
      ((∀ on c, st ≠ .call on c) → o = .made (histories before).length) ∧
      ∀ (n : Nat) (h : History), (record (histories before) st)[n]? = some h →
        answersOn n later os' = (h.stream.answers (callsOn n later)).1 := by
  obtain ⟨hbefore, hrest⟩ := addressed_iff.1 h
  obtain ⟨os, hscript, hlength⟩ := script_of_addressed hbefore
  obtain ⟨o, hstep, hmade, -⟩ := step_of_histories hrest
  obtain ⟨os', hscript', -, hanswers⟩ := script_of_histories _ (addressed_cons.1 hrest).2
  refine ⟨os, o, os', ?_, hlength, hmade, hanswers⟩
  rw [script_append, hscript, histories_append, List.foldl_cons]
  show (script _ (st :: later)).bind _ = _
  rw [script_cons_of hstep hscript']
  rfl

/-! ### Independence -/

/-- Stream `n` of a script that came to these outcomes and streams has begun with the history
    `origin`, and only the calls on it are behind that. All these calls, one after the other on a
    stream by itself, lead to where it is, and their answers are those of `origin` and then those
    that the script has given. -/
structure Alone (steps : List Step) (os : List Outcome) (streams : List TokenStream) (n : Nat)
    (origin : History) : Prop where
  history : (histories steps)[n]? = some (origin.andThen (callsOn n steps))
  answers : (origin.andThen (callsOn n steps)).answers = origin.answers ++ answersOn n steps os
  stream : streams[n]? = some (origin.andThen (callsOn n steps)).stream

/-- A stream that is made on the way is alone from then on. -/
theorem alone_of_record {before later : List Step} {st : Step} {os : List Outcome}
    {streams : List TokenStream} {origin : History} (h : Addressed 0 (before ++ st :: later))
    (hrun : script [] (before ++ st :: later) = some (os, streams))
    (hst : ∀ on c, st ≠ .call on c)
    (horigin : (record (histories before) st)[(histories before).length]? = some origin) :
    os[before.length]? = some (.made (histories before).length) ∧
      Alone (before ++ st :: later) os streams (histories before).length origin := by
  obtain ⟨os₁, o, os₂, hscript, hlength, hmade, hlater⟩ := exists_split h
  obtain ⟨rfl, rfl⟩ := Prod.mk.inj (Option.some.inj (hrun.symm.trans hscript))
  obtain rfl := hmade hst
  generalize hn : (histories before).length = n at *
  -- up to this step, nothing was asked of the stream and nothing answered
  have hbefore : callsOn n before = [] :=
    callsOn_eq_nil [] (addressed_iff.1 h).1 (Nat.le_of_eq hn)
  have hstep : callsOn n [st] = [] := by
    cases st with
    | fresh source => rfl
    | copy on => rfl
    | call on c => exact absurd rfl (hst on c)
  have hcalls : callsOn n (before ++ st :: later) = callsOn n later := by
    rw [callsOn_append, callsOn_cons, hbefore, hstep, List.nil_append, List.nil_append]
  have hanswers : answersOn n (before ++ st :: later) (os₁ ++ .made n :: os₂) =
      answersOn n later os₂ := by
    rw [answersOn_append n hlength, answersOn_cons, answersOn_eq_nil hbefore,
      answersOn_eq_nil hstep, List.nil_append, List.nil_append]
  have hhistory : (histories (before ++ st :: later))[n]? =
      some (origin.andThen (callsOn n later)) := by
    rw [histories_append, List.foldl_cons]
    exact getElem?_foldl_record horigin later
  refine ⟨?_, ?_, ?_, ?_⟩
  · rw [List.getElem?_append_right (Nat.le_of_eq hlength), hlength, Nat.sub_self]
    rfl
  · rw [hcalls, hhistory]
  · rw [hcalls, hanswers, hlater n origin horigin, History.answers_andThen]
  · rw [hcalls, List.getElem?_map, hhistory]
    rfl

/-- Every stream comes to be at a step, which is not a call. -/
theorem exists_step_of_lt (hs : List History) {steps : List Step} (hle : hs.length ≤ n)
    (hlt : n < (steps.foldl record hs).length) :
    ∃ before st later, steps = before ++ st :: later ∧
      (before.foldl record hs).length = n ∧ ∀ on c, st ≠ .call on c := by
  induction steps generalizing hs with
  | nil => exact absurd hlt (Nat.not_lt.2 hle)
  | cons st later ih =>
    by_cases hfirst : n = hs.length ∧ ∀ on c, st ≠ .call on c
    · exact ⟨[], st, later, rfl, hfirst.1.symm, hfirst.2⟩
    · have hrecord : (record hs st).length ≤ n := by
        cases st with
        | fresh source =>
          have hne : n ≠ hs.length := fun heq => hfirst ⟨heq, by simp⟩
          rw [record, List.length_append, List.length_singleton]
          omega
        | copy on =>
          have hne : n ≠ hs.length := fun heq => hfirst ⟨heq, by simp⟩
          have hone : hs[on]?.toList.length ≤ 1 := by cases hs[on]? <;> simp
          rw [record, List.length_append]
          omega
        | call on c =>
          rw [record, List.length_modify]
          exact hle
      obtain ⟨before, st', later', rfl, hn, hst'⟩ := ih _ hrecord hlt
      exact ⟨st :: before, st', later', rfl, hn, hst'⟩

/-- What a script has come to. -/
structure Independent (steps : List Step) (os : List Outcome) (streams : List TokenStream) :
    Prop where
  /-- Each step has one outcome. -/
  length_eq : os.length = steps.length
  /-- A stream that is made from a source has the next number, and is alone from the start. -/
  fresh : ∀ before source later, steps = before ++ .fresh source :: later →
    os[before.length]? = some (.made (histories before).length) ∧
      Alone steps os streams (histories before).length ⟨source, []⟩
  /-- So has a copy, and it goes on alone from where the other stream was at that moment. -/
  copy : ∀ before on later, steps = before ++ .copy on :: later →
    os[before.length]? = some (.made (histories before).length) ∧
      ∃ h os' streams', (histories before)[on]? = some h ∧
        script [] before = some (os', streams') ∧ streams'[on]? = some h.stream ∧
        Alone steps os streams (histories before).length h
  /-- There are no other streams. -/
  all : ∀ n < streams.length, ∃ before st later, steps = before ++ st :: later ∧
    (histories before).length = n ∧ ∀ on c, st ≠ .call on c

/-- In whatever order a script makes, copies and calls its streams, what comes of the calls on one
    of them is what the same calls come to on a stream by itself. -/
theorem streams_are_independent (steps : List Step) (h : Addressed 0 steps) :
    ∃ os streams, script [] steps = some (os, streams) ∧ Independent steps os streams := by
  obtain ⟨os, hscript, hlength⟩ := script_of_addressed h
  refine ⟨os, _, hscript, hlength, ?_, ?_, ?_⟩
  · rintro before source later rfl
    exact alone_of_record h hscript (by simp) (getElem?_record_fresh _ source)
  · rintro before on later rfl
    obtain ⟨hbefore, hlt, -⟩ := addressed_iff.1 h
    obtain ⟨os', hscript', -⟩ := script_of_addressed hbefore
    have hon : (histories before)[on]? = some (histories before)[on] :=
      List.getElem?_eq_getElem hlt
    obtain ⟨hmade, halone⟩ := alone_of_record h hscript (by simp) (getElem?_record_copy hon)
    refine ⟨hmade, _, os', _, hon, hscript', ?_, halone⟩
    rw [List.getElem?_map, hon]
    rfl
  · intro n hn
    rw [List.length_map] at hn
    exact exists_step_of_lt [] (Nat.zero_le n) hn

/-- A copy of a copy is read from where the first stream was when it was copied, although that one
    has been read on, and the one in between has come to its end. -/
theorem streams_are_independent_two_copies :
    Addressed 0 [.fresh "a==b", .call 0 .read, .copy 0, .call 0 .pull, .copy 1, .call 1 .drain,
      .call 2 .read] ∧
    ∃ os streams, script [] [.fresh "a==b", .call 0 .read, .copy 0, .call 0 .pull, .copy 1,
        .call 1 .drain, .call 2 .read] = some (os, streams) ∧
      answersOn 2 [.fresh "a==b", .call 0 .read, .copy 0, .call 0 .pull, .copy 1, .call 1 .drain,
        .call 2 .read] os = [.reading (.lexeme ⟨⟨.operator .equal, "=="⟩, 1⟩)] := by
  refine ⟨by decide, ?_⟩
  obtain ⟨os, streams, hscript, hindependent⟩ := streams_are_independent [.fresh "a==b",
    .call 0 .read, .copy 0, .call 0 .pull, .copy 1, .call 1 .drain, .call 2 .read] (by decide)
  obtain ⟨-, h, -, -, hon, -, -, halone⟩ := hindependent.copy
    [.fresh "a==b", .call 0 .read, .copy 0, .call 0 .pull] 1 [.call 1 .drain, .call 2 .read] rfl
  obtain rfl : ⟨"a==b", [.read]⟩ = h := Option.some.inj hon
  have hall : (History.andThen ⟨"a==b", [.read]⟩ [.read]).answers =
      History.answers ⟨"a==b", [.read]⟩ ++
        [.reading (.lexeme ⟨⟨.operator .equal, "=="⟩, 1⟩)] := by decide +kernel
  exact ⟨os, streams, hscript, List.append_cancel_left (halone.answers.symm.trans hall)⟩

end Monkey.TokenStream
