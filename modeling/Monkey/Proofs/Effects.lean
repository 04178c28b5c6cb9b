import Monkey.Listing

/-
  Actions as lists of effects. `Effect.perform` does what such a list says, and an action that is
  written with binds is proved equal to it once (`writeAll_eq`, `list_eq`). `Effect.account` adds
  up what a list comes to, up to the first failure in it, and on a console where every write and
  every flush succeeds that is what happens (`perform_eq`). `Action.outcome` is what a caller sees
  of it: how the action ended and what it had written by then.
-/

namespace Monkey

namespace Action

theorem andThen_of_ok {β : Type} {f : Action Unit} {g : Action β} {c d : Console}
    (h : f c = .ok () d) : (do f; g) c = g d := by
  show EStateM.bind f (fun _ => g) c = _
  simp only [EStateM.bind, h]

theorem andThen_of_error {β : Type} {f : Action Unit} {g : Action β} {c d : Console} {e : Failure}
    (h : f c = .error e d) : (do f; g) c = .error e d := by
  show EStateM.bind f (fun _ => g) c = _
  simp only [EStateM.bind, h]

end Action

/-- One thing that is done on a console. -/
inductive Effect where
  | write (bytes : Bytes)
  | flush
  | report (events : List Log.Event)
  | fail (e : Failure)

/-- What effects come to: the bytes, the flushes and the events, and the failure that ended
    them. -/
structure Account where
  written : Bytes
  flushes : Nat
  events : List Log.Event
  failure? : Option Failure

namespace Account

/-- Nothing was done. -/
def empty : Account := ⟨[], 0, [], none⟩

/-- This and then that, which a failure prevents. -/
def andThen (a b : Account) : Account :=
  match a.failure? with
  | none => ⟨a.written ++ b.written, a.flushes + b.flushes, a.events ++ b.events, b.failure?⟩
  | some _ => a

/-- The console when all this has been done on it. -/
def on (a : Account) (c : Console) : Console :=
  { c with
    sink := { c.sink with kept := c.sink.kept ++ a.written.toArray }
    flushes := c.flushes + a.flushes
    events := c.events ++ a.events.toArray }

def ending (a : Account) : Except Failure Unit :=
  match a.failure? with
  | none => .ok ()
  | some e => .error e

/-- What an action gives of which this is all. -/
def result (a : Account) (c : Console) : EStateM.Result Failure Console Unit :=
  match a.failure? with
  | none => .ok () (a.on c)
  | some e => .error e (a.on c)

theorem empty_andThen (a : Account) : empty.andThen a = a := by
  simp [andThen, empty]

theorem empty_on (c : Console) : empty.on c = c := by
  simp [on, empty]

theorem andThen_assoc (a b c : Account) : (a.andThen b).andThen c = a.andThen (b.andThen c) := by
  rcases ha : a.failure? with _ | e
  · rcases hb : b.failure? with _ | e
    · simp [andThen, ha, hb, Nat.add_assoc]
    · simp [andThen, ha, hb]
  · simp [andThen, ha]

theorem andThen_on {a : Account} (ha : a.failure? = none) (b : Account) (c : Console) :
    (a.andThen b).on c = b.on (a.on c) := by
  simp [andThen, ha, on, Nat.add_assoc, List.append_toArray]

/-- An account holds of an action and of what is done behind it. -/
theorem bind_result {f g : Action Unit} {a b : Account} {c : Console} (hf : f c = a.result c)
    (hg : g (a.on c) = b.result (a.on c)) : (do f; g) c = (a.andThen b).result c := by
  rcases ha : a.failure? with _ | e
  · have hboth : (a.andThen b).failure? = b.failure? := by simp [andThen, ha]
    simp only [result, ha] at hf
    rw [Action.andThen_of_ok hf, hg]
    simp only [result, hboth, andThen_on ha]
  · simp only [result, ha] at hf
    rw [Action.andThen_of_error hf]
    simp only [result, andThen, ha]

end Account

namespace Effect

def act : Effect → Action Unit
  | write bytes => Action.write bytes
  | flush => Action.flush
  | report events => Action.report events
  | fail e => throw e

/-- Does one effect after the other, until one fails. -/
def perform : List Effect → Action Unit
  | [] => pure ()
  | e :: later => do
    e.act
    perform later

theorem perform_singleton (e : Effect) : perform [e] = e.act := bind_pure_unit

theorem perform_append (es fs : List Effect) :
    perform (es ++ fs) = (do perform es; perform fs) := by
  induction es with
  | nil => simp [perform]
  | cons e es ih => simp [perform, ih]

/-- What one effect comes to where nothing goes wrong with it. -/
def tally : Effect → Account
  | write bytes => { Account.empty with written := bytes }
  | flush => { Account.empty with flushes := 1 }
  | report events => { Account.empty with events := events }
  | fail e => { Account.empty with failure? := some e }

def account : List Effect → Account
  | [] => .empty
  | e :: later => e.tally.andThen (account later)

theorem account_append (es fs : List Effect) :
    account (es ++ fs) = (account es).andThen (account fs) := by
  induction es with
  | nil => exact (Account.empty_andThen _).symm
  | cons e es ih => rw [List.cons_append, account, account, ih, Account.andThen_assoc]

theorem account_writes {α : Type} (f : α → Bytes) (xs : List α) :
    account (xs.map fun x => .write (f x)) = { Account.empty with written := xs.flatMap f } := by
  induction xs with
  | nil => rfl
  | cons x xs ih => rw [List.map_cons, account, ih]; rfl

variable {c : Console}

theorem act_eq (hlimit : c.sink.limit = none) (hflush : c.failingFlush = none) (e : Effect) :
    e.act c = e.tally.result c := by
  cases e with
  | write bytes =>
    simp [act, Action.write, Sink.write, hlimit, tally, Account.result, Account.on, Account.empty]
  | flush => simp [act, Action.flush, hflush, tally, Account.result, Account.on, Account.empty]
  | report events => simp [act, Action.report, tally, Account.result, Account.on, Account.empty]
  | fail e =>
    show EStateM.Result.error e c = .error e (Account.on _ c)
    simp [tally, Account.on, Account.empty]

/-- On a console that takes everything, effects come to their account. -/
theorem perform_eq (hlimit : c.sink.limit = none) (hflush : c.failingFlush = none)
    (es : List Effect) : perform es c = (account es).result c := by
  induction es generalizing c with
  | nil =>
    show EStateM.Result.ok () c = .ok () (Account.empty.on c)
    rw [Account.empty_on]
  | cons e es ih =>
    exact Account.bind_result (act_eq hlimit hflush e) (ih hlimit hflush)

end Effect

namespace Action

/-- How an action ends on a fresh console that takes everything, and what it has written then. -/
def outcome {α : Type} (act : Action α) : Except Failure α × Bytes :=
  match act.run (Console.fresh none none) with
  | .ok a c => (.ok a, c.sink.kept.toList)
  | .error e c => (.error e, c.sink.kept.toList)

theorem outcome_return {α : Type} (es : List Effect) (a : α) :
    outcome (do Effect.perform es; return a) =
      ((Effect.account es).ending.map fun _ => a, (Effect.account es).written) := by
  have h := Effect.perform_eq (c := Console.fresh none none) rfl rfl es
  simp only [outcome, EStateM.run, bind, EStateM.bind, h]
  unfold Account.result Account.ending
  rcases (Effect.account es).failure? with _ | e
  · simp [Account.on, Console.fresh, pure, EStateM.pure, Except.map]
  · simp [Account.on, Console.fresh, Except.map]

theorem outcome_perform (es : List Effect) :
    (Effect.perform es).outcome = ((Effect.account es).ending, (Effect.account es).written) := by
  have h := outcome_return es ()
  rw [bind_pure_unit] at h
  rw [h]
  rcases (Effect.account es).ending with e | u
  · rfl
  · rfl

theorem writeAll_eq (pieces : List Bytes) :
    writeAll pieces = Effect.perform (pieces.map .write) := by
  induction pieces with
  | nil => rfl
  | cons piece pieces ih => rw [writeAll, ih]; rfl

theorem list_eq (ts : List Token) :
    list ts = do
      Effect.perform ((listed ts).map fun t => .write t.line)
      return (listed ts).length := by
  rw [list_eq_writeAll, writeAll_eq, List.map_map]
  rfl

/-- Listing tokens writes their listing and counts its lines. -/
theorem outcome_list (ts : List Token) :
    (list ts).outcome = (.ok (listed ts).length, listing ts) := by
  rw [list_eq, outcome_return, Effect.account_writes]
  rfl

end Action

end Monkey
