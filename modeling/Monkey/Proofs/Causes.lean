import Mathlib.Logic.Relation
import Monkey.Failure

/-
  What a failure tells, by its layers. Following the causes comes to an end, and the way has one
  entry for each layer that has a cause of its own, whatever lies between them
  (`Failure.causes_eq`). The message is that of the first layer with words of its own, or that of
  the innermost failure of input or output (`Failure.some_message_eq`). So layers that are nothing
  but input or output can be put in and taken out without a trace (`Failure.told_eq_of_eqvGen`).
  The main statement is `failures_tell_their_layers`.
-/

namespace Monkey

/-! ### Causes -/

namespace IoFailure

/-- What comes behind a failure with this cause. -/
def chainOf : Option IoFailure → List IoFailure
  | some c => c.chain
  | none => []

theorem chain_eq (c : IoFailure) : c.chain = c :: chainOf c.cause? := by
  rw [chain]
  split
  · next d hd => rw [hd, chainOf]
  · next hd => rw [hd, chainOf]

theorem chainOf_head (c : Option IoFailure) : (chainOf c)[0]? = c := by
  cases c with
  | none => rfl
  | some c => rw [chainOf, chain_eq, List.getElem?_cons_zero]

/-- Each entry is the cause of the one before it, and the last one has none. -/
theorem chainOf_next (c : Option IoFailure) (i : Nat) :
    (chainOf c)[i + 1]? = (chainOf c)[i]?.bind cause? := by
  induction i generalizing c with
  | zero =>
    cases c with
    | none => rfl
    | some c =>
      rw [chainOf, chain_eq, List.getElem?_cons_succ, List.getElem?_cons_zero, chainOf_head,
        Option.bind_some]
  | succ i ih =>
    cases c with
    | none => rfl
    | some c => rw [chainOf, chain_eq, List.getElem?_cons_succ, List.getElem?_cons_succ, ih]

end IoFailure

namespace Failure

theorem causes_eq_chainOf (f : Failure) : f.causes = IoFailure.chainOf f.cause? := by
  rw [causes]
  split
  · next c hc => rw [hc, IoFailure.chainOf]
  · next hc => rw [hc, IoFailure.chainOf]

theorem causes_unreadableSource (path : Bytes) (cause : IoFailure) :
    (unreadableSource path cause).causes = cause :: IoFailure.chainOf cause.cause? := by
  rw [causes_eq_chainOf, ← IoFailure.chain_eq]
  rfl

end Failure

mutual

/-- The causes of a failure are those that its layers add, the outermost first. -/
theorem Failure.causes_eq : ∀ f : Failure, f.causes = f.layers.filterMap Failure.ownCause?
  | .unreadableSource path cause => by
    rw [Failure.causes_unreadableSource, IoFailure.chainOf_eq cause]
    rfl
  | .io cause => by
    rw [Failure.causes_eq_chainOf]
    exact IoFailure.chainOf_eq cause
  | .illegalCharacters _ _ => rfl

theorem IoFailure.chainOf_eq : ∀ c : IoFailure,
    IoFailure.chainOf c.cause? = c.layers.filterMap Failure.ownCause?
  | .bare _ => rfl
  | .described _ _ => rfl
  | .wrapping _ inner => by
    rw [IoFailure.cause?, ← Failure.causes_eq_chainOf]
    exact Failure.causes_eq inner

end

/-! ### Messages -/

/-- Nothing but a failure of input or output. -/
def Failure.isIo : Failure → Bool
  | unreadableSource _ _ => false
  | io _ => true
  | illegalCharacters _ _ => false

mutual

/-- The innermost failure of input or output, which holds no further failure. -/
def Failure.innermost? : Failure → Option IoFailure
  | .unreadableSource _ cause => cause.innermost?
  | .io cause => cause.innermost?
  | .illegalCharacters _ _ => none

def IoFailure.innermost? : IoFailure → Option IoFailure
  | .bare kind => some (.bare kind)
  | .described kind text => some (.described kind text)
  | .wrapping _ inner => inner.innermost?

end

mutual

/-- The first layer with words of its own speaks, or else the innermost failure. -/
theorem Failure.some_message_eq : ∀ f : Failure,
    some f.message = ((f.layers.find? fun l => !l.isIo).map Failure.message).or
      (f.innermost?.map IoFailure.message)
  | .unreadableSource _ _ => rfl
  | .io cause => cause.some_message_eq
  | .illegalCharacters _ _ => rfl

theorem IoFailure.some_message_eq : ∀ c : IoFailure,
    some c.message = ((c.layers.find? fun l => !l.isIo).map Failure.message).or
      (c.innermost?.map IoFailure.message)
  | .bare _ => rfl
  | .described _ _ => rfl
  | .wrapping _ inner => inner.some_message_eq

end

namespace Failure

theorem message_of_first {f l : Failure} {before after : List Failure}
    (hlayers : f.layers = before ++ l :: after) (hbefore : ∀ k ∈ before, k.isIo = true)
    (hl : l.isIo = false) : f.message = l.message := by
  have hfind : (f.layers.find? fun l => !l.isIo) = some l := by
    rw [hlayers, List.find?_append, List.find?_cons_of_pos (by simp [hl]),
      List.find?_eq_none.2 (fun k hk => by simp [hbefore k hk])]
    rfl
  have hmessage := f.some_message_eq
  rw [hfind] at hmessage
  exact Option.some.inj hmessage

theorem message_of_all_isIo {f : Failure} (hall : ∀ l ∈ f.layers, l.isIo = true) :
    f.innermost?.map IoFailure.message = some f.message := by
  have hmessage := f.some_message_eq
  rw [List.find?_eq_none.2 (fun l hl => by simp [hall l hl])] at hmessage
  exact hmessage.symm

/-! ### Layers that leave no trace -/

/-- The second failure has one layer of input or output more than the first one: on top, right
    behind a source that could not be read, or further inside. -/
inductive AddsIo : Failure → Failure → Prop
  | onTop (kind : IoKind) (f : Failure) : AddsIo f (.io (.wrapping kind f))
  | behindSource (path : Bytes) (kind : IoKind) (cause : IoFailure) :
    AddsIo (.unreadableSource path cause) (.unreadableSource path (.wrapping kind (.io cause)))
  | insideSource (path : Bytes) (kind : IoKind) {f g : Failure} : AddsIo f g →
    AddsIo (.unreadableSource path (.wrapping kind f)) (.unreadableSource path (.wrapping kind g))
  | insideIo (kind : IoKind) {f g : Failure} : AddsIo f g →
    AddsIo (.io (.wrapping kind f)) (.io (.wrapping kind g))

/-- What a failure tells: its message, and the messages of its causes. -/
def told (f : Failure) : String × List String := (f.message, f.causes.map IoFailure.message)

theorem told_unreadableSource (path : Bytes) (cause : IoFailure) :
    (unreadableSource path cause).told =
      ("failed to read source file " ++ Quoted.ofBytes path,
        (io cause).told.1 :: (io cause).told.2) := by
  rw [told, causes_unreadableSource, told, (io cause).causes_eq_chainOf]
  rfl

theorem told_io_wrapping (kind : IoKind) (f : Failure) : (io (.wrapping kind f)).told = f.told :=
  rfl

theorem AddsIo.told_eq {f g : Failure} (h : AddsIo f g) : f.told = g.told := by
  induction h with
  | onTop kind f => rfl
  | behindSource path kind cause =>
    rw [told_unreadableSource, told_unreadableSource]
    rfl
  | insideSource path kind h ih =>
    rw [told_unreadableSource, told_unreadableSource, told_io_wrapping, told_io_wrapping, ih]
  | insideIo kind h ih => exact ih

theorem told_eq_of_eqvGen {f g : Failure} (h : Relation.EqvGen AddsIo f g) : f.told = g.told := by
  induction h with
  | rel f g hadds => exact hadds.told_eq
  | refl f => rfl
  | symm f g h ih => exact ih.symm
  | trans f g k hfg hgk ihfg ihgk => exact ihfg.trans ihgk

/-- What a failure tells, by its layers. -/
structure TellsLayers (f : Failure) : Prop where
  /-- The causes are those that come of asking each for what lies behind it, up to one that has
      nothing behind it. -/
  first : f.causes[0]? = f.cause?
  next : ∀ i, f.causes[i + 1]? = f.causes[i]?.bind IoFailure.cause?
  /-- There is one for each source that could not be read, in the order of the layers. -/
  each : f.causes = f.layers.filterMap Failure.ownCause?
  /-- The first layer that is more than a failure of input or output gives the message. -/
  message : ∀ before l after, f.layers = before ++ l :: after → (∀ k ∈ before, k.isIo = true) →
    l.isIo = false → f.message = l.message
  /-- If there is none, the innermost failure of input or output does. -/
  message_innermost : (∀ l ∈ f.layers, l.isIo = true) →
    ∃ c, f.innermost? = some c ∧ f.message = c.message
  /-- Layers of input and output may be added and removed, as many as one likes and anywhere. -/
  traceless : ∀ g, Relation.EqvGen AddsIo f g →
    g.message = f.message ∧ g.causes.map IoFailure.message = f.causes.map IoFailure.message

/-- However failures are nested, the message and the causes of the whole can be told from its
    layers. -/
theorem failures_tell_their_layers (f : Failure) : TellsLayers f where
  first := by
    rw [causes_eq_chainOf, IoFailure.chainOf_head]
  next := by
    intro i
    rw [causes_eq_chainOf, IoFailure.chainOf_next]
  each := f.causes_eq
  message := by
    intro before l after hlayers hbefore hl
    exact message_of_first hlayers hbefore hl
  message_innermost := by
    intro hall
    obtain ⟨c, hc, hmessage⟩ := Option.map_eq_some_iff.1 (message_of_all_isIo hall)
    exact ⟨c, hc, hmessage.symm⟩
  traceless := by
    intro g hg
    exact Prod.mk.inj (told_eq_of_eqvGen hg).symm

end Failure

end Monkey
