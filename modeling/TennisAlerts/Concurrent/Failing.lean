import TennisAlerts.Concurrent.RelyGuarantee

/-!
# Programs that may fail

A program whose result is a value or a failure, with the rules for its two ends: one
assertion for the value and one for the failure.
-/

namespace TennisAlerts.Concurrent

/-- A program that returns a value or fails. -/
abbrev Failing (σ ι l ε α : Type) := ExceptT ε (Program σ ι l) α

namespace Failing

variable {σ ι l ε α : Type}

/-- One atomic action with its result; it is blocked where `effect` is undefined. -/
def action [Inhabited ε] (label : l) (effect : σ → ι → Option (σ × Except ε α)) :
    Failing σ ι l ε α :=
  ExceptT.mk (.act label (fun state input => (effect state input).map (·.1)) fun state input =>
    .ret (((effect state input).map (·.2)).getD (.error default)))

/-- A computation without actions. -/
def ofExcept (result : Except ε α) : Failing σ ι l ε α :=
  ExceptT.mk (.ret result)

/-- The program that runs to its end, whatever it returns. -/
def ended (program : Failing σ ι l ε α) : Program σ ι l Unit :=
  program.run >>= fun _ => .ret ()

end Failing

namespace Protocol

variable {σ ι l A ε α β : Type}

/-- The assertion on a result. -/
def Ends (post : α → σ → Prop) (failed : ε → σ → Prop) : Except ε α → σ → Prop
  | .ok value => post value
  | .error failure => failed failure

/-- The triple of a program that may fail. -/
def Holds (protocol : Protocol σ A) (allowed : A → l → σ → ι → Prop) (actor : A)
    (pre : σ → Prop) (program : Failing σ ι l ε α) (post : α → σ → Prop)
    (failed : ε → σ → Prop) : Prop :=
  protocol.Valid allowed actor pre program.run (Ends post failed)

variable {protocol : Protocol σ A} {allowed : A → l → σ → ι → Prop} {actor : A}
  {pre : σ → Prop} {post : α → σ → Prop} {failed : ε → σ → Prop}

theorem holds_pure {value : α}
    (implied : ∀ state, protocol.invariant state → pre state → post value state) :
    protocol.Holds allowed actor pre (pure value : Failing σ ι l ε α) post failed :=
  valid_ret implied

theorem holds_throw {failure : ε}
    (implied : ∀ state, protocol.invariant state → pre state → failed failure state) :
    protocol.Holds allowed actor pre (throw failure : Failing σ ι l ε α) post failed :=
  valid_ret implied

theorem holds_ofExcept {result : Except ε α}
    (implied : ∀ state, protocol.invariant state → pre state → Ends post failed result state) :
    protocol.Holds allowed actor pre (Failing.ofExcept result : Failing σ ι l ε α) post failed :=
  valid_ret implied

/-- The rule for one atomic action under a stable assertion. -/
theorem holds_action [Inhabited ε] {label : l} {effect : σ → ι → Option (σ × Except ε α)}
    (stable : protocol.Stable actor pre)
    (step : ∀ before input after result, protocol.invariant before → pre before →
      allowed actor label before input → effect before input = some (after, result) →
      protocol.invariant after ∧ protocol.Guarantees actor before after ∧
        Ends post failed result after) :
    protocol.Holds allowed actor pre (Failing.action label effect) post failed := by
  refine valid_act (fun before input after =>
    Ends post failed (((effect before input).map (·.2)).getD (.error default)) after) stable ?_
    fun _ _ => valid_ret fun _ _ ends => ends
  intro before input after invariant holds permitted acted
  obtain ⟨⟨_, result⟩, reached, rfl⟩ := Option.map_eq_some_iff.mp acted
  rw [reached]
  exact step before input _ result invariant holds permitted reached

theorem Holds.bind {program : Failing σ ι l ε α} {rest : α → Failing σ ι l ε β}
    {post' : β → σ → Prop} (first : protocol.Holds allowed actor pre program post failed)
    (continues : ∀ value, protocol.Holds allowed actor (post value) (rest value) post' failed) :
    protocol.Holds allowed actor pre (program >>= rest) post' failed := by
  refine Valid.bind (Ends post failed) first ?_
  intro result
  cases result with
  | ok value => exact continues value
  | error failure => exact valid_ret fun _ _ held => held

theorem Holds.tryCatch {program : Failing σ ι l ε α} {handler : ε → Failing σ ι l ε α}
    {failed' : ε → σ → Prop} (first : protocol.Holds allowed actor pre program post failed)
    (handles : ∀ failure,
      protocol.Holds allowed actor (failed failure) (handler failure) post failed') :
    protocol.Holds allowed actor pre (tryCatch program handler) post failed' := by
  refine Valid.bind (Ends post failed) first ?_
  intro result
  cases result with
  | ok value => exact valid_ret fun _ _ held => held
  | error failure => exact handles failure

theorem Holds.mono {pre' : σ → Prop} {post' : α → σ → Prop} {failed' : ε → σ → Prop}
    {program : Failing σ ι l ε α} (holds : protocol.Holds allowed actor pre program post failed)
    (stronger : ∀ state, protocol.invariant state → pre' state → pre state)
    (weaker : ∀ value state, protocol.invariant state → post value state → post' value state)
    (weaker' : ∀ failure state, protocol.invariant state → failed failure state →
      failed' failure state) :
    protocol.Holds allowed actor pre' program post' failed' := by
  refine Valid.mono holds stronger ?_
  intro result state invariant ends
  cases result with
  | ok value => exact weaker value state invariant ends
  | error failure => exact weaker' failure state invariant ends

/-- A program that starts in a fact about values may use it. -/
theorem Holds.of_fact {fact : Prop} {program : Failing σ ι l ε α}
    (holds : fact → protocol.Holds allowed actor pre program post failed) :
    protocol.Holds allowed actor (fun state => pre state ∧ fact) program post failed :=
  valid_of_fact holds

theorem Holds.ended {program : Failing σ ι l ε α} {last : σ → Prop}
    (holds : protocol.Holds allowed actor pre program (fun _ => last) fun _ => last) :
    protocol.Valid allowed actor pre program.ended fun _ => last := by
  refine Valid.bind (Ends (fun _ => last) fun _ => last) holds ?_
  intro result
  cases result with
  | ok value => exact valid_ret fun _ _ held => held
  | error failure => exact valid_ret fun _ _ held => held

end Protocol

end TennisAlerts.Concurrent
