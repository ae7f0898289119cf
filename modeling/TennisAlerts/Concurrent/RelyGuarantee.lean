import TennisAlerts.Concurrent.Program
import Mathlib.Logic.Nontrivial.Basic

/-!
# Rely-guarantee reasoning for interleaved programs

A protocol fixes one invariant of the shared state and, for every actor, the
changes the other actors may make between two of its actions.  A program is
valid when each of its actions keeps the invariant, makes only changes that the
other actors rely on, and leaves an assertion that those actors cannot break.

The soundness theorem turns the validity of every operation of a system into
an invariant of all its reachable configurations; no argument about
interleavings is repeated afterwards.
-/

namespace TennisAlerts.Concurrent

/-- The shared invariant, what each actor relies on, and the assertion that
holds of an actor between two operations. -/
structure Protocol (σ A : Type) where
  invariant : σ → Prop
  rely : A → σ → σ → Prop
  resting : A → σ → Prop

namespace Protocol

variable {σ ι l A : Type} {α β : Type}

/-- An assertion that survives every change of the other actors. -/
def Stable (protocol : Protocol σ A) (actor : A) (assertion : σ → Prop) : Prop :=
  ∀ ⦃before after : σ⦄, protocol.invariant before → protocol.invariant after →
    protocol.rely actor before after → assertion before → assertion after

/-- A change that every other actor relies on. -/
def Guarantees (protocol : Protocol σ A) (actor : A) (before after : σ) : Prop :=
  ∀ ⦃other : A⦄, other ≠ actor → protocol.rely other before after

/-- Starting exactly in `state`, every action of the program keeps the protocol
and its result satisfies `post`. -/
def Safe (protocol : Protocol σ A) (allowed : A → l → σ → ι → Prop) (actor : A)
    (post : α → σ → Prop) : σ → Program σ ι l α → Prop
  | state, .ret value => post value state
  | state, .act label action next =>
      ∃ assertion : σ → Prop, assertion state ∧ protocol.Stable actor assertion ∧
        ∀ before input after, protocol.invariant before → assertion before →
          allowed actor label before input → action before input = some after →
          protocol.invariant after ∧ protocol.Guarantees actor before after ∧
            Safe protocol allowed actor post after (next before input)

/-- The triple of the logic: from any state satisfying the invariant and `pre`
the program is safe and ends in `post`. -/
def Valid (protocol : Protocol σ A) (allowed : A → l → σ → ι → Prop) (actor : A)
    (pre : σ → Prop) (program : Program σ ι l α) (post : α → σ → Prop) : Prop :=
  ∀ state, protocol.invariant state → pre state →
    protocol.Safe allowed actor post state program

variable {protocol : Protocol σ A} {allowed : A → l → σ → ι → Prop} {actor : A}

/-! ## Rules -/

theorem Stable.and {first second : σ → Prop} (left : protocol.Stable actor first)
    (right : protocol.Stable actor second) :
    protocol.Stable actor fun state => first state ∧ second state := by
  intro before after beforeInv afterInv relied holds
  exact ⟨left beforeInv afterInv relied holds.1, right beforeInv afterInv relied holds.2⟩

theorem valid_ret {pre : σ → Prop} {post : α → σ → Prop} {value : α}
    (implied : ∀ state, protocol.invariant state → pre state → post value state) :
    protocol.Valid allowed actor pre (.ret value : Program σ ι l α) post :=
  implied

/-- The rule for one atomic action under a stable assertion. -/
theorem valid_act {pre : σ → Prop} {post : α → σ → Prop} {label : l}
    {action : σ → ι → Option σ} {next : σ → ι → Program σ ι l α}
    (middle : σ → ι → σ → Prop)
    (stable : protocol.Stable actor pre)
    (step : ∀ before input after, protocol.invariant before → pre before →
      allowed actor label before input → action before input = some after →
      protocol.invariant after ∧ protocol.Guarantees actor before after ∧
        middle before input after)
    (rest : ∀ before input,
      protocol.Valid allowed actor (middle before input) (next before input) post) :
    protocol.Valid allowed actor pre (.act label action next) post := by
  intro state _ holds
  refine ⟨pre, holds, stable, ?_⟩
  intro before input after invariant assertion permitted acted
  obtain ⟨kept, guaranteed, reached⟩ :=
    step before input after invariant assertion permitted acted
  exact ⟨kept, guaranteed, rest before input after kept reached⟩

theorem Safe.bind {mid : α → σ → Prop} {post : β → σ → Prop}
    {rest : α → Program σ ι l β}
    (continues : ∀ value,
      protocol.Valid allowed actor (mid value) (rest value) post)
    {program : Program σ ι l α} :
    ∀ {state : σ}, protocol.invariant state →
      protocol.Safe allowed actor mid state program →
      protocol.Safe allowed actor post state (program >>= rest) := by
  induction program with
  | ret value =>
      intro state invariant safe
      exact continues value state invariant safe
  | act label action next ih =>
      rintro state _ ⟨assertion, holds, stable, step⟩
      refine ⟨assertion, holds, stable, ?_⟩
      intro before input after before_inv held permitted acted
      obtain ⟨kept, guaranteed, safe⟩ :=
        step before input after before_inv held permitted acted
      exact ⟨kept, guaranteed, ih before input kept safe⟩

/-- Sequential composition through an intermediate assertion. -/
theorem Valid.bind {pre : σ → Prop} {post : β → σ → Prop}
    {program : Program σ ι l α} {rest : α → Program σ ι l β}
    (mid : α → σ → Prop)
    (first : protocol.Valid allowed actor pre program mid)
    (continues : ∀ value,
      protocol.Valid allowed actor (mid value) (rest value) post) :
    protocol.Valid allowed actor pre (program >>= rest) post := by
  intro state invariant holds
  exact Safe.bind continues invariant (first state invariant holds)

theorem Safe.mono {post post' : α → σ → Prop}
    (weaker : ∀ value state, protocol.invariant state → post value state →
      post' value state)
    {program : Program σ ι l α} :
    ∀ {state : σ}, protocol.invariant state →
      protocol.Safe allowed actor post state program →
      protocol.Safe allowed actor post' state program := by
  induction program with
  | ret value => exact fun invariant safe => weaker value _ invariant safe
  | act label action next ih =>
      rintro state _ ⟨assertion, holds, stable, step⟩
      refine ⟨assertion, holds, stable, ?_⟩
      intro before input after before_inv held permitted acted
      obtain ⟨kept, guaranteed, safe⟩ :=
        step before input after before_inv held permitted acted
      exact ⟨kept, guaranteed, ih before input kept safe⟩

/-- The rule of consequence. -/
theorem Valid.mono {pre pre' : σ → Prop} {post post' : α → σ → Prop}
    {program : Program σ ι l α}
    (valid : protocol.Valid allowed actor pre program post)
    (stronger : ∀ state, protocol.invariant state → pre' state → pre state)
    (weaker : ∀ value state, protocol.invariant state → post value state →
      post' value state) :
    protocol.Valid allowed actor pre' program post' := by
  intro state invariant holds
  exact Safe.mono weaker invariant
    (valid state invariant (stronger state invariant holds))

theorem Valid.strengthen {pre pre' : σ → Prop} {post : α → σ → Prop} {program : Program σ ι l α}
    (valid : protocol.Valid allowed actor pre program post)
    (stronger : ∀ state, protocol.invariant state → pre' state → pre state) :
    protocol.Valid allowed actor pre' program post :=
  valid.mono stronger fun _ _ _ holds => holds

/-- A fact about values alone moves out of the assertion. -/
theorem valid_of_fact {pre : σ → Prop} {fact : Prop} {post : α → σ → Prop}
    {program : Program σ ι l α}
    (valid : fact → protocol.Valid allowed actor pre program post) :
    protocol.Valid allowed actor (fun state => pre state ∧ fact) program post :=
  fun state invariant holds => valid holds.2 state invariant holds.1

/-- The action keeps the protocol and an assertion. -/
def Keeps (protocol : Protocol σ A) (allowed : A → l → σ → ι → Prop) (actor : A)
    (assertion : σ → Prop) (label : l) (action : σ → ι → Option σ) : Prop :=
  ∀ before input after, protocol.invariant before → assertion before →
    allowed actor label before input → action before input = some after →
    protocol.invariant after ∧ protocol.Guarantees actor before after ∧ assertion after

/-- A program made of actions that keep a stable assertion keeps it. -/
theorem valid_of_forall {assertion : σ → Prop} {program : Program σ ι l α}
    (stable : protocol.Stable actor assertion)
    (actions : program.Forall (protocol.Keeps allowed actor assertion)) :
    protocol.Valid allowed actor assertion program fun _ => assertion := by
  induction program with
  | ret value => exact valid_ret fun _ _ holds => holds
  | act label action next ih =>
      apply valid_act (fun _ _ => assertion) stable actions.1
      intro before input
      exact ih before input (actions.2 before input)

/-- A loop over a list keeps an assertion that its body keeps. -/
theorem valid_forM {γ : Type} {loop : σ → Prop} {body : γ → Program σ ι l PUnit}
    (items : List γ)
    (keeps : ∀ item ∈ items,
      protocol.Valid allowed actor loop (body item) fun _ => loop) :
    protocol.Valid allowed actor loop (items.forM body) fun _ => loop := by
  induction items with
  | nil => exact valid_ret fun _ _ holds => holds
  | cons item items ih =>
      change protocol.Valid allowed actor loop
        (body item >>= fun _ => items.forM body) _
      refine Valid.bind (fun _ => loop) (keeps item List.mem_cons_self) ?_
      intro _
      exact ih fun later member => keeps later (List.mem_cons_of_mem item member)

/-! ## Soundness -/

/-- Safety survives the changes an actor relies on. -/
theorem Safe.rely {program : Program σ ι l Unit} {before after : σ}
    (restingStable : protocol.Stable actor (protocol.resting actor))
    (beforeInv : protocol.invariant before) (afterInv : protocol.invariant after)
    (change : protocol.rely actor before after)
    (safe : protocol.Safe allowed actor (fun _ => protocol.resting actor)
      before program) :
    protocol.Safe allowed actor (fun _ => protocol.resting actor)
      after program := by
  cases program with
  | ret value => exact restingStable beforeInv afterInv change safe
  | act label action next =>
      obtain ⟨assertion, holds, stable, step⟩ := safe
      exact ⟨assertion, stable beforeInv afterInv change holds, stable, step⟩

/-- A protocol together with a system all of whose parts follow it. -/
structure Follows [DecidableEq A] (protocol : Protocol σ A)
    (system : System σ ι l A) (allowed : A → l → σ → ι → Prop) : Prop where
  restingStable : ∀ actor, protocol.Stable actor (protocol.resting actor)
  operations : ∀ actor program, system.operation actor program →
    protocol.Valid allowed actor (protocol.resting actor) program
      fun _ => protocol.resting actor
  crashes : ∀ actor shared, protocol.invariant shared →
    protocol.invariant (system.crash actor shared) ∧
      protocol.Guarantees actor shared (system.crash actor shared) ∧
      protocol.resting actor (system.crash actor shared)
  environments : ∀ before after, protocol.invariant before →
    system.environment before after →
    protocol.invariant after ∧ ∀ actor, protocol.rely actor before after

section Soundness

variable [DecidableEq A]

/-- The invariant holds and every actor's remaining program is safe. -/
def Covered (protocol : Protocol σ A) (allowed : A → l → σ → ι → Prop)
    (config : Config σ ι l A) : Prop :=
  protocol.invariant config.shared ∧
    ∀ actor, protocol.Safe allowed actor (fun _ => protocol.resting actor)
      config.shared (config.threads actor)

/-- One actor moves, the others rely on its change. -/
theorem Covered.advance {system : System σ ι l A}
    (follows : protocol.Follows system allowed)
    {config : Config σ ι l A} (covered : protocol.Covered allowed config)
    {mover : A} {shared : σ} {program : Program σ ι l Unit}
    (kept : protocol.invariant shared)
    (guaranteed : protocol.Guarantees mover config.shared shared)
    (safe : protocol.Safe allowed mover (fun _ => protocol.resting mover)
      shared program) :
    protocol.Covered allowed
      ⟨shared, Function.update config.threads mover program⟩ := by
  refine ⟨kept, fun other => ?_⟩
  by_cases same : other = mover
  · subst other
    simpa using safe
  · simp only [Function.update_of_ne same]
    exact Safe.rely (follows.restingStable other) covered.1 kept
      (guaranteed same) (covered.2 other)

theorem Covered.step {system : System σ ι l A}
    (follows : protocol.Follows system allowed)
    {config target : Config σ ι l A} (covered : protocol.Covered allowed config)
    (step : system.Step allowed config target) :
    protocol.Covered allowed target := by
  cases step with
  | start mover program running operation =>
      have mayStart := covered.2 mover
      rw [running] at mayStart
      have safe := follows.operations mover program operation config.shared
        covered.1 mayStart
      refine ⟨covered.1, fun other => ?_⟩
      by_cases same : other = mover
      · subst other
        simpa using safe
      · simpa only [Function.update_of_ne same] using covered.2 other
  | act mover input running permitted acted =>
      have running_safe := covered.2 mover
      rw [running] at running_safe
      obtain ⟨assertion, holds, _, obligation⟩ := running_safe
      obtain ⟨kept, guaranteed, safe⟩ :=
        obligation config.shared input _ covered.1 holds permitted acted
      exact covered.advance follows kept guaranteed safe
  | crash mover =>
      obtain ⟨kept, guaranteed, resting⟩ :=
        follows.crashes mover config.shared covered.1
      exact covered.advance follows kept guaranteed resting
  | environment shared change =>
      obtain ⟨kept, relied⟩ :=
        follows.environments config.shared shared covered.1 change
      exact ⟨kept, fun other => Safe.rely (follows.restingStable other)
        covered.1 kept (relied other) (covered.2 other)⟩

/-- A run keeps what it starts with, also when its programs have begun. -/
theorem Follows.covered_of_run {system : System σ ι l A}
    (follows : protocol.Follows system allowed) {first config : Config σ ι l A}
    (covered : protocol.Covered allowed first)
    (run : system.Reachable allowed first config) : protocol.Covered allowed config := by
  induction run with
  | refl => exact covered
  | tail _ step covered => exact covered.step follows step

section Runs

variable {system : System σ ι l A} (follows : protocol.Follows system allowed) {shared : σ}
  (initial : protocol.invariant shared) (resting : ∀ actor, protocol.resting actor shared)
  {config : Config σ ι l A}
  (reachable : system.Reachable allowed (System.idle shared) config)

include follows initial resting reachable

theorem Follows.covered_of_reachable : protocol.Covered allowed config := by
  have started : protocol.Covered allowed (System.idle shared) := ⟨initial, resting⟩
  exact follows.covered_of_run started reachable

/-- Soundness: the invariant holds in every configuration that allowed steps
reach from an idle one. -/
theorem Follows.invariant_of_reachable : protocol.invariant config.shared :=
  (follows.covered_of_reachable initial resting reachable).1

/-- What every actor can rely on holds of every step of a run. -/
theorem Follows.related_of_step [Nontrivial A] {related : σ → σ → Prop}
    (still : ∀ state, related state state)
    (relied : ∀ actor before after, protocol.rely actor before after → related before after)
    {target : Config σ ι l A} (step : system.Step allowed config target) :
    related config.shared target.shared := by
  have covered := follows.covered_of_reachable initial resting reachable
  cases step with
  | start mover program running operation => exact still _
  | act mover input running permitted acted =>
      have safe := covered.2 mover
      rw [running] at safe
      obtain ⟨assertion, holds, _, obligation⟩ := safe
      obtain ⟨_, guaranteed, _⟩ :=
        obligation config.shared input _ covered.1 holds permitted acted
      obtain ⟨other, different⟩ := exists_ne mover
      exact relied other _ _ (guaranteed different)
  | crash mover =>
      obtain ⟨_, guaranteed, _⟩ := follows.crashes mover config.shared covered.1
      obtain ⟨other, different⟩ := exists_ne mover
      exact relied other _ _ (guaranteed different)
  | environment after change =>
      obtain ⟨_, kept⟩ := follows.environments config.shared after covered.1 change
      obtain ⟨actor, _, _⟩ := exists_pair_ne A
      exact relied actor _ _ (kept actor)

end Runs

end Soundness

end Protocol

end TennisAlerts.Concurrent
