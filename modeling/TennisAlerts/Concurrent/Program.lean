import Mathlib.Logic.Function.Basic
import Mathlib.Logic.Relation

/-!
# Interleaved sequential programs

A program is a tree of atomic actions on a shared state.  An action reads the
shared state together with one external input (a provider's answer, a fresh
identifier) and either is blocked or produces the next shared state; the rest
of the program is chosen from the state and the input that the action saw.

A system runs one program per actor.  Between any two actions of one actor,
the other actors, the environment and crashes may take any number of steps.
-/

namespace TennisAlerts.Concurrent

universe u

/-- A sequential program over the shared state `σ`.  Inputs are drawn from `ι`,
and `l` labels the actions so that a run can be constrained. -/
inductive Program (σ ι l : Type) (α : Type u) : Type u
  | ret (value : α)
  | act (label : l) (action : σ → ι → Option σ)
      (next : σ → ι → Program σ ι l α)

namespace Program

variable {σ ι l : Type} {α β : Type}

/-- Sequential composition. -/
def bind : Program σ ι l α → (α → Program σ ι l β) → Program σ ι l β
  | ret value, rest => rest value
  | act label action next, rest =>
      act label action fun state input => bind (next state input) rest

instance : Monad (Program σ ι l) where
  pure := ret
  bind := bind

@[simp]
theorem pure_eq (value : α) :
    (pure value : Program σ ι l α) = ret value :=
  rfl

@[simp]
theorem ret_bind (value : α) (rest : α → Program σ ι l β) :
    (ret value : Program σ ι l α) >>= rest = rest value :=
  rfl

@[simp]
theorem act_bind (label : l) (action : σ → ι → Option σ)
    (next : σ → ι → Program σ ι l α) (rest : α → Program σ ι l β) :
    act label action next >>= rest =
      act label action fun state input => next state input >>= rest :=
  rfl

/-- Every action the program can take satisfies `holds`. -/
def Forall (holds : l → (σ → ι → Option σ) → Prop) : Program σ ι l α → Prop
  | ret _ => True
  | act label action next =>
      holds label action ∧ ∀ state input, Forall holds (next state input)

variable {holds : l → (σ → ι → Option σ) → Prop}

@[simp]
theorem forall_ret (value : α) : (ret value : Program σ ι l α).Forall holds :=
  trivial

@[simp]
theorem forall_pure (value : α) : (pure value : Program σ ι l α).Forall holds :=
  trivial

theorem Forall.bind {program : Program σ ι l α} {rest : α → Program σ ι l β}
    (first : program.Forall holds) (continues : ∀ value, (rest value).Forall holds) :
    (program >>= rest).Forall holds := by
  induction program with
  | ret value => exact continues value
  | act label action next ih =>
      exact ⟨first.1, fun state input => ih state input (first.2 state input)⟩

theorem Forall.mono {other : l → (σ → ι → Option σ) → Prop} {program : Program σ ι l α}
    (weaker : ∀ label action, holds label action → other label action)
    (satisfied : program.Forall holds) : program.Forall other := by
  induction program with
  | ret value => trivial
  | act label action next ih =>
      exact ⟨weaker _ _ satisfied.1, fun state input => ih state input (satisfied.2 state input)⟩

theorem forall_forM {γ : Type} {body : γ → Program σ ι l PUnit} (items : List γ)
    (each : ∀ item ∈ items, (body item).Forall holds) : (items.forM body).Forall holds := by
  induction items with
  | nil => trivial
  | cons item items ih =>
      apply Forall.bind (each item List.mem_cons_self)
      intro _
      exact ih fun later member => each later (List.mem_cons_of_mem item member)

end Program

/-- One program per actor over a common shared state. -/
structure Config (σ ι l A : Type) where
  shared : σ
  threads : A → Program σ ι l Unit

/-- What the actors may run, what is undone when one of them crashes, and what
happens on its own. -/
structure System (σ ι l A : Type) where
  operation : A → Program σ ι l Unit → Prop
  crash : A → σ → σ
  environment : σ → σ → Prop

namespace System

variable {σ ι l A : Type} [DecidableEq A]

/-- One step of the interleaving.  An action is taken only when `allowed`
accepts it in the state where it is taken. -/
inductive Step (system : System σ ι l A) (allowed : A → l → σ → ι → Prop) :
    Config σ ι l A → Config σ ι l A → Prop
  | start {config : Config σ ι l A} (actor : A) (program : Program σ ι l Unit) :
      config.threads actor = .ret () →
      system.operation actor program →
      Step system allowed config
        ⟨config.shared, Function.update config.threads actor program⟩
  | act {config : Config σ ι l A} (actor : A) (input : ι) {label : l}
      {action : σ → ι → Option σ} {next : σ → ι → Program σ ι l Unit}
      {shared : σ} :
      config.threads actor = .act label action next →
      allowed actor label config.shared input →
      action config.shared input = some shared →
      Step system allowed config
        ⟨shared, Function.update config.threads actor
          (next config.shared input)⟩
  | crash {config : Config σ ι l A} (actor : A) :
      Step system allowed config
        ⟨system.crash actor config.shared,
          Function.update config.threads actor (.ret ())⟩
  | environment {config : Config σ ι l A} (shared : σ) :
      system.environment config.shared shared →
      Step system allowed config ⟨shared, config.threads⟩

/-- Every actor idle over the given shared state. -/
def idle (shared : σ) : Config σ ι l A :=
  ⟨shared, fun _ => .ret ()⟩

/-- Configurations reached by finitely many allowed steps. -/
def Reachable (system : System σ ι l A) (allowed : A → l → σ → ι → Prop) :
    Config σ ι l A → Config σ ι l A → Prop :=
  Relation.ReflTransGen (Step system allowed)

/-- The constraint that forbids no action. -/
def anyAction : A → l → σ → ι → Prop :=
  fun _ _ _ _ => True

end System

/-! ## Replaying a concrete schedule -/

/-- One entry of a schedule. -/
inductive Move (σ ι l A : Type)
  | start (actor : A) (program : Program σ ι l Unit)
  | act (actor : A) (input : ι)
  | crash (actor : A)
  | environment (next : σ → σ)

namespace System

variable {σ ι l A : Type} [DecidableEq A]

instance : ∀ (actor : A) (label : l) (state : σ) (input : ι),
    Decidable (anyAction actor label state input) :=
  fun _ _ _ _ => isTrue trivial

variable (system : System σ ι l A) (allowed : A → l → σ → ι → Prop)
  [∀ actor label state input, Decidable (allowed actor label state input)]

/-- Execute one schedule entry, failing when it is not enabled or not allowed. -/
def replayOne (config : Config σ ι l A) : Move σ ι l A → Option (Config σ ι l A)
  | .start actor program =>
      match config.threads actor with
      | .ret _ => some ⟨config.shared, Function.update config.threads actor program⟩
      | .act _ _ _ => none
  | .act actor input =>
      match config.threads actor with
      | .ret _ => none
      | .act label action next =>
          if allowed actor label config.shared input then
            (action config.shared input).map fun shared =>
              ⟨shared, Function.update config.threads actor (next config.shared input)⟩
          else none
  | .crash actor =>
      some ⟨system.crash actor config.shared,
        Function.update config.threads actor (.ret ())⟩
  | .environment next => some ⟨next config.shared, config.threads⟩

/-- Execute a whole schedule. -/
def replay : Config σ ι l A → List (Move σ ι l A) → Option (Config σ ι l A)
  | config, [] => some config
  | config, move :: moves =>
      (replayOne system allowed config move).bind fun next => replay next moves

variable {system allowed}

/-- A schedule entry that starts only operations of the system and follows its
environment. -/
def Legal (system : System σ ι l A) : Move σ ι l A → Prop
  | .start actor program => system.operation actor program
  | .act _ _ => True
  | .crash _ => True
  | .environment next => ∀ shared, system.environment shared (next shared)

theorem step_of_replayOne {config target : Config σ ι l A} {move : Move σ ι l A}
    (legal : system.Legal move)
    (replayed : replayOne system allowed config move = some target) :
    system.Step allowed config target := by
  cases move with
  | start actor program =>
      simp only [replayOne] at replayed
      split at replayed
      · rename_i running
        cases replayed
        exact Step.start actor program running legal
      · cases replayed
  | act actor input =>
      simp only [replayOne] at replayed
      split at replayed
      · cases replayed
      · rename_i running
        split at replayed
        · rename_i permitted
          obtain ⟨shared, acted, rfl⟩ := Option.map_eq_some_iff.mp replayed
          exact Step.act actor input running permitted acted
        · cases replayed
  | crash actor =>
      cases replayed
      exact Step.crash actor
  | environment next =>
      cases replayed
      exact Step.environment _ (legal _)

/-- A replayed schedule of legal entries is a run. -/
theorem reachable_of_replay {moves : List (Move σ ι l A)} :
    ∀ {config target : Config σ ι l A},
      (∀ move ∈ moves, system.Legal move) →
      replay system allowed config moves = some target →
      system.Reachable allowed config target := by
  induction moves with
  | nil =>
      intro config target _ replayed
      cases replayed
      exact Relation.ReflTransGen.refl
  | cons move moves ih =>
      intro config target legal replayed
      obtain ⟨middle, first, rest⟩ := Option.bind_eq_some_iff.mp replayed
      have firstStep := step_of_replayOne (legal move List.mem_cons_self) first
      have restRun := ih (fun later member =>
        legal later (List.mem_cons_of_mem move member)) rest
      exact Relation.ReflTransGen.head firstStep restRun

/-- A schedule whose replay ends in a state with a checked property gives a run
that reaches such a state. -/
theorem exists_reachable_of_replay {config : Config σ ι l A} {moves : List (Move σ ι l A)}
    {check : Config σ ι l A → Bool} (legal : ∀ move ∈ moves, system.Legal move)
    (replayed : (replay system allowed config moves).any check = true) :
    ∃ target, system.Reachable allowed config target ∧ check target = true := by
  cases ends : replay system allowed config moves with
  | none =>
      rw [ends] at replayed
      cases replayed
  | some target =>
      rw [ends] at replayed
      exact ⟨target, reachable_of_replay legal ends, replayed⟩

/-! ### Schedules -/

/-- Actions of one actor that need no input of their own. -/
def acts (actor : A) (input : ι) (count : Nat) : List (Move σ ι l A) :=
  List.replicate count (.act actor input)

omit [DecidableEq A] in
theorem legal_acts {actor : A} {input : ι} {count : Nat} :
    ∀ move ∈ acts actor input count, system.Legal move := by
  intro move member
  rw [List.eq_of_mem_replicate member]
  trivial

end System

end TennisAlerts.Concurrent
