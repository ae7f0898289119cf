import TennisAlerts.Concurrent.Program

/-!
# Programs and their past

Whether an action is right can depend on the actions that the program took before it.
A program is followed along all its runs, with the actions it has taken, while anything
may happen between two of them.
-/

namespace TennisAlerts.Concurrent

/-- An action that was taken: its label, the state and the input that it saw, and the
state that it left. -/
structure Taken (σ ι l : Type) where
  label : l
  before : σ
  input : ι
  after : σ

namespace Program

variable {σ ι l α β : Type}

/-- Every action that the program can take is right after those of the past, the newest
first, and every end of the program is one that `done` accepts. -/
def Along (holds : List (Taken σ ι l) → l → (σ → ι → Option σ) → Prop)
    (done : α → List (Taken σ ι l) → Prop) :
    Program σ ι l α → List (Taken σ ι l) → Prop
  | ret value, past => done value past
  | act label action next, past =>
      holds past label action ∧ ∀ before input after, action before input = some after →
        Along holds done (next before input) (⟨label, before, input, after⟩ :: past)

variable {holds : List (Taken σ ι l) → l → (σ → ι → Option σ) → Prop}
  {past : List (Taken σ ι l)}

theorem Along.bind {middle : α → List (Taken σ ι l) → Prop}
    {done : β → List (Taken σ ι l) → Prop} {program : Program σ ι l α}
    {rest : α → Program σ ι l β} (first : program.Along holds middle past)
    (continues : ∀ value later, middle value later → (rest value).Along holds done later) :
    (program >>= rest).Along holds done past := by
  induction program generalizing past with
  | ret value => exact continues value past first
  | act label action next ih =>
      refine ⟨first.1, fun before input after acted => ?_⟩
      exact ih before input (first.2 before input after acted)

/-- A program with harmless labels only keeps what harmless actions keep. -/
theorem along_of_labels {harmless : l → Prop} {kept : List (Taken σ ι l) → Prop}
    (right : ∀ past label action, harmless label → holds past label action)
    (keeps : ∀ taken past, harmless taken.label → kept past → kept (taken :: past))
    {program : Program σ ι l α} (each : program.Forall fun label _ => harmless label)
    (start : kept past) : program.Along holds (fun _ => kept) past := by
  induction program generalizing past with
  | ret value => exact start
  | act label action next ih =>
      refine ⟨right past label action each.1, fun before input after _ => ?_⟩
      exact ih before input (each.2 before input)
        (keeps ⟨label, before, input, after⟩ past each.1 start)

end Program

end TennisAlerts.Concurrent
