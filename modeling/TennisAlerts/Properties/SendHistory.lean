import TennisAlerts.HostCore.System

/-!
# The history of sends

What the recorded calls say about a row: whether a call that the provider may
have accepted included it, and who dispatched it last.
-/

namespace TennisAlerts.HostCore

/-- A call of the worker included the row and ended possibly accepted. -/
def SpentBy (log : List Event) (worker : String) (channel : Channel) (id : String) : Prop :=
  ∃ call outcome, Event.ended call outcome ∈ log ∧ call.worker = worker ∧
    call.channel = channel ∧ id ∈ call.rowIds ∧ outcome.possiblyAccepted = true

/-- Some call included the row and ended possibly accepted. -/
def Spent (log : List Event) (channel : Channel) (id : String) : Prop :=
  ∃ worker, SpentBy log worker channel id

/-- The worker of the latest dispatch that named the row. -/
def lastDispatch : List Event → Channel → String → Option String
  | [], _, _ => none
  | .dispatched worker channel ids :: older, wanted, id =>
      if channel = wanted ∧ id ∈ ids then some worker else lastDispatch older wanted id
  | _ :: older, wanted, id => lastDispatch older wanted id

/-- After a call that the provider may have accepted, no call begins that
includes one of its rows. -/
def SentOnce (log : List Event) : Prop :=
  ∀ newer older call outcome later, log = newer ++ .ended call outcome :: older →
    outcome.possiblyAccepted = true → Event.began later ∈ newer →
    later.channel = call.channel → ∀ id ∈ call.rowIds, id ∉ later.rowIds

/-- A history entry that says nothing about sends. -/
def Event.offRecord : Event → Bool
  | .dispatched _ _ _ | .began _ | .ended _ _ => false
  | _ => true

section

variable {log : List Event} {worker : String} {channel : Channel} {id : String}

@[simp]
theorem not_spentBy_nil : ¬SpentBy [] worker channel id := by
  simp [SpentBy]

/-- Only the end of a call changes which rows are spent. -/
theorem spentBy_cons_iff {event : Event} (kept : ∀ call outcome, event ≠ .ended call outcome) :
    SpentBy (event :: log) worker channel id ↔ SpentBy log worker channel id := by
  constructor
  · rintro ⟨call, outcome, member, rest⟩
    rcases List.mem_cons.mp member with rfl | older
    · exact absurd rfl (kept call outcome)
    · exact ⟨call, outcome, older, rest⟩
  · rintro ⟨call, outcome, member, rest⟩
    exact ⟨call, outcome, List.mem_cons_of_mem _ member, rest⟩

theorem spentBy_ended_iff {call : Call} {outcome : SendOutcome} :
    SpentBy (.ended call outcome :: log) worker channel id ↔
      (call.worker = worker ∧ call.channel = channel ∧ id ∈ call.rowIds ∧
        outcome.possiblyAccepted = true) ∨ SpentBy log worker channel id := by
  constructor
  · rintro ⟨other, result, member, rest⟩
    rcases List.mem_cons.mp member with same | older
    · cases same
      exact Or.inl rest
    · exact Or.inr ⟨other, result, older, rest⟩
  · rintro (rest | ⟨other, result, member, rest⟩)
    · exact ⟨call, outcome, List.mem_cons_self, rest⟩
    · exact ⟨other, result, List.mem_cons_of_mem _ member, rest⟩

theorem lastDispatch_cons {event : Event}
    (kept : ∀ worker channel ids, event ≠ .dispatched worker channel ids) :
    lastDispatch (event :: log) channel id = lastDispatch log channel id := by
  cases event with
  | dispatched worker other ids => exact absurd rfl (kept worker other ids)
  | _ => rfl

/-- A history in which no call starts keeps its rows sent once. -/
theorem SentOnce.cons {event : Event} (once : SentOnce log)
    (kept : ∀ call, event ≠ .began call) : SentOnce (event :: log) := by
  intro newer older call outcome later split accepted began sameChannel row member
  cases newer with
  | nil => cases began
  | cons first rest =>
      simp only [List.cons_append, List.cons.injEq] at split
      rcases split with ⟨rfl, split⟩
      rcases List.mem_cons.mp began with first_began | began
      · exact absurd first_began.symm (kept later)
      · exact once rest older call outcome later split accepted began sameChannel row member

/-- A call may start when none of its rows is spent. -/
theorem SentOnce.began {call : Call} (once : SentOnce log)
    (unspent : ∀ row ∈ call.rowIds, ¬Spent log call.channel row) :
    SentOnce (.began call :: log) := by
  intro newer older earlier outcome later split accepted began sameChannel row member
  cases newer with
  | nil => cases began
  | cons first rest =>
      simp only [List.cons_append, List.cons.injEq] at split
      rcases split with ⟨rfl, split⟩
      rcases List.mem_cons.mp began with same | began
      · cases same
        intro included
        apply unspent row included
        refine ⟨earlier.worker, earlier, outcome, ?_, rfl, sameChannel.symm, member, accepted⟩
        rw [split]
        simp
      · exact once rest older earlier outcome later split accepted began sameChannel row member

theorem sentOnce_nil : SentOnce [] := by
  intro newer older call outcome later split
  cases newer <;> cases split

end

end TennisAlerts.HostCore
