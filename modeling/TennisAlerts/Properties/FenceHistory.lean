import TennisAlerts.HostCore.System

/-!
# The history of fences

What the recorded commits say about delivery: whether it was switched off,
whether an email and booking date are paused, and which external calls are in
progress.  A call whose process crashed is no longer in progress.
-/

namespace TennisAlerts.HostCore

/-- The latest switch of delivery was a switch off. -/
def deliveryOff : List Event → Bool
  | [] => false
  | .deliverySet enabled :: _ => !enabled
  | _ :: older => deliveryOff older

/-- The latest preference change of the email and booking date was a pause. -/
def pausedIn (email : String) (date : Int) : List Event → Bool
  | [] => false
  | .paused address dates :: older =>
      decide (address = email ∧ date ∈ dates) || pausedIn email date older
  | .resumed address dates :: older =>
      !decide (address = email ∧ date ∈ dates) && pausedIn email date older
  | _ :: older => pausedIn email date older

/-- The commits that fence delivery, newest first. -/
def fences (log : List Event) : List Event :=
  log.filter Event.isFence

/-- An external call of the host. -/
inductive Send
  | email (call : Call)
  | wechat (post : Post)
  deriving DecidableEq

/-- The entry that starts a call. -/
def Send.started : Send → Event
  | .email call => .began call
  | .wechat post => .posted post

/-- The process that makes a call. -/
def Send.actor : Send → Actor
  | .email call => .worker call.worker
  | .wechat post => .wechat post.worker

/-- The entry ends the call. -/
def Event.ends (send : Send) : Event → Bool
  | .ended call _ => decide (send = .email call)
  | .answered post _ => decide (send = .wechat post)
  | .crashed actor => decide (actor = send.actor)
  | _ => false

/-- The call has started and not ended. -/
def InProgress (send : Send) : List Event → Prop
  | [] => False
  | event :: older => event = send.started ∨ (event.ends send = false ∧ InProgress send older)

section

variable {log : List Event} {event : Event}

@[simp]
theorem fences_cons_of_not (plain : event.isFence = false) :
    fences (event :: log) = fences log := by
  simp [fences, plain]

theorem deliveryOff_fences (log : List Event) : deliveryOff (fences log) = deliveryOff log := by
  induction log with
  | nil => rfl
  | cons event log ih =>
      cases event with
      | deliverySet enabled => rfl
      | _ => exact ih

theorem pausedIn_fences (email : String) (date : Int) (log : List Event) :
    pausedIn email date (fences log) = pausedIn email date log := by
  induction log with
  | nil => rfl
  | cons event log ih =>
      cases event with
      | paused address dates =>
          change (_ || pausedIn email date (fences log)) = _
          rw [ih]
          rfl
      | resumed address dates =>
          change (_ && pausedIn email date (fences log)) = _
          rw [ih]
          rfl
      | _ => exact ih

theorem mem_fences (log : List Event) {event : Event} (fence : event.isFence = true) :
    event ∈ fences log ↔ event ∈ log := by
  simp [fences, fence]

/-- The histories fence delivery alike. -/
def SameFences (log later : List Event) : Prop :=
  fences later = fences log

theorem SameFences.deliveryOff {later : List Event} (same : SameFences log later) :
    deliveryOff later = deliveryOff log := by
  rw [← deliveryOff_fences later, ← deliveryOff_fences log, same]

theorem SameFences.pausedIn {later : List Event} (same : SameFences log later) (email : String)
    (date : Int) : pausedIn email date later = pausedIn email date log := by
  rw [← pausedIn_fences email date later, ← pausedIn_fences email date log, same]

theorem SameFences.cancelled {later : List Event} (same : SameFences log later) {id : String} :
    Event.cancelled id ∈ later ↔ Event.cancelled id ∈ log := by
  rw [← mem_fences later rfl, ← mem_fences log rfl, same]

/-- A crash ends every call of its process. -/
theorem not_inProgress_crashed {send : Send} : ¬InProgress send (.crashed send.actor :: log) := by
  rintro (started | ⟨running, _⟩)
  · cases send <;> cases started
  · simp [Event.ends] at running

/-- An entry that neither starts nor ends a call of the actor changes nothing. -/
theorem inProgress_cons_iff {send : Send} (unstarted : event ≠ send.started)
    (unended : event.ends send = false) : InProgress send (event :: log) ↔ InProgress send log := by
  simp [InProgress, unstarted, unended]

theorem InProgress.mem {send : Send} (running : InProgress send log) : send.started ∈ log := by
  induction log with
  | nil => exact running.elim
  | cons event log ih =>
      rcases running with rfl | ⟨_, older⟩
      · exact List.mem_cons_self
      · exact List.mem_cons_of_mem _ (ih older)

/-- A call that is not in progress any more was ended after it started. -/
theorem ended_of_not_inProgress {send : Send} {newer older : List Event}
    (finished : ¬InProgress send (newer ++ send.started :: older)) :
    ∃ event ∈ newer, event.ends send = true := by
  induction newer with
  | nil => exact absurd (Or.inl rfl) finished
  | cons event newer ih =>
      by_cases ends : event.ends send = true
      · exact ⟨event, List.mem_cons_self, ends⟩
      · have stillOver : ¬InProgress send (newer ++ send.started :: older) := by
          intro running
          exact finished (Or.inr ⟨by simpa using ends, running⟩)
        obtain ⟨later, member, ended⟩ := ih stillOver
        exact ⟨later, List.mem_cons_of_mem _ member, ended⟩

end

end TennisAlerts.HostCore
