import TennisAlerts.Properties.ClaimProtocol

/-!
# The life of an outbox row

An outbox row is inserted once and never deleted.  Its content is fixed, its
attempt count grows, and there are statuses from which no statement selects it
again.  The relation `Succession` says this of two versions of a row; every
`UPDATE` of the workers and the endpoints follows it on rows that are sound.
-/

namespace TennisAlerts.HostCore

open TennisAlerts.Database

/-! ## Versions of a row -/

/-- The columns of an outbox row that no statement changes. -/
structure RowContent where
  email : String
  subject : String
  body : String
  createdAt : Int
  subscriptionId : String
  eventKey : String
  venueId : String
  emailType : String
  expiresAt : Option Int
  deriving DecidableEq

def OutboxRow.content (row : OutboxRow) : RowContent where
  email := row.email
  subject := row.subject
  body := row.body
  createdAt := row.createdAt
  subscriptionId := row.subscriptionId
  eventKey := row.eventKey
  venueId := row.venueId
  emailType := row.emailType
  expiresAt := row.expiresAt

/-- Statuses under which a row may be leased; an expiry leaves the lease in place. -/
def Status.leasable : Status → Bool
  | .processing | .dispatching | .expired => true
  | _ => false

/-- No statement selects the row: it is unleased, and its status is an end.  A row
that a pause cancelled may still be restored. -/
def OutboxRow.closed (row : OutboxRow) : Bool :=
  row.leaseOwner.isNone &&
    match row.status with
    | .suppressed | .delivered | .failed | .deliveryUnknown | .submissionUnknown
    | .expired => true
    | .cancelled => row.lastError ≠ some pauseReason
    | _ => false

/-- What holds of every version of a row. -/
structure SoundRow (row : OutboxRow) : Prop where
  leased : row.leaseOwner ≠ none → row.status.leasable = true
  accepted : row.messageId ≠ none → row.status.reported = true
  submitted : row.status = .submitted → row.messageId ≠ none

/-- How a version of a row may follow another one. -/
structure Succession (row new : OutboxRow) : Prop where
  content : new.content = row.content
  attempts : row.attemptCount ≤ new.attemptCount
  closed : row.closed = true → new = row
  accepted : row.messageId ≠ none →
    new.messageId = row.messageId ∧ new.submittedAt = row.submittedAt

/-- A row as it is inserted. -/
structure FreshRow (row : OutboxRow) : Prop where
  pending : row.status = .pending
  unleased : row.leaseOwner = none
  unsent : row.messageId = none
  untried : row.attemptCount = 0

/-- A change of a row by an actor: a lease of another worker is not touched, or
taken away. -/
structure RowChange (actor : Actor) (row new : OutboxRow) : Prop where
  sound : SoundRow new
  succession : Succession row new
  foreign : ∀ worker, Actor.worker worker ≠ actor → new.leaseOwner = some worker →
    row.leaseOwner = some worker ∧ new.attemptCount = row.attemptCount ∧
      (new.status = .dispatching → row.status = .dispatching)

section

variable {actor : Actor} {row new third : OutboxRow}

theorem Succession.refl : Succession row row where
  content := rfl
  attempts := le_rfl
  closed _ := rfl
  accepted _ := ⟨rfl, rfl⟩

theorem Succession.trans (first : Succession row new) (second : Succession new third) :
    Succession row third where
  content := second.content.trans first.content
  attempts := first.attempts.trans second.attempts
  closed isClosed := by
    have same := first.closed isClosed
    subst same
    exact second.closed isClosed
  accepted isAccepted := by
    have kept := first.accepted isAccepted
    have keptAgain := second.accepted (by rwa [kept.1])
    exact ⟨keptAgain.1.trans kept.1, keptAgain.2.trans kept.2⟩

theorem RowChange.refl (sound : SoundRow row) : RowChange actor row row where
  sound := sound
  succession := .refl
  foreign _ _ owner := ⟨owner, rfl, id⟩

theorem FreshRow.sound (fresh : FreshRow row) : SoundRow row where
  leased isLeased := absurd fresh.unleased isLeased
  accepted isAccepted := absurd fresh.unsent isAccepted
  submitted isSubmitted := by
    rw [fresh.pending] at isSubmitted
    cases isSubmitted

/-! ### Rows that statements select -/

theorem not_closed_of_leased {worker : String} (owner : row.leaseOwner = some worker) :
    row.closed = false := by
  simp [OutboxRow.closed, owner]

theorem not_closed_of_open (isOpen : row.status.open = true) : row.closed = false := by
  cases status : row.status <;> simp_all [OutboxRow.closed, Status.open]

theorem SoundRow.unsent (sound : SoundRow row) (unreported : row.status.reported = false) :
    row.messageId = none := by
  by_contra sent
  rw [sound.accepted sent] at unreported
  cases unreported

theorem SoundRow.unsent_of_open (sound : SoundRow row) (isOpen : row.status.open = true) :
    row.messageId = none := by
  apply sound.unsent
  cases status : row.status <;> simp_all [Status.open, Status.reported]

theorem SoundRow.unsent_of_leased (sound : SoundRow row) {worker : String}
    (owner : row.leaseOwner = some worker) : row.messageId = none := by
  apply sound.unsent
  have leasable := sound.leased (by simp [owner])
  cases status : row.status <;> simp_all [Status.leasable, Status.reported]

/-- A row that is neither closed nor accepted may change in its content only by
error. -/
theorem Succession.of_live (live : row.closed = false) (unsent : row.messageId = none)
    (content : new.content = row.content) (attempts : row.attemptCount ≤ new.attemptCount) :
    Succession row new where
  content := content
  attempts := attempts
  closed isClosed := by
    rw [live] at isClosed
    cases isClosed
  accepted isAccepted := absurd unsent isAccepted

/-- A version without a lease that the provider has not accepted. -/
theorem SoundRow.of_released (released : new.leaseOwner = none) (unsent : new.messageId = none)
    (unsubmitted : new.status ≠ .submitted) : SoundRow new where
  leased isLeased := absurd released isLeased
  accepted isAccepted := absurd unsent isAccepted
  submitted isSubmitted := absurd isSubmitted unsubmitted

/-- The row loses its lease before the provider has accepted it. -/
theorem RowChange.release (live : row.closed = false) (unsent : row.messageId = none)
    (content : new.content = row.content) (attempts : new.attemptCount = row.attemptCount)
    (same : new.messageId = row.messageId) (released : new.leaseOwner = none)
    (unsubmitted : new.status ≠ .submitted) : RowChange actor row new where
  sound := .of_released released (same.trans unsent) unsubmitted
  succession := .of_live live unsent content attempts.ge
  foreign worker _ owner := by
    rw [released] at owner
    cases owner

/-- The row expires under its lease. -/
theorem RowChange.expire (sound : SoundRow row) (isOpen : row.status.open = true)
    (content : new.content = row.content) (attempts : new.attemptCount = row.attemptCount)
    (same : new.messageId = row.messageId) (owner : new.leaseOwner = row.leaseOwner)
    (expired : new.status = .expired) : RowChange actor row new where
  sound :=
    { leased := fun _ => by rw [expired]; rfl
      accepted := fun isAccepted => absurd (same.trans (sound.unsent_of_open isOpen)) isAccepted
      submitted := fun isSubmitted => by rw [expired] at isSubmitted; cases isSubmitted }
  succession := .of_live (not_closed_of_open isOpen) (sound.unsent_of_open isOpen) content
    attempts.ge
  foreign worker _ leased := by
    refine ⟨owner.symm.trans leased, attempts, ?_⟩
    intro dispatching
    rw [expired] at dispatching
    cases dispatching

/-- The provider reports on a submitted row. -/
theorem RowChange.report (sound : SoundRow row) (was : row.status = .submitted)
    (content : new.content = row.content) (attempts : new.attemptCount = row.attemptCount)
    (same : new.messageId = row.messageId) (sent : new.submittedAt = row.submittedAt)
    (owner : new.leaseOwner = row.leaseOwner) (is : new.status.reported = true) :
    RowChange actor row new := by
  have accepted := sound.submitted was
  have released : row.leaseOwner = none := by
    by_contra leased
    have leasable := sound.leased leased
    rw [was] at leasable
    cases leasable
  constructor
  · exact ⟨fun leased => absurd (owner.trans released) leased, fun _ => is,
      fun _ => by rwa [same]⟩
  · refine ⟨content, attempts.ge, ?_, fun _ => ⟨same, sent⟩⟩
    intro isClosed
    simp [OutboxRow.closed, was] at isClosed
  · intro worker _ leased
    rw [owner, released] at leased
    cases leased

end

/-! ## The statements of the background work -/

/-- A change of a row by lease recovery, expiry, a cancellation, a pause, an
ingest or the reconciliation with the provider. -/
inductive Swept (row new : OutboxRow) : Prop
  | recovered (now : Int) (changed : recoverDispatching now row = some new)
  | retried (now : Int) (changed : retryProcessing now row = some new)
  | expiredSystem (now : Int) (changed : expireSystem now row = some new)
  | expiredSubscriber (now : Int) (snapshot : Snapshot)
      (changed : expireSubscriber now snapshot row = some new)
  | expiredAtDispatch (channel : Channel) (claimId : Option String) (worker : String) (now : Int)
      (ids : List String) (id : String)
      (changed : expireAtDispatch channel claimId worker now ids id row = some new)
  | paused (email : String) (dates : List Int) (now : Int) (snapshot : Snapshot) (id : String)
      (changed : cancelPaused email dates now snapshot id row = some new)
  | cancelled (subscriptionId : String) (now : Int)
      (changed : cancelOpenRow subscriptionId now row = some new)
  | restored (subscriptionId eventKey : String) (checkedAt now : Int) (tier : Tier)
      (snapshot : Snapshot) (id : String)
      (changed : restorePaused subscriptionId eventKey checkedAt now tier snapshot id row =
        some new)
  | checked (messageId : String) (until_ : Int)
      (changed : leaseProviderCheck messageId until_ row = some new)
  | reported (channel : Channel) (messageId : String) (checkCount : Nat)
      (report : ProviderReport) (now : Int)
      (changed : applyReport channel messageId checkCount report now row = some new)
  | abandoned (channel : Channel) (cutoff now : Int)
      (changed : expireProviderCheck channel cutoff now row = some new)

section

variable {actor : Actor} {row new : OutboxRow}

/-- An open row that a statement stops without keeping its lease. -/
theorem RowChange.stop (sound : SoundRow row) (isOpen : row.status.open = true)
    (content : new.content = row.content) (attempts : new.attemptCount = row.attemptCount)
    (same : new.messageId = row.messageId) (released : new.leaseOwner = none)
    (unsubmitted : new.status ≠ .submitted) : RowChange actor row new :=
  .release (not_closed_of_open isOpen) (sound.unsent_of_open isOpen) content attempts same
    released unsubmitted

theorem applyReport_change {channel : Channel} {messageId : String} {checkCount : Nat}
    {report : ProviderReport} {now : Int} (sound : SoundRow row)
    (changed : applyReport channel messageId checkCount report now row = some new) :
    RowChange actor row new := by
  simp only [applyReport, Option.ite_none_right_eq_some] at changed
  obtain ⟨⟨_, was⟩, changed⟩ := changed
  cases report with
  | pending reason =>
      cases changed
      exact .report sound was rfl rfl rfl rfl rfl (by rw [was]; rfl)
  | delivered deliveredAt =>
      cases changed
      exact .report sound was rfl rfl rfl rfl rfl rfl
  | failed reason =>
      cases changed
      exact .report sound was rfl rfl rfl rfl rfl rfl

/-- The background work follows the life of a row. -/
theorem Swept.change (swept : Swept row new) (sound : SoundRow row) :
    RowChange actor row new := by
  cases swept with
  | recovered now changed =>
      simp only [recoverDispatching, Option.ite_none_right_eq_some, Option.some.injEq] at changed
      obtain ⟨⟨was, _⟩, rfl⟩ := changed
      have live : row.closed = false := by simp [OutboxRow.closed, was]
      have unsent := sound.unsent (by rw [was]; rfl)
      exact .release live unsent rfl rfl rfl rfl (by simp)
  | retried now changed =>
      simp only [retryProcessing, Option.ite_none_right_eq_some, Option.some.injEq] at changed
      obtain ⟨⟨was, _⟩, rfl⟩ := changed
      exact .stop sound (by rw [was]; rfl) rfl rfl rfl rfl (by simp)
  | expiredSystem now changed =>
      simp only [expireSystem, Option.ite_none_right_eq_some, Option.some.injEq] at changed
      obtain ⟨⟨isOpen, _⟩, rfl⟩ := changed
      exact .expire sound isOpen rfl rfl rfl rfl rfl
  | expiredSubscriber now snapshot changed =>
      simp only [expireSubscriber, Option.ite_none_right_eq_some, Option.some.injEq] at changed
      obtain ⟨⟨isOpen, _⟩, rfl⟩ := changed
      exact .expire sound isOpen rfl rfl rfl rfl rfl
  | expiredAtDispatch channel claimId worker now ids id changed =>
      simp only [expireAtDispatch, Option.ite_none_right_eq_some, Option.some.injEq] at changed
      obtain ⟨⟨_, _, was, _⟩, rfl⟩ := changed
      exact .stop sound (by rw [was]; rfl) rfl rfl rfl rfl (by simp)
  | paused email dates now snapshot id changed =>
      simp only [cancelPaused, pausable, Option.ite_none_right_eq_some, Option.some.injEq,
        Bool.and_eq_true] at changed
      obtain ⟨⟨⟨⟨⟨_, isOpen⟩, _⟩, _⟩, _⟩, rfl⟩ := changed
      exact .stop sound isOpen rfl rfl rfl rfl (by simp)
  | cancelled subscriptionId now changed =>
      simp only [cancelOpenRow, Option.ite_none_right_eq_some, Option.some.injEq] at changed
      obtain ⟨⟨_, isOpen⟩, rfl⟩ := changed
      exact .stop sound isOpen rfl rfl rfl rfl (by simp)
  | restored subscriptionId eventKey checkedAt now tier snapshot id changed =>
      simp only [restorePaused, Option.ite_none_right_eq_some, Option.some.injEq] at changed
      obtain ⟨⟨_, _, was, reason, _, unsent, _⟩, rfl⟩ := changed
      have live : row.closed = false := by simp [OutboxRow.closed, was, reason]
      exact .release live unsent rfl rfl rfl rfl (by simp)
  | checked messageId until_ changed =>
      simp only [leaseProviderCheck, Option.ite_none_right_eq_some, Option.some.injEq] at changed
      obtain ⟨⟨_, was⟩, rfl⟩ := changed
      exact .report sound was rfl rfl rfl rfl rfl (by rw [was]; rfl)
  | reported channel messageId checkCount report now changed =>
      exact applyReport_change sound changed
  | abandoned channel cutoff now changed =>
      simp only [expireProviderCheck, Option.ite_none_right_eq_some, Option.some.injEq] at changed
      obtain ⟨⟨was, _⟩, rfl⟩ := changed
      exact .report sound was rfl rfl rfl rfl rfl rfl

end

/-! ## The statements of a worker -/

section

variable {worker : String} {row new : OutboxRow}

/-- A claim leases an open row to its worker. -/
theorem markProcessing_change {now : Int} (sound : SoundRow row)
    (isOpen : row.status.open = true) :
    RowChange (.worker worker) row (markProcessing worker now row) where
  sound :=
    { leased := fun _ => rfl
      accepted := fun sent => absurd (sound.unsent_of_open isOpen) sent
      submitted := by simp [markProcessing] }
  succession :=
    .of_live (not_closed_of_open isOpen) (sound.unsent_of_open isOpen) rfl (Nat.le_succ _)
  foreign other different owner := by
    cases owner
    exact absurd rfl different

theorem linkClaim_change {claimId : String} (sound : SoundRow row)
    (isOpen : row.status.open = true) :
    RowChange (.worker worker) row (linkClaim claimId row) where
  sound := ⟨sound.leased, sound.accepted, sound.submitted⟩
  succession :=
    .of_live (not_closed_of_open isOpen) (sound.unsent_of_open isOpen) rfl le_rfl
  foreign _ _ owner := ⟨owner, rfl, id⟩

theorem suppress_change {reason : String} {now : Int} (sound : SoundRow row)
    (isOpen : row.status.open = true) :
    RowChange (.worker worker) row (suppress reason now row) :=
  .stop sound isOpen rfl rfl rfl rfl (by simp [suppress])

theorem markDispatching_change {now : Int} {ids : List String} {id : String}
    (sound : SoundRow row) (changed : markDispatching worker now ids id row = some new) :
    RowChange (.worker worker) row new := by
  simp only [markDispatching, Option.ite_none_right_eq_some, Option.some.injEq] at changed
  obtain ⟨⟨_, owner⟩, rfl⟩ := changed
  have unsent := sound.unsent_of_leased owner
  constructor
  · exact ⟨fun _ => rfl, fun sent => absurd unsent sent, by simp⟩
  · exact .of_live (not_closed_of_leased owner) unsent rfl le_rfl
  · intro other different leased
    rw [owner] at leased
    cases leased
    exact absurd rfl different

/-- The phase is `submitted` exactly where the provider gave a message id. -/
theorem phase_submitted_iff {outcome : SendOutcome} {attempts : Nat} :
    outcome.phase attempts = .submitted ↔ outcome.messageId ≠ none := by
  cases outcome with
  | returned messageId requestId =>
      cases messageId <;> simp [SendOutcome.phase, SendOutcome.messageId]
  | raised error =>
      simp only [SendOutcome.phase, SendOutcome.messageId, ne_eq, not_true, iff_false]
      split
      · split <;> simp
      · simp

theorem completeRow_change {outcome : SendOutcome} {attempts : Nat} {now nextAttemptAt : Int}
    {ids : List String} {id : String} (sound : SoundRow row)
    (changed : completeRow outcome attempts worker now nextAttemptAt ids id row = some new) :
    RowChange (.worker worker) row new := by
  simp only [completeRow, Option.ite_none_right_eq_some, Option.some.injEq] at changed
  obtain ⟨⟨_, owner, _⟩, rfl⟩ := changed
  constructor
  · constructor
    · exact fun leased => absurd rfl leased
    · intro sent
      change (outcome.phase attempts).reported = true
      rw [phase_submitted_iff.mpr sent]
      rfl
    · exact fun submitted => phase_submitted_iff.mp submitted
  · exact .of_live (not_closed_of_leased owner) (sound.unsent_of_leased owner) rfl le_rfl
  · simp

end

end TennisAlerts.HostCore
