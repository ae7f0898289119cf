import TennisAlerts.HostCore.Outbox

/-!
# Booking-date pauses

The statements of `date_pauses.py`: the preference rows of an email, the rows a
pause cancels, the unused claims it releases, and the rules by which a later
observation requalifies a cancelled row.
-/

namespace TennisAlerts.HostCore

open TennisAlerts.Database

def pauseReason : String := "booking_date_paused"

/-- A preference change, as `validate_pause_request` returns it. -/
inductive PauseAction
  | pause
  | resume
  deriving DecidableEq

/-- The stored rule after a pause at `now`; an existing pause keeps its time. -/
def pausedRule (now : Int) : Option PauseRow → PauseRow
  | some rule => if rule.paused then rule else { rule with paused := true, updatedAt := now }
  | none => { paused := true, createdAt := now, updatedAt := now }

/-- The update of a resume. -/
def resumeRule (email : String) (dates : List Int) (now : Int) (key : String × Int)
    (rule : PauseRow) : Option PauseRow :=
  if key.1 = email ∧ key.2 ∈ dates ∧ rule.paused then
    some { rule with paused := false, updatedAt := now }
  else none

/-- The rows a pause of the email and dates may cancel. -/
def pausable (snapshot : Snapshot) (email : String) (dates : List Int) (rowId : String)
    (row : OutboxRow) : Bool :=
  decide (row.email = email) &&
    (rowBookingDate snapshot row).any (fun date => decide (date ∈ dates)) &&
    row.status.open && row.submittedAt.isNone && row.messageId.isNone &&
    !snapshot.attemptedBeyondRetry rowId

def cancelPaused (email : String) (dates : List Int) (now : Int) (snapshot : Snapshot)
    (rowId : String) (row : OutboxRow) : Option OutboxRow :=
  if pausable snapshot email dates rowId row then
    some { row with
      status := .cancelled
      lastError := some pauseReason
      updatedAt := now
      leaseOwner := none
      leaseUntil := none }
  else none

/-- A row that keeps its claim from being released unused. -/
def blocksRelease (row : OutboxRow) : Bool :=
  !(row.status = .cancelled || row.status = .expired || row.status = .suppressed ||
      row.status = .failed) ||
    row.submittedAt.isSome || row.messageId.isSome

/-- `release_unused_claims` on one claim. -/
def releaseUnusedClaim (claimIds : List String) (now : Int) (snapshot : Snapshot)
    (claimId : String) (claim : ClaimRow) : Option ClaimRow :=
  let rows := (snapshot.outbox .subscriber).rows.filter fun entry =>
    decide (entry.2.deliveryClaimId = some claimId)
  if claimId ∈ claimIds ∧ claim.status = .reserved ∧ claim.messageId = none ∧
      !rows.any (fun entry => blocksRelease entry.2) ∧
      !rows.any (fun entry => snapshot.attemptedBeyondRetry entry.1) then
    some { claim with status := .released, updatedAt := now }
  else none

/-- Some rule that is not in force might still owe a match: the scope was last
seen before the rule changed, or too long ago. -/
def needsResumeMatch (rules : List PauseRow) (lastSeenAt now : Int) : Bool :=
  rules.any fun rule =>
    !rule.paused &&
      (decide (lastSeenAt ≤ rule.updatedAt) || decide (lastSeenAt < now - minutes 15))

def ruleAllowsObservation (rule : Option PauseRow) (checkedAt now : Int) : Bool :=
  match rule with
  | none => true
  | some rule =>
      !rule.paused && decide (rule.updatedAt < checkedAt) &&
        decide (now - minutes 15 < checkedAt)

/-- When a freshly qualified row is first due. -/
def firstAttemptAt (tier : Tier) (now : Int) : Int :=
  if tier = .priority then now else now + seconds 10

/-- `restore_paused_notification` on one row. -/
def restorePaused (subscriptionId eventKey : String) (checkedAt now : Int) (tier : Tier)
    (snapshot : Snapshot) (rowId : String) (row : OutboxRow) : Option OutboxRow :=
  if row.subscriptionId = subscriptionId ∧ row.eventKey = eventKey ∧
      row.status = .cancelled ∧ row.lastError = some pauseReason ∧
      row.submittedAt = none ∧ row.messageId = none ∧
      !snapshot.attemptedBeyondRetry rowId then
    some { row with
      status := .pending
      lastError := none
      eligibleAt := some checkedAt
      nextAttemptAt := firstAttemptAt tier now
      updatedAt := now
      tier := tier
      leaseOwner := none
      leaseUntil := none
      deliveryClaimId := none }
  else none

end TennisAlerts.HostCore
