import TennisAlerts.HostCore.Schema

/-!
# The statements of the notification worker

Each SQL statement of `worker.py` on the outboxes, the delivery claims and the
delivery attempts, as a function of the snapshot it runs against.  An `UPDATE`
maps a row to its new version, or to `none` where its `WHERE` rejects the row;
a comparison with a `NULL` column rejects it as in SQL.
-/

namespace TennisAlerts.HostCore

open TennisAlerts.Database

def leaseSeconds : Int := 300
def subscriberRowsPerDigest : Nat := 20
def maxAttempts : Nat := 5

/-! ## Provider answers -/

/-- Exceptions of `send_template_email`, by what `_retryable_send_error` looks at. -/
inductive SendError
  | connectTimeout
  | provider (code : String)
  | other (typeName : String)
  deriving DecidableEq

/-- How a `send_template_email` call ends. -/
inductive SendOutcome
  | returned (messageId requestId : Option String)
  | raised (error : SendError)
  deriving DecidableEq

/-- Provider rejections that precede submission. -/
def rejectionCodes : List String :=
  ["AuthFailure", "InvalidParameter", "InvalidParameterValue", "MissingParameter",
    "LimitExceeded", "RequestLimitExceeded", "UnauthorizedOperation",
    "UnsupportedOperation", "ResourceNotFound", "ResourceUnavailable"]

/-- `code.split(".")[0]`. -/
def codeHead (code : String) : List Char :=
  code.toList.takeWhile fun character => character != '.'

/-- `_retryable_send_error`. -/
def retryableSendError : SendError → Bool
  | .connectTimeout => true
  | .provider code => rejectionCodes.any fun known => known.toList = codeHead code
  | .other _ => false

/-- The provider may have accepted the email. -/
def SendOutcome.possiblyAccepted : SendOutcome → Bool
  | .returned _ _ => true
  | .raised error => !retryableSendError error

/-- The `reason` recorded for an outcome. -/
def SendOutcome.reason : SendOutcome → Option String
  | .returned (some _) _ => none
  | .returned none _ => some "provider_acknowledgement_missing_message_id"
  | .raised .connectTimeout => some "ConnectTimeout"
  | .raised (.provider code) => some code
  | .raised (.other typeName) => some typeName

def SendOutcome.messageId : SendOutcome → Option String
  | .returned messageId _ => messageId
  | .raised _ => none

def SendOutcome.requestId : SendOutcome → Option String
  | .returned _ requestId => requestId
  | .raised _ => none

/-- The phase after a send, from the largest attempt count of the digest. -/
def SendOutcome.phase (attempts : Nat) : SendOutcome → Status
  | .returned (some _) _ => .submitted
  | .returned none _ => .submissionUnknown
  | .raised error =>
      if retryableSendError error then
        if maxAttempts ≤ attempts then .failed else .retry
      else .submissionUnknown

/-- The text of a phase, as stored in `provider_status`. -/
def phaseText : Status → String
  | .submitted => "accepted"
  | .submissionUnknown => "submission_unknown"
  | .failed => "failed"
  | _ => "retry"

/-- `_retry_at`. -/
def retryAt (now : Int) (attempt : Nat) : Int :=
  now + seconds (min 3600 (60 * 2 ^ (attempt - 1)))

/-! ## Lease recovery -/

/-- The lease has run out; a missing lease never has. -/
def leaseExpired (row : OutboxRow) (now : Int) : Bool :=
  match row.leaseUntil with
  | some leaseUntil => decide (leaseUntil ≤ now)
  | none => false

def recoverDispatching (now : Int) (row : OutboxRow) : Option OutboxRow :=
  if row.status = .dispatching ∧ leaseExpired row now then
    some { row with
      status := .submissionUnknown
      updatedAt := now
      lastError := some "dispatch interrupted; reconcile before replay"
      leaseOwner := none
      leaseUntil := none }
  else none

/-- Some outbox row of the claim has an unknown submission. -/
def claimHasUnknownRow (snapshot : Snapshot) (claimId : String) : Bool :=
  (snapshot.outbox .subscriber).rows.any fun entry =>
    decide (entry.2.deliveryClaimId = some claimId) &&
      decide (entry.2.status = .submissionUnknown)

def recoverClaim (now : Int) (snapshot : Snapshot) (claimId : String)
    (claim : ClaimRow) : Option ClaimRow :=
  if claim.status = .reserved ∧ claimHasUnknownRow snapshot claimId then
    some { claim with status := .unknown, updatedAt := now }
  else none

def retryProcessing (now : Int) (row : OutboxRow) : Option OutboxRow :=
  if row.status = .processing ∧ leaseExpired row now then
    some { row with
      status := .retry
      leaseOwner := none
      leaseUntil := none
      nextAttemptAt := now
      updatedAt := now
      lastError := some (row.lastError.getD "expired processing lease") }
  else none

def releaseStaleClaim (now : Int) (claim : ClaimRow) : Option ClaimRow :=
  if claim.status = .reserved ∧ claim.updatedAt ≤ now - seconds leaseSeconds then
    some { claim with status := .released, updatedAt := now }
  else none

/-! ## Claiming -/

/-- `status IN (..) AND next_attempt_at <= now AND (lease_until IS NULL OR <= now)`. -/
def claimable (now : Int) (row : OutboxRow) : Bool :=
  row.status.open && decide (row.nextAttemptAt ≤ now) &&
    (row.leaseUntil.isNone || leaseExpired row now)

/-- The booking date of a row, through its observed slot. -/
def rowBookingDate (snapshot : Snapshot) (row : OutboxRow) : Option Int :=
  (snapshot.slots.row row.eventKey).map SlotRow.bookingDate

/-- The rows `_claim_subscriber_group` may lock for one email and booking date. -/
def claimableFor (snapshot : Snapshot) (email : String) (bookingDate now : Int)
    (row : OutboxRow) : Bool :=
  decide (row.email = email) && decide (rowBookingDate snapshot row = some bookingDate) &&
    claimable now row && !snapshot.isPaused row.email bookingDate

/-- Lease a row to a worker for one more attempt. -/
def markProcessing (worker : String) (now : Int) (row : OutboxRow) : OutboxRow :=
  { row with
    status := .processing
    attemptCount := row.attemptCount + 1
    leaseOwner := some worker
    leaseUntil := some (now + seconds leaseSeconds)
    updatedAt := now }

/-- Put a row under a reservation. -/
def linkClaim (claimId : String) (row : OutboxRow) : OutboxRow :=
  { row with deliveryClaimId := some claimId }

def suppress (reason : String) (now : Int) (row : OutboxRow) : OutboxRow :=
  { row with
    status := .suppressed
    lastError := some reason
    leaseOwner := none
    leaseUntil := none
    updatedAt := now }

/-- `count(DISTINCT message_id)` of the rows submitted since `since`, optionally
for one email. -/
def submittedCount (snapshot : Snapshot) (email : Option String) (since : Int) : Nat :=
  (((snapshot.outbox .subscriber).rows.filterMap fun entry =>
    if email.all (fun address => entry.2.email = address) &&
        entry.2.submittedAt.any (fun submittedAt => decide (since ≤ submittedAt)) then
      entry.2.messageId
    else none).dedup).length

/-- A claim that the quota queries count: unknown, or reserved and younger than
the lease. -/
def claimCounts (day now : Int) (claim : ClaimRow) : Bool :=
  decide (claim.deliveryDay = day) &&
    (claim.status = .unknown ||
      (claim.status = .reserved && decide (now - seconds leaseSeconds < claim.updatedAt)))

/-- The reservations of a day, optionally for one email. -/
def reservedCount (snapshot : Snapshot) (email : Option String) (day now : Int) : Nat :=
  (snapshot.claims.rows.filter fun entry =>
    email.all (fun address => entry.2.email = address) && claimCounts day now entry.2).length

/-! ## Dispatch and completion -/

/-- When a system email stops being sendable. -/
def systemDeadline (row : OutboxRow) : Int :=
  row.expiresAt.getD (row.createdAt +
    if row.emailType = "verification" then minutes 10 else days 1)

/-- The active venue catalogue. -/
def venueIds : List String :=
  ["szw", "gba", "dsh_free", "dsh", "sysh", "tops", "fsb", "fsb_shenyun", "fsb_shekou",
    "fsb_xinan", "fsb_zhengzhong", "fsb_atuoshan", "fsb_zonglvquan", "fsb_guanhu",
    "fsb_bantian", "fsb_shahe", "fsb_baoshui", "fsb_nanyou", "fsb_xinqiao",
    "fsb_yifangcheng", "fsb_qilin", "fsb_maozhouhe", "fft_qianhai", "ppba", "tyzx",
    "jdwx", "swjj"]

/-- The subscription, slot, pause, freshness and age conditions of the dispatch
query for a subscriber row. -/
def subscriberDispatchable (snapshot : Snapshot) (now : Int) (row : OutboxRow) : Bool :=
  match snapshot.subscriptions.row row.subscriptionId, snapshot.slots.row row.eventKey with
  | some subscription, some slot =>
      decide (row.venueId ∈ venueIds) && snapshot.eligible subscription now &&
        decide (now - minutes 15 < row.eligibleAt.getD row.createdAt) &&
        !snapshot.isPaused row.email slot.bookingDate &&
        decide (now < Snapshot.slotStart slot) && snapshot.seenRecently row.eventKey now
  | _, _ => false

/-- The dispatch query of `_attempt_email` on one row. -/
def dispatchable (channel : Channel) (claimId : Option String) (worker : String)
    (now : Int) (snapshot : Snapshot) (row : OutboxRow) : Bool :=
  decide (row.status = .processing) && decide (row.leaseOwner = some worker) &&
    match channel with
    | .system => decide (now < systemDeadline row)
    | .subscriber =>
        decide (row.deliveryClaimId = claimId) && subscriberDispatchable snapshot now row

def expireAtDispatch (channel : Channel) (claimId : Option String) (worker : String)
    (now : Int) (ids : List String) (rowId : String) (row : OutboxRow) :
    Option OutboxRow :=
  if rowId ∈ ids ∧ row.leaseOwner = some worker ∧ row.status = .processing ∧
      (channel = .system ∨ row.deliveryClaimId = claimId) then
    some { row with
      status := .expired
      lastError := some "not_eligible_at_dispatch"
      leaseOwner := none
      leaseUntil := none
      updatedAt := now }
  else none

/-- The `dispatching` update: it looks at the lease owner only. -/
def markDispatching (worker : String) (now : Int) (ids : List String) (rowId : String)
    (row : OutboxRow) : Option OutboxRow :=
  if rowId ∈ ids ∧ row.leaseOwner = some worker then
    some { row with status := .dispatching, updatedAt := now }
  else none

/-- The outbox part of the completion transaction, which starts at `now`. -/
def completeRow (outcome : SendOutcome) (attempts : Nat) (worker : String)
    (now nextAttemptAt : Int) (ids : List String) (rowId : String) (row : OutboxRow) :
    Option OutboxRow :=
  let phase := outcome.phase attempts
  if rowId ∈ ids ∧ row.leaseOwner = some worker ∧ row.status = .dispatching then
    some { row with
      status := phase
      messageId := outcome.messageId
      providerRequestId := outcome.requestId
      providerStatus := some (phaseText phase)
      submittedAt := if phase = .submitted then some now else row.submittedAt
      failedAt := if phase = .failed then some now else row.failedAt
      providerCheckCount := 0
      providerNextCheckAt := if phase = .submitted then some (now + seconds 30) else none
      nextAttemptAt := nextAttemptAt
      leaseOwner := none
      leaseUntil := none
      lastError := outcome.reason
      updatedAt := now }
  else none

/-- The claim status recorded for a phase. -/
def claimStatusOf : Status → ClaimStatus
  | .submitted => .sent
  | .submissionUnknown => .unknown
  | _ => .released

/-- The claim part of the completion transaction: it does not look at the
claim's own status. -/
def completeClaim (outcome : SendOutcome) (attempts : Nat) (now : Int)
    (claimId : Option String) (rowId : String) (claim : ClaimRow) : Option ClaimRow :=
  if some rowId = claimId then
    some { claim with
      status := claimStatusOf (outcome.phase attempts)
      messageId := outcome.messageId
      updatedAt := now }
  else none

def completeAttempt (outcome : SendOutcome) (attempts : Nat) (now : Int)
    (attemptId rowId : String) (attempt : AttemptRow) : Option AttemptRow :=
  if rowId = attemptId then
    some { attempt with
      phase := outcome.phase attempts
      providerMessageId := outcome.messageId
      errorCode := outcome.reason
      finishedAt := some now }
  else none

/-! ## Expiry and provider reconciliation -/

def expireSystem (now : Int) (row : OutboxRow) : Option OutboxRow :=
  if row.status.open ∧ systemDeadline row ≤ now then
    some { row with
      status := .expired
      updatedAt := now
      lastError := some "system_email_expired" }
  else none

/-- The row still has an eligible subscription and a slot that has not started. -/
def stillUsable (snapshot : Snapshot) (now : Int) (row : OutboxRow) : Bool :=
  match snapshot.subscriptions.row row.subscriptionId, snapshot.slots.row row.eventKey with
  | some subscription, some slot =>
      snapshot.eligible subscription now && decide (now < Snapshot.slotStart slot)
  | _, _ => false

/-- The update keeps the lease columns. -/
def expireSubscriber (now : Int) (snapshot : Snapshot) (row : OutboxRow) :
    Option OutboxRow :=
  if row.status.open ∧
      (row.eligibleAt.getD row.createdAt < now - minutes 15 ∨
        !stillUsable snapshot now row) then
    some { row with
      status := .expired
      updatedAt := now
      lastError := some "reminder_expired_or_cancelled" }
  else none

/-- What the provider reports about a submitted message. -/
inductive ProviderReport
  | pending (reason : Option String)
  | delivered (deliveredAt : Option Int)
  | failed (reason : Option String)
  deriving DecidableEq

def leaseProviderCheck (messageId : String) (until_ : Int) (row : OutboxRow) :
    Option OutboxRow :=
  if row.messageId = some messageId ∧ row.status = .submitted then
    some { row with providerNextCheckAt := some until_ }
  else none

/-- `_provider_backoff`. -/
def providerBackoff (checkCount : Nat) : Int :=
  if checkCount ≤ 2 then minutes 5
  else if checkCount ≤ 5 then minutes 15
  else if checkCount ≤ 8 then minutes 60
  else minutes 360

/-- The update of `_update_provider_pending` or of one reconciliation.  A final
report clears or sets `provider_error` in the subscriber table only, and clears
`last_error` on delivery in the system table only. -/
def applyReport (channel : Channel) (messageId : String) (checkCount : Nat)
    (report : ProviderReport) (now : Int) (row : OutboxRow) : Option OutboxRow :=
  if row.messageId = some messageId ∧ row.status = .submitted then
    match report with
    | .pending reason =>
        some { row with
          providerStatus := some "pending"
          providerCheckedAt := some now
          providerCheckCount := checkCount + 1
          providerNextCheckAt := some (now + providerBackoff (checkCount + 1))
          providerError := reason
          updatedAt := now }
    | .delivered deliveredAt =>
        some { row with
          status := .delivered
          deliveredAt := some (deliveredAt.getD now)
          providerStatus := some "delivered"
          providerCheckedAt := some now
          providerNextCheckAt := none
          providerError := if channel = .subscriber then none else row.providerError
          lastError := if channel = .system then none else row.lastError
          updatedAt := now }
    | .failed reason =>
        some { row with
          status := .failed
          failedAt := some now
          providerStatus := some "failed"
          providerCheckedAt := some now
          providerNextCheckAt := none
          providerError :=
            if channel = .subscriber then some (reason.getD "provider delivery failed")
            else row.providerError
          lastError := some (reason.getD "provider delivery failed")
          updatedAt := now }
  else none

/-- The retention update of `_maintenance`. -/
def expireProviderCheck (channel : Channel) (cutoff now : Int) (row : OutboxRow) :
    Option OutboxRow :=
  if row.status = .submitted ∧
      row.submittedAt.any (fun submittedAt => decide (submittedAt < cutoff)) then
    some { row with
      status := .deliveryUnknown
      providerStatus := some "status_check_expired"
      providerNextCheckAt := none
      providerError :=
        if channel = .subscriber then some "provider status retention window elapsed"
        else row.providerError
      lastError := some "provider status retention window elapsed"
      updatedAt := now }
  else none

end TennisAlerts.HostCore
