import TennisAlerts.HostCore.Host

/-!
# Requests that change what may be delivered

The scripts of `control.py`, of `update_notification_pauses` and of the
subscription endpoints of `api.py`.  Every request runs on one connection; an
`HTTPException` rolls it back, so it is an exception here as well.
-/

namespace TennisAlerts.HostCore

open TennisAlerts.Concurrent TennisAlerts.Database Script

/-! ## Delivery switch -/

/-- The new singleton row of `set_delivery_enabled`. -/
def switchDelivery (enabled : Bool) (commitId : String) (now : Int) (control : ControlRow) :
    ControlRow :=
  { control with
    deliveryEnabled := enabled
    activatedAt := if enabled then some (control.activatedAt.getD now) else control.activatedAt
    deploymentCommit := commitId
    phase := if enabled then "active" else "paused"
    updatedAt := now }

/-- Enabling asks for a verified migration checkpoint, which is decided by tables
outside this model. -/
def migrationVerified (enabled : Bool) : Script Bool :=
  if enabled then awaitFlag else pure true

/-- `set_delivery_enabled`. -/
def setDeliveryEnabled (actor : Actor) (enabled : Bool) (commitId : String) :
    Script Unit := do
  let now ← utcNow
  lock (.work actor) .delivery .exclusive
  let verified ← migrationVerified enabled
  if verified then
    update .control (.work actor) fun _ _ control =>
      some (switchDelivery enabled commitId now control)
    commitRecording (.work actor) (.deliverySet enabled)
  else
    raise ()

/-! ## System emails -/

/-- A system email as it is queued. -/
def systemEmail (email emailType subject body : String) (now : Int) (expiresAt : Option Int) :
    OutboxRow where
  email := email
  subject := subject
  body := body
  status := .pending
  attemptCount := 0
  nextAttemptAt := now
  leaseOwner := none
  leaseUntil := none
  createdAt := now
  updatedAt := now
  submittedAt := none
  deliveredAt := none
  failedAt := none
  messageId := none
  providerRequestId := none
  providerStatus := none
  providerCheckedAt := none
  providerCheckCount := 0
  providerNextCheckAt := none
  providerError := none
  lastError := none
  subscriptionId := ""
  eventKey := ""
  venueId := ""
  tier := .standard
  deliveryClaimId := none
  eligibleAt := none
  emailType := emailType
  expiresAt := expiresAt

/-- The outbox part of `send_verification_code`. -/
def queueVerification (actor : Actor) (email code : String) : Script Unit := do
  let now ← utcNow
  let id ← freshId (.outbox .system)
  insert (.outbox .system) (.work actor) id
    (systemEmail email "verification" "Zacks 网球提醒验证码"
      ("你的验证码是 " ++ code ++ "，10 分钟内有效。") now (some (now + minutes 10)))
  commit (.work actor)

/-! ## Booking-date pauses -/

def maxPauseDays : Int := 365
def maxDatesPerRequest : Nat := 31

/-- `validate_pause_request` on parsed dates: distinct, in order, at most a year
ahead. -/
def validatePauseRequest (dates : List Int) (now : Int) : Option (List Int) :=
  let today := shanghaiDay now
  if 1 ≤ dates.length ∧ dates.length ≤ maxDatesPerRequest ∧
      dates.all (fun date => decide (today ≤ date ∧ date ≤ today + maxPauseDays)) then
    some (dates.eraseDups.insertionSort (· ≤ ·))
  else none

/-- `increment_subscription_generations`. -/
def incrementGenerations (actor : Actor) (venues : List String) : Script Unit :=
  (venues.eraseDups.insertionSort (· ≤ ·)).forM fun venueId => do
    let _ ← upsert .generations (.work actor) venueId fun generation => generation.getD 0 + 1

/-- The upsert of a pause, one date at a time: the dates whose rule changed. -/
def pauseDates (actor : Actor) (email : String) (now : Int) : List Int → Script (List Int)
  | [] => pure []
  | date :: dates => do
      let rule ← upsert .pauses (.work actor) (email, date) (pausedRule now)
      let changed ← pauseDates actor email now dates
      return if rule.any PauseRow.paused then changed else date :: changed

/-- The pause branch of `update_pauses`. -/
def applyPause (actor : Actor) (email : String) (dates : List Int) (now : Int) :
    Script (List Int) := do
  let changed ← pauseDates actor email now dates
  let cancelled ← updateReturning (.outbox .subscriber) (.work actor)
    (fun snapshot id row => cancelPaused email dates now snapshot id row)
    fun _ row => row.deliveryClaimId
  let claimIds := cancelled.filterMap id
  when (claimIds ≠ []) <|
    update .claims (.work actor) fun snapshot id claim =>
      releaseUnusedClaim claimIds now snapshot id claim
  return changed

/-- The resume branch of `update_pauses`. -/
def applyResume (actor : Actor) (email : String) (dates : List Int) (now : Int) :
    Script (List Int) :=
  updateReturning .pauses (.work actor) (fun _ key rule => resumeRule email dates now key rule)
    fun key _ => key.2

/-- The venues of an email's active subscriptions. -/
def activeVenues (email : String) (snapshot : Snapshot) : List String :=
  (snapshot.subscriptionVenues.rows.filterMap fun entry =>
    match snapshot.subscriptions.row entry.1.1 with
    | some subscription =>
        if subscription.email = email && subscription.active then some entry.1.2 else none
    | none => none).eraseDups

/-- The two branches of `update_pauses`: the dates whose rule changed. -/
def applyPauseAction (actor : Actor) (email : String) (dates : List Int) (now : Int) :
    PauseAction → Script (List Int)
  | .pause => applyPause actor email dates now
  | .resume => applyResume actor email dates now

/-- The venues of the email's active subscriptions get a new generation. -/
def bumpGenerations (actor : Actor) (email : String) : Script Unit := do
  let venues ← select (.work actor) (activeVenues email)
  incrementGenerations actor venues

/-- What the history records of a preference change. -/
def PauseAction.event (email : String) (dates : List Int) : PauseAction → Event
  | .pause => .paused email dates
  | .resume => .resumed email dates

/-- `update_notification_pauses`. -/
def updateNotificationPauses (actor : Actor) (email : String) (action : PauseAction)
    (requested : List Int) : Script Unit := do
  lock (.work actor) .delivery .exclusive
  let now ← utcNow
  match validatePauseRequest requested now with
  | none => raise ()
  | some dates =>
      let changed ← applyPauseAction actor email dates now action
      when (changed ≠ []) (bumpGenerations actor email)
      commitRecording (.work actor) (action.event email dates)

/-! ## Subscriptions -/

/-- The outbox part of `cancel_subscription`. -/
def cancelOpenRow (subscriptionId : String) (now : Int) (row : OutboxRow) :
    Option OutboxRow :=
  if row.subscriptionId = subscriptionId ∧ row.status.open then
    some { row with
      status := .cancelled
      updatedAt := now
      leaseOwner := none
      leaseUntil := none
      lastError := some "subscription_cancelled" }
  else none

/-- The subscription part of `cancel_subscription`. -/
def deactivate (subscriptionId email : String) (now : Int) (id : String)
    (row : SubscriptionRow) : Option SubscriptionRow :=
  if id = subscriptionId ∧ row.email = email then
    some { row with active := false, updatedAt := now }
  else none

/-- `cancel_subscription`. -/
def cancelSubscription (actor : Actor) (subscriptionId email : String) : Script Unit := do
  let now ← utcNow
  lock (.work actor) .delivery .exclusive
  lock (.work actor) (.subscriptions email) .exclusive
  match ← selectRowForUpdate .subscriptions (.work actor) subscriptionId fun row =>
      decide (row.email = email) && row.active with
  | none => raise ()
  | some subscription =>
      update .subscriptions (.work actor) fun _ id row =>
        deactivate subscriptionId email now id row
      update (.outbox .subscriber) (.work actor) fun _ _ row =>
        cancelOpenRow subscriptionId now row
      incrementGenerations actor subscription.venueIds
      commitRecording (.work actor) (.cancelled subscriptionId)

/-- A validated subscription request. -/
structure SubscriptionInput where
  venueIds : List String
  startTime : Nat
  endTime : Nat
  weekdayMask : Nat
  termCode : String

def standardTerms : List (String × Nat) :=
  [("7d", 7), ("8d", 8), ("9d", 9), ("10d", 10), ("11d", 11), ("12d", 12), ("13d", 13),
    ("14d", 14)]

def priorityTerms : List (String × Nat) :=
  standardTerms ++ [("30d", 30), ("90d", 90), ("180d", 180), ("long_term", 0)]

/-- The term part of `validate_subscription`. -/
def termAllowed (tier : Tier) (termCode : String) : Bool :=
  ((if tier = .priority then priorityTerms else standardTerms).map Prod.fst).contains termCode

/-- `resolve_term`: duration, automatic renewal and end of the term. -/
def resolveTerm (termCode : String) (now : Int) : Option (Nat × Bool × Int) :=
  if termCode = "long_term" then some (0, true, now + days 90)
  else (priorityTerms.lookup termCode).map fun count => (count, false, now + days count)

/-- Limits on the active subscriptions of one email. -/
structure SubscriptionLimits where
  priority : Nat
  standard : Nat

def SubscriptionLimits.of (limits : SubscriptionLimits) : Tier → Nat
  | .priority => limits.priority
  | .standard => limits.standard

/-- The row that `create_subscription` inserts. -/
def newSubscription (email : String) (input : SubscriptionInput) (dedupeKey : String)
    (term : Nat × Bool × Int) (now : Int) : SubscriptionRow where
  email := email
  venueIds := input.venueIds
  startTime := input.startTime
  endTime := input.endTime
  weekdayMask := input.weekdayMask
  durationDays := term.1
  termCode := input.termCode
  autoRenew := term.2.1
  dedupeKey := some dedupeKey
  activeUntil := term.2.2
  active := true
  createdAt := now
  updatedAt := now

/-- The cleanup at the start of `create_subscription`. -/
def endLapsed (email : String) (now : Int) (row : SubscriptionRow) :
    Option SubscriptionRow :=
  if row.email = email ∧ row.active ∧ row.activeUntil ≤ now ∧ !row.autoRenew then
    some { row with active := false, updatedAt := now }
  else none

/-- The active subscriptions of an email whose term has not ended. -/
def activeSubscriptions (email : String) (now : Int) (snapshot : Snapshot) :
    List (String × SubscriptionRow) :=
  snapshot.subscriptions.rows.filter fun entry =>
    entry.2.email = email && entry.2.active && decide (now < entry.2.activeUntil)

/-- `create_subscription`; `dedupeKey` is the hash of the request. -/
def createSubscription (actor : Actor) (email : String) (input : SubscriptionInput)
    (dedupeKey : String) (limits : SubscriptionLimits) : Script Unit := do
  let now ← utcNow
  lock (.work actor) (.subscriptions email) .exclusive
  update .subscriptions (.work actor) fun _ _ row => endLapsed email now row
  let tier ← select (.work actor) fun snapshot => snapshot.tierOf email
  let current ← select (.work actor) (activeSubscriptions email now)
  match resolveTerm input.termCode now with
  | none => raise ()
  | some term =>
      if !termAllowed tier input.termCode ∨ limits.of tier ≤ current.length ∨
          current.any (fun entry => entry.2.dedupeKey = some dedupeKey) then
        raise ()
      else
        let subscriptionId ← freshId .subscriptions
        insert .subscriptions (.work actor) subscriptionId
          (newSubscription email input dedupeKey term now)
        input.venueIds.forM fun venueId =>
          insert .subscriptionVenues (.work actor) (subscriptionId, venueId) ()
        incrementGenerations actor input.venueIds
        commit (.work actor)

/-- The tier part of `redeem_priority`.  Whether the invite code is valid is
decided by tables outside this model. -/
def redeemPriority (actor : Actor) (email : String) : Script Unit := do
  if ← awaitFlag then
    let _ ← upsert .tiers (.work actor) email fun _ =>
      { tier := .priority, revokedAt := none }
    commitRecording (.work actor) (.redeemed email)
  else
    raise ()

end TennisAlerts.HostCore
