import TennisAlerts.HostCore.Host

/-!
# The notification worker

The functions of `worker.py` as scripts: lease recovery, the claims of system
and subscriber rows, the guarded send, provider reconciliation, maintenance,
and the cycle that calls them.  A `with transaction()` block is the statements
of the block followed by the commit of its connection; a `return` inside the
block commits as well.
-/

namespace TennisAlerts.HostCore

open TennisAlerts.Concurrent TennisAlerts.Database Script

def systemBatch : Nat := 5
def reconcileBatch : Nat := 5
def providerRetentionDays : Int := 30

/-- The settings a cycle reads. -/
structure Settings where
  priorityDailyEmailLimit : Nat
  standardDailyEmailLimit : Nat
  notificationDailySendLimit : Nat

/-- A row as a claim hands it to `_attempt_email`. -/
structure ClaimedRow where
  id : String
  email : String
  emailType : String
  subject : String
  body : String
  attemptCount : Nat
  bookingDate : Int
  claimId : Option String

/-- What a claim remembers of a locked row. -/
def claimedRow (bookingDate : Int) (claimId : Option String) (entry : String × OutboxRow) :
    ClaimedRow where
  id := entry.1
  email := entry.2.email
  emailType := entry.2.emailType
  subject := entry.2.subject
  body := entry.2.body
  attemptCount := entry.2.attemptCount + 1
  bookingDate := bookingDate
  claimId := claimId

/-- `_release_expired_leases`. -/
def releaseExpiredLeases (actor : Actor) : Script Unit := do
  let now ← utcNow
  update (.outbox .subscriber) (.work actor) fun _ _ row => recoverDispatching now row
  update (.outbox .system) (.work actor) fun _ _ row => recoverDispatching now row
  update .claims (.work actor) fun snapshot id claim => recoverClaim now snapshot id claim
  update (.outbox .subscriber) (.work actor) fun _ _ row => retryProcessing now row
  update (.outbox .system) (.work actor) fun _ _ row => retryProcessing now row
  update .claims (.work actor) fun _ _ claim => releaseStaleClaim now claim
  commit (.work actor)

/-- An `UPDATE .. WHERE id = ANY(ids)`. -/
def onIds (ids : List String) (change : OutboxRow → OutboxRow) (_ : Snapshot) (id : String)
    (row : OutboxRow) : Option OutboxRow :=
  if id ∈ ids then some (change row) else none

/-- `_claim_system`. -/
def claimSystem (worker : String) : Script (Option ClaimedRow) := do
  let now ← utcNow
  match ← selectForUpdate (.outbox .system) (.work (.worker worker)) OutboxRow.createdAt
      (fun _ row => claimable now row) 1 with
  | [] =>
      commit (.work (.worker worker))
      return none
  | entry :: _ =>
      update (.outbox .system) (.work (.worker worker))
        (onIds [entry.1] (markProcessing worker now))
      commit (.work (.worker worker))
      return some (claimedRow 0 none entry)

/-- The largest attempt count of a digest. -/
def digestAttempts (rows : List ClaimedRow) : Nat :=
  rows.foldl (fun largest row => max largest row.attemptCount) 0

/-- Subject, body and category of the email, or `none` where `format_digest`
raises. -/
def composeEmail (channel : Channel) (rows : List ClaimedRow) :
    Option (String × String × String) :=
  match channel, rows with
  | _, [] => none
  | .system, first :: _ =>
      some (first.subject, first.body,
        if first.emailType = "verification" then "邮箱验证" else "系统通知")
  | .subscriber, first :: _ =>
      (formatDigest (rows.map ClaimedRow.body)).map fun digest =>
        (digest.1, subscriberBody digest.2 first.bookingDate, "网球空场提醒")

/-- The claim all rows of a digest share. -/
def digestClaim (rows : List ClaimedRow) : Option String :=
  rows.head?.bind ClaimedRow.claimId

/-- The ids that the dispatch query returns. -/
def validIds (channel : Channel) (rows : List ClaimedRow) (worker : String) (now : Int)
    (snapshot : Snapshot) : List String :=
  (rows.map ClaimedRow.id).filter fun id =>
    ((snapshot.outbox channel).row id).any
      (dispatchable channel (digestClaim rows) worker now snapshot)

/-- The completion transaction of `_attempt_email`. -/
def completeEmail (channel : Channel) (rows : List ClaimedRow) (worker attemptId : String)
    (outcome : SendOutcome) : Script Unit := do
  let ids := rows.map ClaimedRow.id
  let attempts := digestAttempts rows
  -- now() of PostgreSQL is the start of the transaction, _retry_at reads the clock anew
  let begun ← utcNow
  update .attempts (.work (.worker worker)) fun _ id attempt =>
    completeAttempt outcome attempts begun attemptId id attempt
  let later ← utcNow
  update (.outbox channel) (.work (.worker worker))
    (fun _ id row => completeRow outcome attempts worker begun (retryAt later attempts) ids id row)
    (.completeUpdate channel worker ids (outcome.phase attempts))
  when (channel = .subscriber) <|
    update .claims (.work (.worker worker)) fun _ id claim =>
      completeClaim outcome attempts begun (digestClaim rows) id claim
  commit (.work (.worker worker))

/-- The call that sends the composed email. -/
def emailCall (worker : String) (channel : Channel) (rows : List ClaimedRow)
    (email : String × String × String) (startedAt : Int) : Call where
  worker := worker
  channel := channel
  rowIds := rows.map ClaimedRow.id
  claimId := digestClaim rows
  recipient := (rows.head?.map ClaimedRow.email).getD ""
  subject := email.1
  body := email.2.1
  category := email.2.2
  startedAt := startedAt

/-- The external call and its completion, for the rows that were dispatched. -/
def sendEmail (channel : Channel) (rows : List ClaimedRow) (worker attemptId : String) :
    Script Unit := do
  match composeEmail channel rows with
  | none => raise ()
  | some email =>
      let call ← beginSend (emailCall worker channel rows email) (.beginCall (digestClaim rows))
      let outcome ← awaitOutcome call
      completeEmail channel rows worker attemptId outcome

/-- The dispatch transaction and the send, inside an open delivery guard. -/
def dispatchEmail (channel : Channel) (rows : List ClaimedRow) (worker : String) :
    Script Unit := do
  let now ← utcNow
  let valid ← select (.work (.worker worker)) (validIds channel rows worker now)
  let invalid := (rows.map ClaimedRow.id).filter fun id => id ∉ valid
  when (invalid ≠ []) <|
    update (.outbox channel) (.work (.worker worker)) fun _ id row =>
      expireAtDispatch channel (digestClaim rows) worker now invalid id row
  if valid = [] then
    when (channel = .subscriber) <|
      update .claims (.work (.worker worker)) fun snapshot id claim =>
        releaseUnusedClaim (digestClaim rows).toList now snapshot id claim
    commit (.work (.worker worker))
  else
    let chosen := rows.filter fun row => row.id ∈ valid
    let ids := chosen.map ClaimedRow.id
    let attemptId ← freshId .attempts
    insert .attempts (.work (.worker worker)) attemptId
      { channel := channel
        queueIds := ids
        phase := .dispatching
        providerMessageId := none
        errorCode := none
        finishedAt := none }
    update (.outbox channel) (.work (.worker worker))
      (fun _ id row => markDispatching worker now ids id row)
      (.dispatchUpdate channel worker ids)
    commitRecording (.work (.worker worker)) (.dispatched worker channel ids)
    sendEmail channel chosen worker attemptId

/-- `delivery_guard`: the body runs with the shared delivery lock held, and is
told whether delivery is enabled. -/
def deliveryGuard (actor : Actor) (body : Bool → Script Unit) : Script Unit := do
  lock (.guard actor) .delivery .shared
  match ← select (.guard actor) fun snapshot => snapshot.control.row () with
  | none => raise ()
  | some control =>
      body control.deliveryEnabled
      commit (.guard actor)

/-- `_attempt_email`. -/
def attemptEmail (channel : Channel) (rows : List ClaimedRow) (worker : String) :
    Script Unit :=
  deliveryGuard (.worker worker) fun enabled =>
    if enabled then dispatchEmail channel rows worker else pure ()

/-- What `_next_subscriber_target` returns. -/
structure Target where
  email : String
  tier : Tier
  bookingDate : Int
  deriving DecidableEq

/-- The rows `_next_subscriber_target` chooses from, with their targets. -/
def subscriberTargets (now : Int) (snapshot : Snapshot) : List (Int × Target) :=
  (snapshot.outbox .subscriber).rows.filterMap fun entry =>
    match rowBookingDate snapshot entry.2 with
    | none => none
    | some bookingDate =>
        if claimable now entry.2 && !snapshot.isPaused entry.2.email bookingDate then
          some (entry.2.createdAt,
            ⟨entry.2.email, snapshot.tierOf entry.2.email, bookingDate⟩)
        else none

/-- `ORDER BY` priority first, then the creation time. -/
def targetBefore (first second : Int × Target) : Prop :=
  (first.2.tier = .priority ∧ second.2.tier = .standard) ∨
    (first.2.tier = second.2.tier ∧ first.1 ≤ second.1)

instance : DecidableRel targetBefore :=
  fun _ _ => inferInstanceAs (Decidable (_ ∨ _))

/-- `_next_subscriber_target`. -/
def nextSubscriberTarget (worker : String) : Script (Option Target) := do
  let now ← utcNow
  let target ← select (.work (.worker worker)) fun snapshot =>
    (((subscriberTargets now snapshot).insertionSort targetBefore).head?).map Prod.snd
  commit (.work (.worker worker))
  return target

/-- The daily limit of a tier. -/
def Settings.userLimit (settings : Settings) : Tier → Nat
  | .priority => settings.priorityDailyEmailLimit
  | .standard => settings.standardDailyEmailLimit

def weatherReason (weather : WeatherDecision) : String :=
  "weather_suppressed:" ++ weather.forecastDate ++ ":" ++ weather.precipitationMm ++
    "mm:threshold=" ++ weather.thresholdMm ++ "mm"

def limitReason (settings : Settings) (tier : Tier) (day : Int) (userFull : Bool) : String :=
  if userFull then
    "daily_tier_limit:" ++ isoDate day ++ ":tier=" ++
      (if tier = .priority then "priority" else "standard") ++
      ":limit=" ++ toString (settings.userLimit tier)
  else
    "global_daily_limit:" ++ isoDate day ++ ":limit=" ++
      toString settings.notificationDailySendLimit

/-- End a claim transaction by suppressing the locked rows. -/
def suppressRows (worker : String) (entries : List (String × OutboxRow)) (reason : String)
    (now : Int) : Script (List ClaimedRow) := do
  update (.outbox .subscriber) (.work (.worker worker))
    (onIds (entries.map Prod.fst) (suppress reason now))
  commit (.work (.worker worker))
  return []

/-- The reservation that `_claim_subscriber_group` inserts. -/
def newClaim (email : String) (now : Int) : ClaimRow where
  email := email
  deliveryDay := shanghaiDay now
  status := .reserved
  messageId := none
  createdAt := now
  updatedAt := now

/-- The end of `_claim_subscriber_group`: lease the locked rows under a new
reservation. -/
def reserveRows (worker : String) (target : Target) (entries : List (String × OutboxRow))
    (now : Int) : Script (List ClaimedRow) := do
  let ids := entries.map Prod.fst
  update (.outbox .subscriber) (.work (.worker worker)) (onIds ids (markProcessing worker now))
  let claimId ← freshId .claims
  insert .claims (.work (.worker worker)) claimId (newClaim target.email now)
  update (.outbox .subscriber) (.work (.worker worker)) (onIds ids (linkClaim claimId))
  commitRecording (.work (.worker worker))
    (.reserved worker claimId (newClaim target.email now))
  return entries.map (claimedRow target.bookingDate (some claimId))

/-- The quota decision of `_claim_subscriber_group`, under the locks of the day. -/
def claimUnderQuota (worker : String) (settings : Settings) (target : Target)
    (entries : List (String × OutboxRow)) (now : Int) : Script (List ClaimedRow) := do
  let day := shanghaiDay now
  lock (.work (.worker worker)) (.globalEmail day) .exclusive
  lock (.work (.worker worker)) (.userEmail target.email day) .exclusive
  let userSubmitted ← select (.work (.worker worker)) fun snapshot =>
    submittedCount snapshot (some target.email) (dayStart day)
  let userReserved ← select (.work (.worker worker))
    (fun snapshot => reservedCount snapshot (some target.email) day now)
    (.countReserved (some target.email) day now userSubmitted)
  let globalSubmitted ← select (.work (.worker worker)) fun snapshot =>
    submittedCount snapshot none (dayStart day)
  let globalReserved ← select (.work (.worker worker))
    (fun snapshot => reservedCount snapshot none day now)
    (.countReserved none day now globalSubmitted)
  let userFull := decide (settings.userLimit target.tier ≤ userSubmitted + userReserved)
  if userFull ∨ settings.notificationDailySendLimit ≤ globalSubmitted + globalReserved then
    suppressRows worker entries (limitReason settings target.tier day userFull) now
  else
    reserveRows worker target entries now

/-- `_claim_subscriber_group`. -/
def claimSubscriberGroup (worker : String) (settings : Settings) (target : Target)
    (weather : WeatherDecision) : Script (List ClaimedRow) := do
  lock (.work (.worker worker)) .delivery .shared
  let now ← utcNow
  let entries ← selectForUpdate (.outbox .subscriber) (.work (.worker worker))
    OutboxRow.createdAt
      (fun snapshot row => claimableFor snapshot target.email target.bookingDate now row)
    subscriberRowsPerDigest
  if entries = [] then
    commit (.work (.worker worker))
    return []
  else if target.tier = .standard ∧ !weather.sendEmail then
    suppressRows worker entries (weatherReason weather) now
  else
    claimUnderQuota worker settings target entries now

/-! ## Provider reconciliation -/

/-- One group of the query of `_next_provider_check`. -/
structure ProviderCheck where
  messageId : String
  nextCheckAt : Int
  submittedAt : Int
  checkCount : Nat
  deriving DecidableEq

/-- A row as a group of its own, when its provider check is due. -/
def providerCheckOf (cutoff now : Int) (row : OutboxRow) : Option ProviderCheck :=
  match row.messageId, row.submittedAt, row.providerNextCheckAt with
  | some messageId, some submittedAt, some nextCheckAt =>
      if row.status = .submitted ∧ cutoff ≤ submittedAt ∧ nextCheckAt ≤ now then
        some ⟨messageId, nextCheckAt, submittedAt, row.providerCheckCount⟩
      else none
  | _, _, _ => none

/-- `GROUP BY message_id` with the aggregates of the query. -/
def groupChecks (checks : List ProviderCheck) : List ProviderCheck :=
  ((checks.map ProviderCheck.messageId).eraseDups).filterMap fun messageId =>
    match checks.filter fun check => check.messageId = messageId with
    | [] => none
    | check :: rest => some (rest.foldl (fun group other =>
        { group with
          nextCheckAt := min group.nextCheckAt other.nextCheckAt
          submittedAt := min group.submittedAt other.submittedAt
          checkCount := max group.checkCount other.checkCount }) check)

def checkBefore (first second : ProviderCheck) : Prop :=
  first.nextCheckAt < second.nextCheckAt ∨
    (first.nextCheckAt = second.nextCheckAt ∧ first.submittedAt ≤ second.submittedAt)

instance : DecidableRel checkBefore :=
  fun _ _ => inferInstanceAs (Decidable (_ ∨ _))

/-- `_next_provider_check`. -/
def nextProviderCheck (worker : String) (channel : Channel) :
    Script (Option ProviderCheck) := do
  let now ← utcNow
  lock (.work (.worker worker)) (.providerClaim channel) .exclusive
  let check ← select (.work (.worker worker)) fun snapshot =>
    ((groupChecks ((snapshot.outbox channel).rows.filterMap fun entry =>
      providerCheckOf (now - days providerRetentionDays) now entry.2)).insertionSort
        checkBefore).head?
  match check with
  | none =>
      commit (.work (.worker worker))
      return none
  | some check =>
      update (.outbox channel) (.work (.worker worker)) fun _ _ row =>
        leaseProviderCheck check.messageId (now + seconds 60) row
      commit (.work (.worker worker))
      return some check

/-- The venues that one message reported on. -/
def messageVenues (messageId : String) (snapshot : Snapshot) : List String :=
  ((snapshot.outbox .subscriber).rows.filterMap fun entry =>
    if entry.2.messageId = some messageId then some entry.2.venueId else none).eraseDups

/-- Only subscriber messages report on venues. -/
def deliveredVenues (worker : String) (channel : Channel) (messageId : String) :
    Script (List String) :=
  if channel = .subscriber then select (.work (.worker worker)) (messageVenues messageId)
  else pure []

/-- `_reconcile_subscriber_row` and `_reconcile_system_row`. -/
def reconcileRow (worker : String) (channel : Channel) (check : ProviderCheck) :
    Script Unit := do
  let checkedAt ← utcNow
  match ← awaitReport with
  | .pending reason =>
      let now ← utcNow
      update (.outbox channel) (.work (.worker worker)) fun _ _ row =>
        applyReport channel check.messageId check.checkCount (.pending reason) now row
      commit (.work (.worker worker))
  | .failed reason =>
      update (.outbox channel) (.work (.worker worker)) fun _ _ row =>
        applyReport channel check.messageId check.checkCount (.failed reason) checkedAt row
      commit (.work (.worker worker))
  | .delivered deliveredAt =>
      let venues ← deliveredVenues worker channel check.messageId
      update (.outbox channel) (.work (.worker worker)) fun _ _ row =>
        applyReport channel check.messageId check.checkCount (.delivered deliveredAt)
          checkedAt row
      when (venues ≠ []) <|
        update .venueStatus (.work (.worker worker)) fun _ venueId status =>
          if venueId ∈ venues then
            some { status with
              lastNotificationAt := some (deliveredAt.getD checkedAt)
              updatedAt := checkedAt }
          else none
      commit (.work (.worker worker))

/-- One of the two loops of `_reconcile`.  Whether the deadline has passed is
decided by a clock of its own. -/
def reconcileLoop (worker : String) (channel : Channel) : Nat → Script Unit
  | 0 => pure ()
  | rounds + 1 => do
      if ← awaitFlag then
        pure ()
      else
        match ← nextProviderCheck worker channel with
        | none => pure ()
        | some check =>
            reconcileRow worker channel check
            reconcileLoop worker channel rounds

/-- `_reconcile`. -/
def reconcile (worker : String) : Script Unit := do
  reconcileLoop worker .subscriber reconcileBatch
  reconcileLoop worker .system reconcileBatch

/-! ## The cycle -/

/-- `_expire_unusable`; `now()` is the start of its transaction. -/
def expireUnusable (actor : Actor) : Script Unit := do
  let now ← utcNow
  update (.outbox .system) (.work actor) fun _ _ row => expireSystem now row
  update (.outbox .subscriber) (.work actor) fun snapshot _ row =>
    expireSubscriber now snapshot row
  commit (.work actor)

def systemLoop (worker : String) : Nat → Script Unit
  | 0 => pure ()
  | rounds + 1 => do
      if ← awaitFlag then
        pure ()
      else
        match ← claimSystem worker with
        | none => pure ()
        | some row =>
            attemptEmail .system [row] worker
            systemLoop worker rounds

def subscriberLoop (worker : String) (settings : Settings) : Nat → Script Unit
  | 0 => pure ()
  | rounds + 1 => do
      if ← awaitFlag then
        pure ()
      else
        match ← nextSubscriberTarget worker with
        | none => pure ()
        | some target =>
            let weather ← awaitWeather
            let rows ← claimSubscriberGroup worker settings target weather
            when (rows ≠ []) (attemptEmail .subscriber rows worker)
            subscriberLoop worker settings rounds

/-- `run_cycle`. -/
def runCycle (worker : String) (settings : Settings) : Script Unit := do
  expireUnusable (.worker worker)
  systemLoop worker systemBatch
  subscriberLoop worker settings subscriberRowsPerDigest
  reconcile worker

/-! ## Maintenance -/

/-- Automatic renewal of a priority subscription. -/
def renewSubscription (now : Int) (snapshot : Snapshot) (row : SubscriptionRow) :
    Option SubscriptionRow :=
  if row.active ∧ row.autoRenew ∧ row.activeUntil ≤ now + days 45 ∧
      snapshot.hasPriority row.email then
    some { row with activeUntil := now + days 90, updatedAt := now }
  else none

/-- Deactivation of a subscription whose term has ended. -/
def endSubscription (now : Int) (row : SubscriptionRow) : Option SubscriptionRow :=
  if row.active ∧ !row.autoRenew ∧ row.activeUntil ≤ now then
    some { row with active := false, updatedAt := now }
  else none

/-- `_maintenance`, without the expiry notices it queues and the verification
challenges it deletes. -/
def maintenance (actor : Actor) : Script Unit := do
  let now ← utcNow
  update .subscriptions (.work actor) fun snapshot _ row => renewSubscription now snapshot row
  update (.outbox .subscriber) (.work actor) fun _ _ row =>
    expireProviderCheck .subscriber (now - days providerRetentionDays) now row
  update (.outbox .system) (.work actor) fun _ _ row =>
    expireProviderCheck .system (now - days providerRetentionDays) now row
  update .subscriptions (.work actor) fun _ _ row => endSubscription now row
  commit (.work actor)

end TennisAlerts.HostCore
