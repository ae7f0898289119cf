import TennisAlerts.Database.Table
import TennisAlerts.HostCore.Clock

/-!
# The Host Core tables

The columns of the PostgreSQL schema `zacks` that the modelled operations read
or write.  `notification_outbox` and `system_email_outbox` are queried by the
same statements with the table name filled in, so they share one row type; the
columns that only one of them has are marked.  Identifiers, emails and keys are
texts of which only equality is used.  Wall-clock times of slots and
subscriptions are minutes of the day, the value of `parse_time`.
-/

namespace TennisAlerts.HostCore

open TennisAlerts.Database

/-- The two email outboxes, by the channel name of their delivery attempts. -/
inductive Channel
  | subscriber
  | system
  deriving DecidableEq

/-- Delivery statuses of an outbox row and phases of a delivery attempt. -/
inductive Status
  | pending
  | retry
  | processing
  | dispatching
  | submitted
  | delivered
  | failed
  | expired
  | suppressed
  | cancelled
  | submissionUnknown
  | deliveryUnknown
  deriving DecidableEq

/-- Statuses of a row that a worker may still claim. -/
def Status.open : Status → Bool
  | .pending | .retry | .processing => true
  | _ => false

inductive Tier
  | standard
  | priority
  deriving DecidableEq

/-- A row of `notification_outbox` or `system_email_outbox`.  The provider's
message id is the column `message_id` of the first and `provider_message_id` of
the second. -/
structure OutboxRow where
  email : String
  subject : String
  body : String
  status : Status
  attemptCount : Nat
  nextAttemptAt : Int
  leaseOwner : Option String
  leaseUntil : Option Int
  createdAt : Int
  updatedAt : Int
  submittedAt : Option Int
  deliveredAt : Option Int
  failedAt : Option Int
  messageId : Option String
  providerRequestId : Option String
  providerStatus : Option String
  providerCheckedAt : Option Int
  providerCheckCount : Nat
  providerNextCheckAt : Option Int
  providerError : Option String
  lastError : Option String
  -- notification_outbox only
  subscriptionId : String
  eventKey : String
  venueId : String
  tier : Tier
  deliveryClaimId : Option String
  eligibleAt : Option Int
  -- system_email_outbox only
  emailType : String
  expiresAt : Option Int

inductive ClaimStatus
  | reserved
  | sent
  | unknown
  | released
  deriving DecidableEq

/-- A row of `email_delivery_claims`. -/
structure ClaimRow where
  email : String
  deliveryDay : Int
  status : ClaimStatus
  messageId : Option String
  createdAt : Int
  updatedAt : Int
  deriving DecidableEq

/-- A row of `delivery_attempts`. -/
structure AttemptRow where
  channel : Channel
  queueIds : List String
  phase : Status
  providerMessageId : Option String
  errorCode : Option String
  finishedAt : Option Int

/-- A row of `subscriptions`. -/
structure SubscriptionRow where
  email : String
  venueIds : List String
  startTime : Nat
  endTime : Nat
  weekdayMask : Nat
  durationDays : Nat
  termCode : String
  autoRenew : Bool
  dedupeKey : Option String
  activeUntil : Int
  active : Bool
  createdAt : Int
  updatedAt : Int

/-- A row of `user_delivery_tiers`. -/
structure TierRow where
  tier : Tier
  revokedAt : Option Int

/-- A row of `notification_date_pauses`, keyed by email and booking date. -/
structure PauseRow where
  paused : Bool
  createdAt : Int
  updatedAt : Int

/-- A row of `observed_slots`, keyed by event key. -/
structure SlotRow where
  venueId : String
  courtName : String
  bookingDate : Int
  startTime : Nat
  endTime : Nat
  firstObservedAt : Int
  lastObservedAt : Int

/-- A row of `observation_state`, keyed by observation key. -/
structure ObservationRow where
  venueId : String
  fingerprint : String
  subscriptionGeneration : Nat
  lastSeenAt : Int
  lastMatchedAt : Option Int
  updatedAt : Int
  healthy : Bool

/-- A row of `venue_status`. -/
structure VenueStatusRow where
  venueName : String
  healthy : Bool
  lastInspectionAt : Option Int
  lastNotificationAt : Option Int
  lastError : Option String
  updatedAt : Int

/-- The singleton row of `runtime_control`. -/
structure ControlRow where
  deliveryEnabled : Bool
  wechatEnabled : Bool
  activatedAt : Option Int
  deploymentCommit : String
  phase : String
  updatedAt : Int

/-- Statuses of a WeChat outbox row. -/
inductive WechatStatus
  | pending
  | retry
  | processing
  | dispatching
  | sent
  | failed
  | expired
  | cancelled
  | submissionUnknown
  deriving DecidableEq

/-- A row of `wechat_outbox`. -/
structure WechatRow where
  venueId : String
  receiver : String
  deviceName : String
  message : String
  eventKeys : List String
  status : WechatStatus
  attemptCount : Nat
  nextAttemptAt : Int
  expiresAt : Int
  leaseOwner : Option String
  leaseUntil : Option Int
  outboundMessage : Option String
  programId : Option String
  sentAt : Option Int
  lastError : Option String
  createdAt : Int
  updatedAt : Int

/-! ## Observations -/

/-- A validated slot; times are minutes of the day. -/
structure Slot where
  bookingDate : Int
  courtName : String
  startTime : Nat
  endTime : Nat
  deriving DecidableEq

/-- A validated observation of one scope of a venue. -/
structure Observation where
  venueId : String
  venueName : String
  scope : String
  healthy : Bool
  checkedAt : Int
  error : Option String
  slots : List Slot
  deriving DecidableEq

/-! ## Snapshots -/

/-- The tables as one statement of one transaction reads them. -/
structure Snapshot where
  outbox : Channel → Table String OutboxRow
  claims : Table String ClaimRow
  attempts : Table String AttemptRow
  subscriptions : Table String SubscriptionRow
  subscriptionVenues : Table (String × String) Unit
  tiers : Table String TierRow
  generations : Table String Nat
  pauses : Table (String × Int) PauseRow
  slots : Table String SlotRow
  availability : Table (String × String) Int
  observations : Table String ObservationRow
  venueStatus : Table String VenueStatusRow
  events : Table (String × String) Int
  control : Table Unit ControlRow
  wechat : Table String WechatRow
  cooldowns : Table (String × String) Int

namespace Snapshot

/-- The email's tier row is an unrevoked priority tier. -/
def hasPriority (snapshot : Snapshot) (email : String) : Bool :=
  match snapshot.tiers.row email with
  | some row => row.tier = .priority && row.revokedAt.isNone
  | none => false

/-- The tier text that the queries derive from `user_delivery_tiers`. -/
def tierOf (snapshot : Snapshot) (email : String) : Tier :=
  if snapshot.hasPriority email then .priority else .standard

/-- `s.active AND s.active_until > now AND (NOT s.auto_renew OR priority)`. -/
def eligible (snapshot : Snapshot) (subscription : SubscriptionRow) (now : Int) : Bool :=
  subscription.active && decide (now < subscription.activeUntil) &&
    (!subscription.autoRenew || snapshot.hasPriority subscription.email)

/-- A pause rule of the email and booking date is in force. -/
def isPaused (snapshot : Snapshot) (email : String) (bookingDate : Int) : Bool :=
  match snapshot.pauses.row (email, bookingDate) with
  | some row => row.paused
  | none => false

/-- The instant a stored slot starts. -/
def slotStart (slot : SlotRow) : Int :=
  shanghaiInstant slot.bookingDate slot.startTime

/-- Some scope saw the event key within the last 15 minutes. -/
def seenRecently (snapshot : Snapshot) (eventKey : String) (now : Int) : Bool :=
  snapshot.availability.rows.any fun entry =>
    entry.1.2 = eventKey && decide (now - minutes 15 < entry.2)

/-- A delivery attempt of the row is in a phase other than `retry` and `failed`. -/
def attemptedBeyondRetry (snapshot : Snapshot) (rowId : String) : Bool :=
  snapshot.attempts.rows.any fun entry =>
    entry.2.channel = .subscriber && decide (rowId ∈ entry.2.queueIds) &&
      !(entry.2.phase = .retry || entry.2.phase = .failed)

/-- Delivery is switched on in `runtime_control`. -/
def deliveryEnabled (snapshot : Snapshot) : Bool :=
  match snapshot.control.row () with
  | some row => row.deliveryEnabled
  | none => false

end Snapshot

end TennisAlerts.HostCore
