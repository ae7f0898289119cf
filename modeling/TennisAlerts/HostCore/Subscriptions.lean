import TennisAlerts.Database.Discipline
import TennisAlerts.HostCore.Api
import TennisAlerts.HostCore.Worker

/-!
# Subscriptions under their unique index

`create_subscription`, `cancel_subscription`, the tier part of `redeem_priority` and
the subscription part of `_maintenance` over a server that enforces
`subscriptions_active_dedupe_idx`.  The generations of the venues and the
notifications are left out.  The history records created subscriptions and
violations of a unique index.
-/

namespace TennisAlerts.HostCore.Subscriptions

open TennisAlerts.Database TennisAlerts.Concurrent

/-! ## Data -/

inductive TableName
  | subscriptions
  | venues
  | tiers
  deriving DecidableEq

/-- Subscriptions by identifier, `subscription_venues` by both columns, tiers by
email. -/
abbrev subscribing : Schema where
  Table := TableName
  Key
    | .subscriptions => String
    | .venues => String × String
    | .tiers => String
  Row
    | .subscriptions => SubscriptionRow
    | .venues => Unit
    | .tiers => TierRow
  decideTable := inferInstance
  decideKey
    | .subscriptions | .tiers => inferInstanceAs (DecidableEq String)
    | .venues => inferInstanceAs (DecidableEq (String × String))

/-- The advisory locks.  A request to create a subscription is marked by its email
and its clock reading behind the lock of the email, so that a constraint can name
it; the mark never waits. -/
inductive LockKey
  | delivery
  | subscriptions (number : Int)
  | creating (email : String) (now : Int)
  deriving DecidableEq

inductive Event
  | created (email subscriptionId : String) (now : Int)
  | violated (email : String)
  deriving DecidableEq

/-- The statements that a constraint can speak about. -/
inductive Label
  | other
  | duplicateCheck (email dedupeKey : String) (now : Int)
  | renewal
  | promotion (email : String)

instance : Inhabited Label := ⟨.other⟩

inductive Input
  | none
  | text (value : String)

/-- The hashes and the limits of the settings. -/
structure Context where
  hashtext : String → Int
  sha256 : String → String
  limits : SubscriptionLimits

abbrev SubscriptionServer := Server subscribing LockKey Event

abbrev SubscriptionScript := ServerScript subscribing LockKey Event Input Label

open ServerScript

/-- `str(uuid.uuid4())`. -/
def drawText : SubscriptionScript String :=
  await (fun | .text value => some value | .none => none) ""

/-- `pg_advisory_xact_lock(hashtext('zacks-subscriptions:' || email))`. -/
def subscriptionLock (context : Context) (email : String) : LockKey :=
  .subscriptions (context.hashtext ("zacks-subscriptions:" ++ email))

/-! ## Creation -/

/-- The tier that a row of `user_delivery_tiers` gives. -/
def tierOfRow (row : Option TierRow) : Tier :=
  match row with
  | some row => if row.tier = .priority ∧ row.revokedAt = none then .priority else .standard
  | none => .standard

/-- The fields of a request, with the venues stripped and the times parsed. -/
structure SubscriptionPayload where
  venueIds : List String
  startTime : Nat
  endTime : Nat
  weekdays : List Nat
  termCode : String

/-- `weekday_mask`. -/
def weekdayMask (weekdays : List Nat) : Nat :=
  weekdays.foldl (fun mask weekday => mask ||| 2 ^ (weekday - 1)) 0

/-- `validate_subscription`, or `none` where it raises. -/
def validateSubscription (payload : SubscriptionPayload) (tier : Tier) :
    Option SubscriptionInput :=
  if payload.venueIds ≠ [] ∧ payload.venueIds.Nodup ∧
      payload.venueIds.all (HostCore.venueIds.contains ·) ∧ payload.startTime < payload.endTime ∧
      payload.weekdays ≠ [] ∧ payload.weekdays.all (fun weekday => 1 ≤ weekday && weekday ≤ 7) ∧
      termAllowed tier payload.termCode then
    some ⟨payload.venueIds.insertionSort (· ≤ ·), payload.startTime, payload.endTime,
      weekdayMask payload.weekdays, payload.termCode⟩
  else none

/-- `subscription_dedupe_key`. -/
def subscriptionDedupeKey (context : Context) (email : String) (input : SubscriptionInput) :
    String :=
  context.sha256 ("|".intercalate [email, ",".intercalate input.venueIds,
    clockText input.startTime, clockText input.endTime, toString input.weekdayMask])

/-- An active subscription of the email whose term has not ended. -/
def unexpired (email : String) (now : Int) (row : SubscriptionRow) : Bool :=
  decide (row.email = email) && row.active && decide (now < row.activeUntil)

def activeCount (email : String) (now : Int) (snapshot : Database.Snapshot subscribing) : Nat :=
  (snapshot .subscriptions).rows.countP fun entry => unexpired email now entry.2

/-- The query for an equal subscription. -/
def existing (email dedupeKey : String) (now : Int) (snapshot : Database.Snapshot subscribing) :
    Bool :=
  (snapshot .subscriptions).rows.any fun entry =>
    decide (entry.2.dedupeKey = some dedupeKey) && unexpired email now entry.2

/-- `subscriptions_active_dedupe_idx` has an entry for the email and the key. -/
def indexed (email dedupeKey : String) (snapshot : Database.Snapshot subscribing) : Bool :=
  (snapshot .subscriptions).rows.any fun entry =>
    decide (entry.2.email = email) && decide (entry.2.dedupeKey = some dedupeKey) && entry.2.active

/-- The database raises an `IntegrityError`. -/
def violation (tx : Nat) (email : String) : SubscriptionScript Unit := do
  rollback tx
  commit tx [.violated email]

/-- The loop over the venues of a new subscription. -/
def insertVenues (tx : Nat) (email subscriptionId : String) :
    List String → SubscriptionScript Unit → SubscriptionScript Unit
  | [], rest => rest
  | venueId :: venueIds, rest => do
      let rejected ← @insertUnique subscribing LockKey Event Input Label _ tx .venues
        (subscriptionId, venueId) () fun snapshot =>
          ((snapshot .venues).row (subscriptionId, venueId)).isSome
      if rejected then violation tx email
      else insertVenues tx email subscriptionId venueIds rest

/-- The `INSERT` statements of `create_subscription`. -/
def insertSubscription (tx : Nat) (email dedupeKey : String) (now : Int) (row : SubscriptionRow) :
    SubscriptionScript Unit := do
  let subscriptionId ← drawText
  let rejected ← @insertUnique subscribing LockKey Event Input Label _ tx .subscriptions
    subscriptionId row (indexed email dedupeKey)
  if rejected then violation tx email
  else
    let created : SubscriptionScript Unit := commit tx [.created email subscriptionId now]
    insertVenues tx email subscriptionId row.venueIds created

/-- The queries of `create_subscription` and what it does with their answers. -/
def countSubscriptions (context : Context) (tx : Nat) (email : String)
    (payload : SubscriptionPayload) (now : Int) : SubscriptionScript Unit := do
  let tier ← select tx fun snapshot => tierOfRow ((snapshot .tiers).row email)
  match validateSubscription payload tier with
  | none => rollback tx
  | some input =>
      let count ← select tx (activeCount email now)
      require (decide (count < context.limits.of tier)) tx do
        let dedupeKey := subscriptionDedupeKey context email input
        let found ← mark (.duplicateCheck email dedupeKey now)
          (select tx (existing email dedupeKey now))
        require (!found) tx (match resolveTerm input.termCode now with
          | none => rollback tx
          | some term => insertSubscription tx email dedupeKey now
              (newSubscription email input dedupeKey term now))

/-- `create_subscription` for the email of an identity. -/
def createSubscription (context : Context) (tx : Nat) (email : String)
    (payload : SubscriptionPayload) : SubscriptionScript Unit := do
  let now ← utcNow
  lock tx (subscriptionLock context email)
  @updateRows subscribing LockKey Event Input Label _ tx .subscriptions fun _ _ row =>
    endLapsed email now row
  lock tx (.creating email now)
  countSubscriptions context tx email payload now

/-! ## The other requests -/

/-- `active = false`. -/
def endRow (now : Int) (row : SubscriptionRow) : SubscriptionRow :=
  { row with active := false, updatedAt := now }

/-- `cancel_subscription` for the email of an identity, without the notifications. -/
def cancelSubscription (context : Context) (tx : Nat) (email subscriptionId : String) :
    SubscriptionScript Unit := do
  let now ← utcNow
  lock tx .delivery
  lock tx (subscriptionLock context email)
  match ← @changeRow subscribing LockKey Event Input Label _ tx .subscriptions subscriptionId
      fun row => if row.email = email ∧ row.active then some row else none with
  | none => rollback tx
  | some _ =>
      let _ ← @changeRow subscribing LockKey Event Input Label _ tx .subscriptions subscriptionId
        fun row => if row.email = email then some (endRow now row) else none
      commit tx []

/-- The tier part of `redeem_priority` with a valid code. -/
def redeemPriority (tx : Nat) (email : String) : SubscriptionScript Unit := do
  @upsert subscribing LockKey Event Input Label _ tx .tiers email fun _ =>
    { tier := .priority, revokedAt := none }
  mark (.promotion email) (commit tx [])

/-- The renewal of `_maintenance`. -/
def renewRow (now : Int) (snapshot : Database.Snapshot subscribing) (row : SubscriptionRow) :
    Option SubscriptionRow :=
  if row.active ∧ row.autoRenew ∧ row.activeUntil ≤ now + days 45 ∧
      tierOfRow ((snapshot .tiers).row row.email) = .priority then
    some { row with activeUntil := now + days 90, updatedAt := now }
  else none

/-- The subscription part of `_maintenance`. -/
def maintenance (tx : Nat) : SubscriptionScript Unit := do
  let now ← utcNow
  @updateRows subscribing LockKey Event Input Label _ tx .subscriptions fun snapshot _ row =>
    renewRow now snapshot row
  @updateRows subscribing LockKey Event Input Label _ tx .subscriptions fun _ _ row =>
    endSubscription now row
  mark .renewal (commit tx [])

/-! ## The system -/

inductive SubscriptionOperation (context : Context) (tx : Nat) : SubscriptionScript Unit → Prop
  | createSubscription (email : String) (payload : SubscriptionPayload) :
      SubscriptionOperation context tx (createSubscription context tx email payload)
  | cancelSubscription (email subscriptionId : String) :
      SubscriptionOperation context tx (cancelSubscription context tx email subscriptionId)
  | redeemPriority (email : String) :
      SubscriptionOperation context tx (redeemPriority tx email)
  | maintenance : SubscriptionOperation context tx (maintenance tx)

/-- Any number of requests and maintenance runs over one server. -/
def subscriptionSystem (context : Context) : System SubscriptionServer Input Label Nat :=
  Discipline.serverSystem (SubscriptionOperation context)

end TennisAlerts.HostCore.Subscriptions
