import TennisAlerts.HostCore.Effects
import TennisAlerts.HostCore.Worker
import TennisAlerts.HostCore.Api
import TennisAlerts.HostCore.Service

/-!
# What the background work can do to the host

Lease recovery, expiry, reconciliation, maintenance, the subscription endpoints
and the ingest never send anything.  The relation `BackgroundStep` lists every
change one of their actions can make; a property of all runs looks at these
cases once instead of at every statement of every script.
-/

namespace TennisAlerts.HostCore

open TennisAlerts.Concurrent TennisAlerts.Database

/-! ## Changes of single rows -/

/-- The versions of an outbox row are about the same match. -/
structure SameSubject (row new : OutboxRow) : Prop where
  email : new.email = row.email
  subscriptionId : new.subscriptionId = row.subscriptionId
  eventKey : new.eventKey = row.eventKey

/-- The change of an outbox row that keeps its content: what it is about and
what the provider said when it was submitted. -/
structure SameContent (row new : OutboxRow) : Prop where
  subject : SameSubject row new
  messageId : new.messageId = row.messageId
  submittedAt : new.submittedAt = row.submittedAt

/-- Status, owner and claim after a background change. -/
inductive StatusChange (row new : OutboxRow) : Prop
  | interrupted
      (was : row.status = .dispatching) (is : new.status = .submissionUnknown)
      (released : new.leaseOwner = none)
      (claim : new.deliveryClaimId = row.deliveryClaimId)
  | stopped
      (was : row.status.open = true)
      (is : new.status = .retry ∨ new.status = .expired ∨ new.status = .cancelled)
      (owner : new.leaseOwner = none ∨ new.leaseOwner = row.leaseOwner)
      (claim : new.deliveryClaimId = row.deliveryClaimId)
  | restored
      (was : row.status = .cancelled) (is : new.status = .pending)
      (released : new.leaseOwner = none)
      (claim : new.deliveryClaimId = none)
  | reported
      (was : row.status = .submitted)
      (is : new.status = .submitted ∨ new.status = .delivered ∨ new.status = .failed ∨
        new.status = .deliveryUnknown)
      (owner : new.leaseOwner = row.leaseOwner)
      (claim : new.deliveryClaimId = row.deliveryClaimId)

/-- A background change of an outbox row. -/
structure OutboxMove (row new : OutboxRow) : Prop where
  content : SameContent row new
  change : StatusChange row new

theorem recoverDispatching_move {now : Int} {row new : OutboxRow}
    (changed : recoverDispatching now row = some new) : OutboxMove row new := by
  simp only [recoverDispatching, Option.ite_none_right_eq_some, Option.some.injEq] at changed
  obtain ⟨⟨was, _⟩, rfl⟩ := changed
  exact ⟨⟨⟨rfl, rfl, rfl⟩, rfl, rfl⟩, .interrupted was rfl rfl rfl⟩

theorem retryProcessing_move {now : Int} {row new : OutboxRow}
    (changed : retryProcessing now row = some new) : OutboxMove row new := by
  simp only [retryProcessing, Option.ite_none_right_eq_some, Option.some.injEq] at changed
  obtain ⟨⟨was, _⟩, rfl⟩ := changed
  have isOpen : row.status.open = true := by rw [was]; rfl
  exact ⟨⟨⟨rfl, rfl, rfl⟩, rfl, rfl⟩, .stopped isOpen (Or.inl rfl) (Or.inl rfl) rfl⟩

theorem expireSystem_move {now : Int} {row new : OutboxRow}
    (changed : expireSystem now row = some new) : OutboxMove row new := by
  simp only [expireSystem, Option.ite_none_right_eq_some, Option.some.injEq] at changed
  obtain ⟨⟨isOpen, _⟩, rfl⟩ := changed
  exact ⟨⟨⟨rfl, rfl, rfl⟩, rfl, rfl⟩,
    .stopped isOpen (Or.inr (Or.inl rfl)) (Or.inr rfl) rfl⟩

theorem expireSubscriber_move {now : Int} {snapshot : Snapshot} {row new : OutboxRow}
    (changed : expireSubscriber now snapshot row = some new) : OutboxMove row new := by
  simp only [expireSubscriber, Option.ite_none_right_eq_some, Option.some.injEq] at changed
  obtain ⟨⟨isOpen, _⟩, rfl⟩ := changed
  exact ⟨⟨⟨rfl, rfl, rfl⟩, rfl, rfl⟩,
    .stopped isOpen (Or.inr (Or.inl rfl)) (Or.inr rfl) rfl⟩

theorem expireAtDispatch_move {channel : Channel} {claimId : Option String} {worker : String}
    {now : Int} {ids : List String} {id : String} {row new : OutboxRow}
    (changed : expireAtDispatch channel claimId worker now ids id row = some new) :
    OutboxMove row new := by
  simp only [expireAtDispatch, Option.ite_none_right_eq_some, Option.some.injEq] at changed
  obtain ⟨⟨_, _, was, _⟩, rfl⟩ := changed
  have isOpen : row.status.open = true := by rw [was]; rfl
  exact ⟨⟨⟨rfl, rfl, rfl⟩, rfl, rfl⟩,
    .stopped isOpen (Or.inr (Or.inl rfl)) (Or.inl rfl) rfl⟩

theorem cancelPaused_move {email : String} {dates : List Int} {now : Int}
    {snapshot : Snapshot} {id : String} {row new : OutboxRow}
    (changed : cancelPaused email dates now snapshot id row = some new) :
    OutboxMove row new := by
  simp only [cancelPaused, pausable, Option.ite_none_right_eq_some, Option.some.injEq,
    Bool.and_eq_true] at changed
  obtain ⟨⟨⟨⟨⟨_, isOpen⟩, _⟩, _⟩, _⟩, rfl⟩ := changed
  exact ⟨⟨⟨rfl, rfl, rfl⟩, rfl, rfl⟩,
    .stopped isOpen (Or.inr (Or.inr rfl)) (Or.inl rfl) rfl⟩

theorem cancelOpenRow_move {subscriptionId : String} {now : Int} {row new : OutboxRow}
    (changed : cancelOpenRow subscriptionId now row = some new) : OutboxMove row new := by
  simp only [cancelOpenRow, Option.ite_none_right_eq_some, Option.some.injEq] at changed
  obtain ⟨⟨_, isOpen⟩, rfl⟩ := changed
  exact ⟨⟨⟨rfl, rfl, rfl⟩, rfl, rfl⟩,
    .stopped isOpen (Or.inr (Or.inr rfl)) (Or.inl rfl) rfl⟩

theorem restorePaused_move {subscriptionId eventKey : String} {checkedAt now : Int}
    {tier : Tier} {snapshot : Snapshot} {id : String} {row new : OutboxRow}
    (changed : restorePaused subscriptionId eventKey checkedAt now tier snapshot id row =
      some new) : OutboxMove row new := by
  simp only [restorePaused, Option.ite_none_right_eq_some, Option.some.injEq] at changed
  obtain ⟨⟨_, _, was, _⟩, rfl⟩ := changed
  exact ⟨⟨⟨rfl, rfl, rfl⟩, rfl, rfl⟩, .restored was rfl rfl rfl⟩

theorem leaseProviderCheck_move {messageId : String} {until_ : Int} {row new : OutboxRow}
    (changed : leaseProviderCheck messageId until_ row = some new) : OutboxMove row new := by
  simp only [leaseProviderCheck, Option.ite_none_right_eq_some, Option.some.injEq] at changed
  obtain ⟨⟨_, was⟩, rfl⟩ := changed
  exact ⟨⟨⟨rfl, rfl, rfl⟩, rfl, rfl⟩, .reported was (Or.inl was) rfl rfl⟩

theorem applyReport_move {channel : Channel} {messageId : String} {checkCount : Nat}
    {report : ProviderReport} {now : Int} {row new : OutboxRow}
    (changed : applyReport channel messageId checkCount report now row = some new) :
    OutboxMove row new := by
  simp only [applyReport, Option.ite_none_right_eq_some] at changed
  obtain ⟨⟨_, was⟩, changed⟩ := changed
  cases report with
  | pending reason =>
      cases changed
      exact ⟨⟨⟨rfl, rfl, rfl⟩, rfl, rfl⟩, .reported was (Or.inl was) rfl rfl⟩
  | delivered deliveredAt =>
      cases changed
      exact ⟨⟨⟨rfl, rfl, rfl⟩, rfl, rfl⟩, .reported was (Or.inr (Or.inl rfl)) rfl rfl⟩
  | failed reason =>
      cases changed
      exact ⟨⟨⟨rfl, rfl, rfl⟩, rfl, rfl⟩,
        .reported was (Or.inr (Or.inr (Or.inl rfl))) rfl rfl⟩

theorem expireProviderCheck_move {channel : Channel} {cutoff now : Int}
    {row new : OutboxRow} (changed : expireProviderCheck channel cutoff now row = some new) :
    OutboxMove row new := by
  simp only [expireProviderCheck, Option.ite_none_right_eq_some, Option.some.injEq] at changed
  obtain ⟨⟨was, _⟩, rfl⟩ := changed
  exact ⟨⟨⟨rfl, rfl, rfl⟩, rfl, rfl⟩,
    .reported was (Or.inr (Or.inr (Or.inr rfl))) rfl rfl⟩

/-- A background change of a claim: a reservation ends unsent or unknown. -/
structure ClaimMove (claim new : ClaimRow) : Prop where
  was : claim.status = .reserved
  is : new.status = .unknown ∨ new.status = .released
  email : new.email = claim.email
  deliveryDay : new.deliveryDay = claim.deliveryDay
  messageId : new.messageId = claim.messageId

theorem recoverClaim_move {now : Int} {snapshot : Snapshot} {id : String}
    {claim new : ClaimRow} (changed : recoverClaim now snapshot id claim = some new) :
    ClaimMove claim new := by
  simp only [recoverClaim, Option.ite_none_right_eq_some, Option.some.injEq] at changed
  obtain ⟨⟨was, _⟩, rfl⟩ := changed
  exact ⟨was, Or.inl rfl, rfl, rfl, rfl⟩

theorem releaseStaleClaim_move {now : Int} {claim new : ClaimRow}
    (changed : releaseStaleClaim now claim = some new) : ClaimMove claim new := by
  simp only [releaseStaleClaim, Option.ite_none_right_eq_some, Option.some.injEq] at changed
  obtain ⟨⟨was, _⟩, rfl⟩ := changed
  exact ⟨was, Or.inr rfl, rfl, rfl, rfl⟩

theorem releaseUnusedClaim_move {claimIds : List String} {now : Int} {snapshot : Snapshot}
    {id : String} {claim new : ClaimRow}
    (changed : releaseUnusedClaim claimIds now snapshot id claim = some new) :
    ClaimMove claim new := by
  simp only [releaseUnusedClaim, Option.ite_none_right_eq_some, Option.some.injEq] at changed
  obtain ⟨⟨_, was, _⟩, rfl⟩ := changed
  exact ⟨was, Or.inr rfl, rfl, rfl, rfl⟩

/-- A change of a subscription that never reactivates it. -/
structure SubscriptionMove (row new : SubscriptionRow) : Prop where
  email : new.email = row.email
  active : new.active = true → row.active = true

theorem renewSubscription_move {now : Int} {snapshot : Snapshot} {row new : SubscriptionRow}
    (changed : renewSubscription now snapshot row = some new) : SubscriptionMove row new := by
  simp only [renewSubscription, Option.ite_none_right_eq_some, Option.some.injEq] at changed
  obtain ⟨_, rfl⟩ := changed
  exact ⟨rfl, fun active => active⟩

theorem endSubscription_move {now : Int} {row new : SubscriptionRow}
    (changed : endSubscription now row = some new) : SubscriptionMove row new := by
  simp only [endSubscription, Option.ite_none_right_eq_some, Option.some.injEq] at changed
  obtain ⟨_, rfl⟩ := changed
  exact ⟨rfl, fun active => nomatch active⟩

theorem endLapsed_move {email : String} {now : Int} {row new : SubscriptionRow}
    (changed : endLapsed email now row = some new) : SubscriptionMove row new := by
  simp only [endLapsed, Option.ite_none_right_eq_some, Option.some.injEq] at changed
  obtain ⟨_, rfl⟩ := changed
  exact ⟨rfl, fun active => nomatch active⟩

theorem deactivate_move {subscriptionId email : String} {now : Int} {id : String}
    {row new : SubscriptionRow} (changed : deactivate subscriptionId email now id row = some new) :
    SubscriptionMove row new := by
  simp only [deactivate, Option.ite_none_right_eq_some, Option.some.injEq] at changed
  obtain ⟨_, rfl⟩ := changed
  exact ⟨rfl, fun active => nomatch active⟩

/-- The version that a row lock puts: the one that is there. -/
def lockRow (key : String) (condition : SubscriptionRow → Bool) (id : String)
    (row : SubscriptionRow) : Option SubscriptionRow :=
  if id = key ∧ condition row then some row else none

theorem lockStatement_eq (key : String) (condition : SubscriptionRow → Bool) :
    (fun id row => if id = key ∧ condition row then some (some row) else none) =
      fun id row => (lockRow key condition id row).map some := by
  funext id row
  unfold lockRow
  split <;> rfl

theorem lockRow_move {key : String} {condition : SubscriptionRow → Bool} {id : String}
    {row new : SubscriptionRow} (changed : lockRow key condition id row = some new) :
    SubscriptionMove row new := by
  simp only [lockRow, Option.ite_none_right_eq_some, Option.some.injEq] at changed
  obtain ⟨_, rfl⟩ := changed
  exact ⟨rfl, fun active => active⟩

/-! ## Changes of the host -/

/-- One change that the background work of an actor can make. -/
inductive BackgroundStep (actor : Actor) (before : Host) : Host → Prop
  | idle : BackgroundStep actor before before
  | lock (key : LockKey) (mode : LockMode)
      (free : before.mayLock (.work actor) key mode = true)
      (unfenced : key = .delivery → mode = .shared) :
      BackgroundStep actor before
        { before with locks := ⟨key, mode, .work actor⟩ :: before.locks }
  | outbox (channel : Channel) (statement : String → OutboxRow → Option OutboxRow)
      (writable : (before.outbox channel).writable (.work actor)
        (fun id row => (statement id row).map some) = true)
      (moves : ∀ id row new, statement id row = some new → OutboxMove row new) :
      BackgroundStep actor before ((TableRef.outbox channel).put
        ((before.outbox channel).write (.work actor)
          fun id row => (statement id row).map some) before)
  | claims (statement : String → ClaimRow → Option ClaimRow)
      (writable : before.claims.writable (.work actor)
        (fun id row => (statement id row).map some) = true)
      (moves : ∀ id row new, statement id row = some new → ClaimMove row new) :
      BackgroundStep actor before { before with
        claims := before.claims.write (.work actor) fun id row => (statement id row).map some }
  | subscriptions (statement : String → SubscriptionRow → Option SubscriptionRow)
      (writable : before.subscriptions.writable (.work actor)
        (fun id row => (statement id row).map some) = true)
      (moves : ∀ id row new, statement id row = some new → SubscriptionMove row new) :
      BackgroundStep actor before { before with
        subscriptions := before.subscriptions.write (.work actor)
          fun id row => (statement id row).map some }
  | newSubscription (id : String) (row : SubscriptionRow)
      (absent : (before.subscriptions.cell id).view (.work actor) = none)
      (free : (before.subscriptions.cell id).free (.work actor) = true) :
      BackgroundStep actor before { before with
        subscriptions := before.subscriptions.insert (.work actor) id row }
  | attempts (table : VersionedTable Tx String AttemptRow) :
      BackgroundStep actor before { before with attempts := table }
  | subscriptionVenues (table : VersionedTable Tx (String × String) Unit) :
      BackgroundStep actor before { before with subscriptionVenues := table }
  | tiers (table : VersionedTable Tx String TierRow) :
      BackgroundStep actor before { before with tiers := table }
  | generations (table : VersionedTable Tx String Nat) :
      BackgroundStep actor before { before with generations := table }
  | notified (table : VersionedTable Tx String VenueStatusRow) :
      BackgroundStep actor before { before with venueStatus := table }
  | commit : BackgroundStep actor before (before.commit (.work actor))
  | redeemed (email : String) :
      BackgroundStep actor before ((before.commit (.work actor)).record (.redeemed email))

namespace BackgroundStep

open Script

variable {actor : Actor}

theorem does_outbox {channel : Channel} {label : Label}
    {statement : Snapshot → String → OutboxRow → Option OutboxRow}
    (moves : ∀ snapshot id row new, statement snapshot id row = some new →
      OutboxMove row new) :
    Does (BackgroundStep actor) (update (.outbox channel) (.work actor) statement label) := by
  apply does_update
  intro before writable
  exact .outbox channel _ writable (moves _)

theorem does_claims {statement : Snapshot → String → ClaimRow → Option ClaimRow}
    (moves : ∀ snapshot id row new, statement snapshot id row = some new →
      ClaimMove row new) :
    Does (BackgroundStep actor) (update .claims (.work actor) statement) := by
  apply does_update
  intro before writable
  exact .claims _ writable (moves _)

theorem does_subscriptions
    {statement : Snapshot → String → SubscriptionRow → Option SubscriptionRow}
    (moves : ∀ snapshot id row new, statement snapshot id row = some new →
      SubscriptionMove row new) :
    Does (BackgroundStep actor) (update .subscriptions (.work actor) statement) := by
  apply does_update
  intro before writable
  exact .subscriptions _ writable (moves _)

/-- Locking a subscription row puts the version that is there. -/
theorem does_lockSubscription {id : String} {condition : SubscriptionRow → Bool} :
    Does (BackgroundStep actor)
      (selectRowForUpdate .subscriptions (.work actor) id condition) := by
  apply does_selectRowForUpdate
  intro before writable
  rw [lockStatement_eq] at writable ⊢
  apply BackgroundStep.subscriptions _ writable
  exact fun _ _ _ => lockRow_move

theorem does_utcNow : Does (BackgroundStep actor) utcNow :=
  does_observe fun _ => .idle

theorem does_select {α : Type} {tx : Tx} {query : Snapshot → α} {label : Label} :
    Does (BackgroundStep actor) (select tx query label) :=
  does_observe fun _ => .idle

theorem does_finish : Does (BackgroundStep actor) (Script.commit (.work actor)) :=
  does_commit fun _ => .commit

theorem does_advisory {key : LockKey} {mode : LockMode}
    (unfenced : key = .delivery → mode = .shared) :
    Does (BackgroundStep actor) (Script.lock (.work actor) key mode) :=
  does_lock fun _ free => .lock key mode free unfenced

theorem does_incrementGenerations {venues : List String} :
    Does (BackgroundStep actor) (incrementGenerations actor venues) := by
  apply does_forM
  intro venueId _
  apply Does.bind (does_upsert fun before _ => .generations _)
  exact fun _ => does_pure _

/-! ### Scripts -/

theorem does_releaseExpiredLeases :
    Does (BackgroundStep actor) (releaseExpiredLeases actor) := by
  apply Does.bind does_utcNow
  intro now
  apply Does.bind (does_outbox fun _ _ _ _ => recoverDispatching_move)
  intro _
  apply Does.bind (does_outbox fun _ _ _ _ => recoverDispatching_move)
  intro _
  apply Does.bind (does_claims fun _ _ _ _ => recoverClaim_move)
  intro _
  apply Does.bind (does_outbox fun _ _ _ _ => retryProcessing_move)
  intro _
  apply Does.bind (does_outbox fun _ _ _ _ => retryProcessing_move)
  intro _
  apply Does.bind (does_claims fun _ _ _ _ => releaseStaleClaim_move)
  intro _
  exact does_finish

theorem does_expireUnusable : Does (BackgroundStep actor) (expireUnusable actor) := by
  apply Does.bind does_utcNow
  intro now
  apply Does.bind (does_outbox fun _ _ _ _ => expireSystem_move)
  intro _
  apply Does.bind (does_outbox fun _ _ _ _ => expireSubscriber_move)
  intro _
  exact does_finish

theorem does_maintenance : Does (BackgroundStep actor) (maintenance actor) := by
  apply Does.bind does_utcNow
  intro now
  apply Does.bind (does_subscriptions fun _ _ _ _ => renewSubscription_move)
  intro _
  apply Does.bind (does_outbox fun _ _ _ _ => expireProviderCheck_move)
  intro _
  apply Does.bind (does_outbox fun _ _ _ _ => expireProviderCheck_move)
  intro _
  apply Does.bind (does_subscriptions fun _ _ _ _ => endSubscription_move)
  intro _
  exact does_finish

theorem does_nextSubscriberTarget {worker : String} :
    Does (BackgroundStep (.worker worker)) (nextSubscriberTarget worker) := by
  apply Does.bind does_utcNow
  intro now
  apply Does.bind does_select
  intro target
  apply Does.bind does_finish
  exact fun _ => does_pure _

theorem does_nextProviderCheck {worker : String} {channel : Channel} :
    Does (BackgroundStep (.worker worker)) (nextProviderCheck worker channel) := by
  apply Does.bind does_utcNow
  intro now
  apply Does.bind (does_advisory (by simp))
  intro _
  apply Does.bind does_select
  intro check
  cases check with
  | none =>
      apply Does.bind does_finish
      exact fun _ => does_pure _
  | some check =>
      apply Does.bind (does_outbox fun _ _ _ _ => leaseProviderCheck_move)
      intro _
      apply Does.bind does_finish
      exact fun _ => does_pure _

theorem does_deliveredVenues {worker messageId : String} {channel : Channel} :
    Does (BackgroundStep (.worker worker)) (deliveredVenues worker channel messageId) :=
  does_ite (fun _ => does_select) fun _ => does_pure _

theorem does_reconcileRow {worker : String} {channel : Channel} {check : ProviderCheck} :
    Does (BackgroundStep (.worker worker)) (reconcileRow worker channel check) := by
  apply Does.bind does_utcNow
  intro checkedAt
  apply Does.bind (does_awaitReport fun _ => .idle)
  intro report
  cases report with
  | pending reason =>
      apply Does.bind does_utcNow
      intro now
      apply Does.bind (does_outbox fun _ _ _ _ => applyReport_move)
      exact fun _ => does_finish
  | failed reason =>
      apply Does.bind (does_outbox fun _ _ _ _ => applyReport_move)
      exact fun _ => does_finish
  | delivered deliveredAt =>
      apply Does.bind does_deliveredVenues
      intro venues
      apply Does.bind (does_outbox fun _ _ _ _ => applyReport_move)
      intro _
      apply Does.bind (does_when fun _ => does_update fun before _ => .notified _)
      exact fun _ => does_finish

theorem does_reconcileLoop {worker : String} {channel : Channel} (rounds : Nat) :
    Does (BackgroundStep (.worker worker)) (reconcileLoop worker channel rounds) := by
  induction rounds with
  | zero => exact does_pure _
  | succ rounds ih =>
      apply Does.bind (does_awaitFlag fun _ => .idle)
      intro late
      apply does_ite
      · exact fun _ => does_pure _
      · intro _
        apply Does.bind does_nextProviderCheck
        intro check
        cases check with
        | none => exact does_pure _
        | some check =>
            apply Does.bind does_reconcileRow
            exact fun _ => ih

theorem does_reconcile {worker : String} :
    Does (BackgroundStep (.worker worker)) (reconcile worker) := by
  apply Does.bind (does_reconcileLoop reconcileBatch)
  exact fun _ => does_reconcileLoop reconcileBatch

theorem does_createSubscription {email dedupeKey : String} {input : SubscriptionInput}
    {limits : SubscriptionLimits} :
    Does (BackgroundStep actor)
      (createSubscription actor email input dedupeKey limits) := by
  apply Does.bind does_utcNow
  intro now
  apply Does.bind (does_advisory (by simp))
  intro _
  apply Does.bind (does_subscriptions fun _ _ _ _ => endLapsed_move)
  intro _
  apply Does.bind does_select
  intro tier
  apply Does.bind does_select
  intro current
  cases resolveTerm input.termCode now with
  | none => exact does_raise
  | some term =>
      apply does_ite
      · exact fun _ => does_raise
      · intro _
        apply Does.bind (does_freshId fun _ => .idle)
        intro id
        apply Does.bind
          (does_insert fun before absent free => .newSubscription id _ absent free)
        intro _
        apply Does.bind
          (does_forM _ fun venueId _ => does_insert fun before _ _ => .subscriptionVenues _)
        intro _
        apply Does.bind does_incrementGenerations
        exact fun _ => does_finish

theorem does_redeemPriority {email : String} :
    Does (BackgroundStep actor) (redeemPriority actor email) := by
  apply Does.bind (does_awaitFlag fun _ => .idle)
  intro valid
  apply does_ite
  · intro _
    apply Does.bind (does_upsert fun before _ => .tiers _)
    exact fun _ => does_commitRecording fun _ => .redeemed email
  · exact fun _ => does_raise

end BackgroundStep

/-! ## Ingest and queued emails -/

/-- One change that an ingest or a queued email can make. -/
inductive IngestStep (actor : Actor) (before : Host) : Host → Prop
  | background {after : Host} (step : BackgroundStep actor before after) :
      IngestStep actor before after
  | slots (observation : Observation) (slot : Slot) (eventKey : String) (now : Int)
      (free : (before.slots.cell eventKey).free (.work actor) = true) :
      IngestStep actor before { before with
        slots := before.slots.insert (.work actor) eventKey
          (upsertedSlot observation slot now ((before.slots.cell eventKey).view (.work actor))) }
  | availability (table : VersionedTable Tx (String × String) Int) :
      IngestStep actor before { before with availability := table }
  | observations (table : VersionedTable Tx String ObservationRow) :
      IngestStep actor before { before with observations := table }
  | events (table : VersionedTable Tx (String × String) Int) :
      IngestStep actor before { before with events := table }
  | notification (channel : Channel) (id : String) (row : OutboxRow)
      (absent : ((before.outbox channel).cell id).view (.work actor) = none)
      (free : ((before.outbox channel).cell id).free (.work actor) = true)
      (pending : row.status = .pending) (unleased : row.leaseOwner = none)
      (unsent : row.messageId = none) (unclaimed : row.deliveryClaimId = none) :
      IngestStep actor before ((TableRef.outbox channel).put
        ((before.outbox channel).insert (.work actor) id row) before)
  | commit (observation : Observation) :
      IngestStep actor before ((before.commit (.work actor)).record (.ingested observation))

namespace IngestStep

open Script

variable {actor : Actor}

theorem does_background {α : Type} {script : Script α}
    (does : Does (BackgroundStep actor) script) : Does (IngestStep actor) script :=
  does.mono fun _ _ => .background

theorem does_insertNotification {id : String} {row : OutboxRow}
    (pending : row.status = .pending) (unleased : row.leaseOwner = none)
    (unsent : row.messageId = none) (unclaimed : row.deliveryClaimId = none) :
    Does (IngestStep actor) (insertNotification actor id row) := by
  apply does_act
  · intro before input after acted
    dsimp only at acted
    split at acted
    · cases acted
    · split at acted
      · cases acted
        exact .background .idle
      · split at acted
        · rename_i absent
          obtain ⟨free, rfl⟩ := insertRow_eq_some acted
          exact .notification .subscriber id row (Option.isNone_iff_eq_none.mp absent) free pending
            unleased unsent unclaimed
        · cases acted
  · exact fun _ _ => does_pure _

theorem does_queueVerification {email code : String} :
    Does (IngestStep actor) (queueVerification actor email code) := by
  apply Does.bind (does_background BackgroundStep.does_utcNow)
  intro now
  apply Does.bind (does_freshId fun _ => .background .idle)
  intro id
  apply Does.bind (does_insert fun before absent free =>
    .notification .system id _ absent free rfl rfl rfl rfl)
  exact fun _ => does_background BackgroundStep.does_finish

theorem does_matchSubscription {observation : Observation} {slot : Slot} {eventKey : String}
    {rules : List ((String × Int) × PauseRow)} {now : Int}
    {subscription : ActiveSubscription} :
    Does (IngestStep actor)
      (matchSubscription actor observation slot eventKey rules now subscription) := by
  apply does_ite
  · intro _
    apply Does.bind
      (does_insertIfAbsent (fun _ => .background .idle) fun before _ _ => .events _)
    intro inserted
    apply does_ite
    · intro _
      apply Does.bind (does_freshId fun _ => .background .idle)
      exact fun id => does_insertNotification rfl rfl rfl rfl
    · intro _
      apply does_ite
      · intro _
        exact does_background (BackgroundStep.does_outbox fun _ _ _ _ => restorePaused_move)
      · exact fun _ => does_pure _
  · exact fun _ => does_pure _

theorem does_putAvailability {digests : Digests} {observation : Observation} {now : Int} :
    Does (IngestStep actor) (putAvailability actor digests observation now) := by
  apply does_forM
  intro slot _
  apply Does.bind (does_upsert fun before free => .slots observation slot _ now free)
  intro _
  exact does_insert fun before _ _ => .availability _

theorem does_acceptObservation {digests : Digests} {observation : Observation}
    {generation : Nat} {state : Option ObservationRow} {begun now : Int} :
    Does (IngestStep actor)
      (acceptObservation actor digests observation generation state begun now) := by
  apply Does.bind (does_delete fun before _ => .availability _)
  intro _
  apply Does.bind (does_when fun _ => does_putAvailability)
  intro _
  apply Does.bind (does_update fun before _ => .observations _)
  intro _
  apply Does.bind (does_background BackgroundStep.does_select)
  intro subscriptions
  apply Does.bind (does_background BackgroundStep.does_select)
  intro rules
  apply does_ite
  · intro _
    apply Does.bind (does_update fun before _ => .observations _)
    exact fun _ => does_commitRecording fun _ => .commit observation
  · intro _
    apply Does.bind (does_when fun _ => does_forM _ fun slot _ =>
      does_forM _ fun subscription _ => does_matchSubscription)
    intro _
    apply Does.bind (does_upsert fun before _ => .observations _)
    intro _
    apply Does.bind (does_update fun before _ => .observations _)
    exact fun _ => does_commitRecording fun _ => .commit observation

theorem does_ingestObservation {digests : Digests} {observation : Observation} :
    Does (IngestStep actor) (ingestObservation actor digests observation) := by
  apply Does.bind (does_background BackgroundStep.does_utcNow)
  intro begun
  apply Does.bind (does_background (BackgroundStep.does_advisory fun _ => rfl))
  intro _
  apply Does.bind (does_background BackgroundStep.does_utcNow)
  intro now
  apply Does.bind (does_background (BackgroundStep.does_advisory (by simp)))
  intro _
  apply Does.bind (does_upsert fun before _ => .background (.notified _))
  intro _
  apply Does.bind (does_background BackgroundStep.does_select)
  intro generation
  apply Does.bind (does_selectRowForUpdate fun before _ => .observations _)
  intro state
  apply does_ite
  · exact fun _ => does_commitRecording fun _ => .commit observation
  · exact fun _ => does_acceptObservation

end IngestStep

/-! ## Fences -/

/-- The history entries of the requests that fence delivery. -/
def Event.isFence : Event → Bool
  | .paused _ _ | .resumed _ _ | .cancelled _ | .deliverySet _ => true
  | _ => false

/-- One change that a fencing request can make. -/
inductive FenceStep (actor : Actor) (before : Host) : Host → Prop
  | background {after : Host} (step : BackgroundStep actor before after) :
      FenceStep actor before after
  | lock (free : before.mayLock (.work actor) .delivery .exclusive = true) :
      FenceStep actor before
        { before with locks := ⟨.delivery, .exclusive, .work actor⟩ :: before.locks }
  | pauses (table : VersionedTable Tx (String × Int) PauseRow) :
      FenceStep actor before { before with pauses := table }
  | control (table : VersionedTable Tx Unit ControlRow) :
      FenceStep actor before { before with control := table }
  | commit (event : Event) (fence : event.isFence = true) :
      FenceStep actor before ((before.commit (.work actor)).record event)

namespace FenceStep

open Script

variable {actor : Actor}

theorem does_background {α : Type} {script : Script α}
    (does : Does (BackgroundStep actor) script) : Does (FenceStep actor) script :=
  does.mono fun _ _ => .background

theorem does_fence : Does (FenceStep actor) (Script.lock (.work actor) .delivery .exclusive) :=
  does_lock fun _ free => .lock free

theorem does_setDeliveryEnabled {enabled : Bool} {commitId : String} :
    Does (FenceStep actor) (setDeliveryEnabled actor enabled commitId) := by
  apply Does.bind (does_background BackgroundStep.does_utcNow)
  intro now
  apply Does.bind does_fence
  intro _
  apply Does.bind
    (does_ite (fun _ => does_awaitFlag fun _ => .background .idle) fun _ => does_pure _)
  intro verified
  apply does_ite
  · intro _
    apply Does.bind (does_update fun before _ => .control _)
    exact fun _ => does_commitRecording fun before => .commit _ rfl
  · exact fun _ => does_raise

theorem does_pauseDates {email : String} {now : Int} (dates : List Int) :
    Does (FenceStep actor) (pauseDates actor email now dates) := by
  induction dates with
  | nil => exact does_pure _
  | cons date dates ih =>
      apply Does.bind (does_upsert fun before _ => .pauses _)
      intro rule
      apply Does.bind ih
      exact fun _ => does_pure _

theorem does_applyPauseAction {email : String} {dates : List Int} {now : Int}
    (action : PauseAction) :
    Does (FenceStep actor) (applyPauseAction actor email dates now action) := by
  cases action with
  | pause =>
      apply Does.bind (does_pauseDates dates)
      intro changed
      apply Does.bind (does_updateReturning fun before writable =>
        .background (.outbox .subscriber _ writable fun _ _ _ => cancelPaused_move))
      intro cancelled
      apply Does.bind (does_when fun _ =>
        does_background (BackgroundStep.does_claims fun _ _ _ _ => releaseUnusedClaim_move))
      exact fun _ => does_pure _
  | resume =>
      rw [applyPauseAction, applyResume]
      apply does_updateReturning
      exact fun before _ => .pauses _

theorem does_bumpGenerations {email : String} :
    Does (BackgroundStep actor) (bumpGenerations actor email) := by
  apply Does.bind BackgroundStep.does_select
  exact fun _ => BackgroundStep.does_incrementGenerations

theorem does_updateNotificationPauses {email : String} {action : PauseAction}
    {requested : List Int} :
    Does (FenceStep actor) (updateNotificationPauses actor email action requested) := by
  apply Does.bind does_fence
  intro _
  apply Does.bind (does_background BackgroundStep.does_utcNow)
  intro now
  cases validatePauseRequest requested now with
  | none => exact does_raise
  | some dates =>
      apply Does.bind (does_applyPauseAction action)
      intro changed
      apply Does.bind (does_when fun _ => does_background does_bumpGenerations)
      intro _
      exact does_commitRecording fun before => .commit _ (by cases action <;> rfl)

theorem does_cancelSubscription {subscriptionId email : String} :
    Does (FenceStep actor) (cancelSubscription actor subscriptionId email) := by
  apply Does.bind (does_background BackgroundStep.does_utcNow)
  intro now
  apply Does.bind does_fence
  intro _
  apply Does.bind (does_background (BackgroundStep.does_advisory (by simp)))
  intro _
  apply Does.bind (does_background BackgroundStep.does_lockSubscription)
  intro row
  cases row with
  | none => exact does_raise
  | some subscription =>
      apply Does.bind
        (does_background (BackgroundStep.does_subscriptions fun _ _ _ _ => deactivate_move))
      intro _
      apply Does.bind
        (does_background (BackgroundStep.does_outbox fun _ _ _ _ => cancelOpenRow_move))
      intro _
      apply Does.bind (does_background BackgroundStep.does_incrementGenerations)
      intro _
      exact does_commitRecording fun before => .commit _ rfl

end FenceStep

end TennisAlerts.HostCore
