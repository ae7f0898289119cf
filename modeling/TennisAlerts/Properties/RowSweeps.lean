import TennisAlerts.Properties.RowMoves

/-!
# Scripts that send nothing

Lease recovery, expiry, reconciliation, maintenance, the endpoints, the ingest
and the WeChat consumer change outbox rows by the listed statements only.
-/

namespace TennisAlerts.HostCore

open TennisAlerts.Concurrent TennisAlerts.Database

namespace SweepStep

open Script

variable {actor : Actor}

theorem idle (host : Host) : SweepStep actor host host :=
  .aside rfl rfl rfl

/-! ## Statements -/

theorem does_swept {channel : Channel} {label : Label}
    {statement : Snapshot → String → OutboxRow → Option OutboxRow}
    (moves : ∀ snapshot id row new, statement snapshot id row = some new → Swept row new) :
    Does (SweepStep actor) (update (.outbox channel) (.work actor) statement label) := by
  apply does_update
  intro before writable
  exact .swept channel _ writable (moves _)

theorem does_observe {α : Type} {label : Label} {value : Host → α} :
    Does (SweepStep actor) (observe label value) :=
  Script.does_observe idle

theorem does_advisory {tx : Tx} {key : LockKey} {mode : LockMode} :
    Does (SweepStep actor) (Script.lock tx key mode) :=
  does_lock fun _ _ => .aside rfl rfl rfl

theorem does_end : Does (SweepStep actor) (Script.commit (.work actor)) :=
  does_commit fun _ => .commit _ rfl

theorem does_endRecording {event : Event} {label : Label} (quiet : event.offRecord = true) :
    Does (SweepStep actor) (commitRecording (.work actor) event label) :=
  does_commitRecording fun _ => .committed event quiet

/-- The transaction ends and hands a value on. -/
theorem does_return {α : Type} {value : α} :
    Does (SweepStep actor) (do Script.commit (.work actor); pure value) := by
  apply Does.bind does_end
  exact fun _ => does_pure _

/-! ## The worker's background -/

theorem does_releaseExpiredLeases : Does (SweepStep actor) (releaseExpiredLeases actor) := by
  apply Does.bind does_observe
  intro now
  apply Does.bind (does_swept fun _ _ _ _ changed => .recovered now changed)
  intro _
  apply Does.bind (does_swept fun _ _ _ _ changed => .recovered now changed)
  intro _
  apply Does.bind (does_update fun _ _ => .aside rfl rfl rfl)
  intro _
  apply Does.bind (does_swept fun _ _ _ _ changed => .retried now changed)
  intro _
  apply Does.bind (does_swept fun _ _ _ _ changed => .retried now changed)
  intro _
  apply Does.bind (does_update fun _ _ => .aside rfl rfl rfl)
  exact fun _ => does_end

theorem does_expireUnusable : Does (SweepStep actor) (expireUnusable actor) := by
  apply Does.bind does_observe
  intro now
  apply Does.bind (does_swept fun _ _ _ _ changed => .expiredSystem now changed)
  intro _
  apply Does.bind (does_swept fun snapshot _ _ _ changed => .expiredSubscriber now snapshot changed)
  exact fun _ => does_end

theorem does_maintenance : Does (SweepStep actor) (maintenance actor) := by
  apply Does.bind does_observe
  intro now
  apply Does.bind (does_update fun _ _ => .aside rfl rfl rfl)
  intro _
  apply Does.bind (does_swept fun _ _ _ _ changed => .abandoned _ _ now changed)
  intro _
  apply Does.bind (does_swept fun _ _ _ _ changed => .abandoned _ _ now changed)
  intro _
  apply Does.bind (does_update fun _ _ => .aside rfl rfl rfl)
  exact fun _ => does_end

section

variable {worker : String} {channel : Channel}

theorem does_nextSubscriberTarget :
    Does (SweepStep (.worker worker)) (nextSubscriberTarget worker) := by
  apply Does.bind does_observe
  intro now
  apply Does.bind does_observe
  exact fun target => does_return

theorem does_nextProviderCheck :
    Does (SweepStep (.worker worker)) (nextProviderCheck worker channel) := by
  apply Does.bind does_observe
  intro now
  apply Does.bind does_advisory
  intro _
  apply Does.bind does_observe
  intro check
  cases check with
  | none => exact does_return
  | some check =>
      apply Does.bind (does_swept fun _ _ _ _ changed => .checked _ _ changed)
      exact fun _ => does_return

theorem does_reconcileRow {check : ProviderCheck} :
    Does (SweepStep (.worker worker)) (reconcileRow worker channel check) := by
  apply Does.bind does_observe
  intro checkedAt
  apply Does.bind (does_awaitReport idle)
  intro report
  cases report with
  | pending reason =>
      apply Does.bind does_observe
      intro now
      apply Does.bind (does_swept fun _ _ _ _ changed => .reported _ _ _ _ now changed)
      exact fun _ => does_end
  | failed reason =>
      apply Does.bind (does_swept fun _ _ _ _ changed => .reported _ _ _ _ checkedAt changed)
      exact fun _ => does_end
  | delivered deliveredAt =>
      apply Does.bind (does_ite (fun _ => does_observe) fun _ => does_pure _)
      intro venues
      apply Does.bind (does_swept fun _ _ _ _ changed => .reported _ _ _ _ checkedAt changed)
      intro _
      apply Does.bind (does_when fun _ => does_update fun _ _ => .aside rfl rfl rfl)
      exact fun _ => does_end

theorem does_reconcileLoop (rounds : Nat) :
    Does (SweepStep (.worker worker)) (reconcileLoop worker channel rounds) := by
  induction rounds with
  | zero => exact does_pure _
  | succ rounds ih =>
      apply Does.bind (does_awaitFlag idle)
      intro late
      apply does_ite
      · exact fun _ => does_pure _
      · intro _
        apply Does.bind does_nextProviderCheck
        intro check
        cases check with
        | none => exact does_pure _
        | some check =>
            apply Does.bind does_reconcileRow
            exact fun _ => ih

theorem does_reconcile : Does (SweepStep (.worker worker)) (reconcile worker) := by
  apply Does.bind (does_reconcileLoop reconcileBatch)
  exact fun _ => does_reconcileLoop reconcileBatch

end

/-! ## Endpoints -/

theorem does_incrementGenerations {venues : List String} :
    Does (SweepStep actor) (incrementGenerations actor venues) := by
  apply does_forM
  intro venueId _
  apply Does.bind (does_upsert fun _ _ => .aside rfl rfl rfl)
  exact fun _ => does_pure _

theorem does_createSubscription {email dedupeKey : String} {input : SubscriptionInput}
    {limits : SubscriptionLimits} :
    Does (SweepStep actor) (createSubscription actor email input dedupeKey limits) := by
  apply Does.bind does_observe
  intro now
  apply Does.bind does_advisory
  intro _
  apply Does.bind (does_update fun _ _ => .aside rfl rfl rfl)
  intro _
  apply Does.bind does_observe
  intro tier
  apply Does.bind does_observe
  intro current
  cases resolveTerm input.termCode now with
  | none => exact does_raise
  | some term =>
      apply does_ite
      · exact fun _ => does_raise
      · intro _
        apply Does.bind (does_freshId idle)
        intro id
        apply Does.bind (does_insert fun _ _ _ => .aside rfl rfl rfl)
        intro _
        apply Does.bind (does_forM _ fun venueId _ => does_insert fun _ _ _ => .aside rfl rfl rfl)
        intro _
        apply Does.bind does_incrementGenerations
        exact fun _ => does_end

theorem does_redeemPriority {email : String} :
    Does (SweepStep actor) (redeemPriority actor email) := by
  apply Does.bind (does_awaitFlag idle)
  intro valid
  apply does_ite
  · intro _
    apply Does.bind (does_upsert fun _ _ => .aside rfl rfl rfl)
    exact fun _ => does_endRecording rfl
  · exact fun _ => does_raise

theorem does_setDeliveryEnabled {enabled : Bool} {commitId : String} :
    Does (SweepStep actor) (setDeliveryEnabled actor enabled commitId) := by
  apply Does.bind does_observe
  intro now
  apply Does.bind does_advisory
  intro _
  apply Does.bind (does_ite (fun _ => does_awaitFlag idle) fun _ => does_pure _)
  intro verified
  apply does_ite
  · intro _
    apply Does.bind (does_update fun _ _ => .aside rfl rfl rfl)
    exact fun _ => does_endRecording rfl
  · exact fun _ => does_raise

theorem does_pauseDates {email : String} {now : Int} (dates : List Int) :
    Does (SweepStep actor) (pauseDates actor email now dates) := by
  induction dates with
  | nil => exact does_pure _
  | cons date dates ih =>
      apply Does.bind (does_upsert fun _ _ => .aside rfl rfl rfl)
      intro rule
      apply Does.bind ih
      exact fun _ => does_pure _

theorem does_applyPauseAction {email : String} {dates : List Int} {now : Int}
    (action : PauseAction) :
    Does (SweepStep actor) (applyPauseAction actor email dates now action) := by
  cases action with
  | pause =>
      apply Does.bind (does_pauseDates dates)
      intro changed
      apply Does.bind (does_updateReturning fun _ writable =>
        .swept .subscriber _ writable fun id _ _ cancelled => .paused _ _ now _ id cancelled)
      intro cancelled
      apply Does.bind (does_when fun _ => does_update fun _ _ => .aside rfl rfl rfl)
      exact fun _ => does_pure _
  | resume =>
      rw [applyPauseAction, applyResume]
      exact does_updateReturning fun _ _ => .aside rfl rfl rfl

theorem does_updateNotificationPauses {email : String} {action : PauseAction}
    {requested : List Int} :
    Does (SweepStep actor) (updateNotificationPauses actor email action requested) := by
  apply Does.bind does_advisory
  intro _
  apply Does.bind does_observe
  intro now
  cases validatePauseRequest requested now with
  | none => exact does_raise
  | some dates =>
      apply Does.bind (does_applyPauseAction action)
      intro changed
      apply Does.bind
      · apply does_when
        intro _
        apply Does.bind does_observe
        exact fun venues => does_incrementGenerations
      · intro _
        exact does_endRecording (by cases action <;> rfl)

theorem does_cancelSubscription {subscriptionId email : String} :
    Does (SweepStep actor) (cancelSubscription actor subscriptionId email) := by
  apply Does.bind does_observe
  intro now
  apply Does.bind does_advisory
  intro _
  apply Does.bind does_advisory
  intro _
  apply Does.bind (does_selectRowForUpdate fun _ _ => .aside rfl rfl rfl)
  intro row
  cases row with
  | none => exact does_raise
  | some subscription =>
      apply Does.bind (does_update fun _ _ => .aside rfl rfl rfl)
      intro _
      apply Does.bind (does_swept fun _ _ _ _ changed => .cancelled _ now changed)
      intro _
      apply Does.bind does_incrementGenerations
      exact fun _ => does_endRecording rfl

/-! ## Ingest and queued emails -/

theorem does_queueVerification {email code : String} :
    Does (SweepStep actor) (queueVerification actor email code) := by
  apply Does.bind does_observe
  intro now
  apply Does.bind (does_freshId idle)
  intro id
  apply Does.bind (does_insert fun _ absent free =>
    .inserted .system id _ absent free ⟨rfl, rfl, rfl, rfl⟩)
  exact fun _ => does_end

theorem does_insertNotification {id : String} {row : OutboxRow} (fresh : FreshRow row) :
    Does (SweepStep actor) (insertNotification actor id row) := by
  apply does_act
  · intro before input after acted
    dsimp only at acted
    split at acted
    · cases acted
    · split at acted
      · cases acted
        exact idle before
      · split at acted
        · rename_i absent
          obtain ⟨free, rfl⟩ := insertRow_eq_some acted
          exact .inserted .subscriber id row (Option.isNone_iff_eq_none.mp absent) free fresh
        · cases acted
  · exact fun _ _ => does_pure _

theorem does_matchSubscription {observation : Observation} {slot : Slot} {eventKey : String}
    {rules : List ((String × Int) × PauseRow)} {now : Int} {subscription : ActiveSubscription} :
    Does (SweepStep actor)
      (matchSubscription actor observation slot eventKey rules now subscription) := by
  apply does_ite
  · intro _
    apply Does.bind (does_insertIfAbsent idle fun _ _ _ => .aside rfl rfl rfl)
    intro inserted
    apply does_ite
    · intro _
      apply Does.bind (does_freshId idle)
      exact fun id => does_insertNotification ⟨rfl, rfl, rfl, rfl⟩
    · intro _
      apply does_ite
      · intro _
        exact does_swept fun snapshot id _ _ changed => .restored _ _ _ now _ snapshot id changed
      · exact fun _ => does_pure _
  · exact fun _ => does_pure _

section

variable {number : Nat} {digests : Digests} {observation : Observation}

theorem does_putAvailability {now : Int} :
    Does (SweepStep (.request number))
      (putAvailability (.request number) digests observation now) := by
  apply does_forM
  intro slot _
  apply Does.bind (does_upsert fun _ free => .slot number rfl observation slot _ now free)
  intro _
  exact does_insert fun _ _ _ => .aside rfl rfl rfl

theorem does_acceptObservation {generation : Nat} {state : Option ObservationRow}
    {begun now : Int} :
    Does (SweepStep (.request number))
      (acceptObservation (.request number) digests observation generation state begun now) := by
  apply Does.bind (does_delete fun _ _ => .aside rfl rfl rfl)
  intro _
  apply Does.bind (does_when fun _ => does_putAvailability)
  intro _
  apply Does.bind (does_update fun _ _ => .aside rfl rfl rfl)
  intro _
  apply Does.bind does_observe
  intro subscriptions
  apply Does.bind does_observe
  intro rules
  apply does_ite
  · intro _
    apply Does.bind (does_update fun _ _ => .aside rfl rfl rfl)
    exact fun _ => does_endRecording rfl
  · intro _
    apply Does.bind (does_when fun _ => does_forM _ fun slot _ =>
      does_forM _ fun subscription _ => does_matchSubscription)
    intro _
    apply Does.bind (does_upsert fun _ _ => .aside rfl rfl rfl)
    intro _
    apply Does.bind (does_update fun _ _ => .aside rfl rfl rfl)
    exact fun _ => does_endRecording rfl

theorem does_ingestObservation :
    Does (SweepStep (.request number))
      (ingestObservation (.request number) digests observation) := by
  apply Does.bind does_observe
  intro begun
  apply Does.bind does_advisory
  intro _
  apply Does.bind does_observe
  intro now
  apply Does.bind does_advisory
  intro _
  apply Does.bind (does_upsert fun _ _ => .aside rfl rfl rfl)
  intro _
  apply Does.bind does_observe
  intro generation
  apply Does.bind (does_selectRowForUpdate fun _ _ => .aside rfl rfl rfl)
  intro state
  apply does_ite
  · exact fun _ => does_endRecording rfl
  · exact fun _ => does_acceptObservation

end

end SweepStep

/-! ## The WeChat queue -/

theorem WechatStep.sweep {actor : Actor} {before after : Host}
    (step : WechatStep actor before after) : SweepStep actor before after := by
  cases step with
  | idle => exact .idle before
  | rows table => exact .aside rfl rfl rfl
  | cooldowns table => exact .aside rfl rfl rfl
  | commit => exact .commit _ rfl

theorem ConsumerStep.sweep {worker : String} {before after : Host}
    (step : ConsumerStep worker before after) : SweepStep (.wechat worker) before after := by
  cases step with
  | wechat step => exact step.sweep
  | lock held own => exact .aside rfl rfl rfl
  | commit tx own => exact .commit tx own
  | record event post =>
      apply SweepStep.recorded event
      cases event <;> first | rfl | cases post

end TennisAlerts.HostCore
