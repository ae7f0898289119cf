import TennisAlerts.HostCore.Background
import TennisAlerts.HostCore.WechatWorker

/-!
# What the delivering processes can do to the host

The changes of the email worker and of the WeChat consumer, as coarse as the
properties that are not about their own rows allow: which tables a step writes,
which locks it takes and what it adds to the history.
-/

namespace TennisAlerts.HostCore

open TennisAlerts.Concurrent TennisAlerts.Database

/-! ## The email worker -/

/-- One change of a worker's claims, dispatches and completions. -/
inductive WorkerStep (worker : String) (before : Host) : Host → Prop
  | background {after : Host} (step : BackgroundStep (.worker worker) before after) :
      WorkerStep worker before after
  | rows (channel : Channel) (statement : String → OutboxRow → Option OutboxRow)
      (writable : (before.outbox channel).writable (.work (.worker worker))
        (fun id row => (statement id row).map some) = true)
      (same : ∀ id row new, statement id row = some new → SameSubject row new) :
      WorkerStep worker before ((TableRef.outbox channel).put
        ((before.outbox channel).write (.work (.worker worker))
          fun id row => (statement id row).map some) before)
  | claims (table : VersionedTable Tx String ClaimRow) :
      WorkerStep worker before { before with claims := table }
  | reserved (claimId : String) (claim : ClaimRow) :
      WorkerStep worker before
        ((before.commit (.work (.worker worker))).record (.reserved worker claimId claim))

namespace WorkerStep

open Script

variable {worker : String} {channel : Channel}

theorem does_background {α : Type} {script : Script α}
    (does : Does (BackgroundStep (.worker worker)) script) : Does (WorkerStep worker) script :=
  does.mono fun _ _ => .background

theorem does_rows {label : Label} {statement : Snapshot → String → OutboxRow → Option OutboxRow}
    (same : ∀ snapshot id row new, statement snapshot id row = some new → SameSubject row new) :
    Does (WorkerStep worker)
      (update (.outbox channel) (.work (.worker worker)) statement label) := by
  apply does_update
  intro before writable
  exact .rows channel _ writable (same _)

theorem does_onIds {ids : List String} {change : OutboxRow → OutboxRow}
    (keeps : ∀ row, SameSubject row (change row)) :
    Does (WorkerStep worker)
      (update (.outbox channel) (.work (.worker worker)) (onIds ids change)) := by
  apply does_rows
  intro _ id row new changed
  simp only [onIds, Option.ite_none_right_eq_some, Option.some.injEq] at changed
  obtain ⟨_, rfl⟩ := changed
  exact keeps row

theorem sameSubject_markDispatching {now : Int} {ids : List String} {id : String}
    {row new : OutboxRow} (changed : markDispatching worker now ids id row = some new) :
    SameSubject row new := by
  simp only [markDispatching, Option.ite_none_right_eq_some, Option.some.injEq] at changed
  obtain ⟨_, rfl⟩ := changed
  exact ⟨rfl, rfl, rfl⟩

theorem sameSubject_completeRow {outcome : SendOutcome} {attempts : Nat} {now next : Int}
    {ids : List String} {id : String} {row new : OutboxRow}
    (changed : completeRow outcome attempts worker now next ids id row = some new) :
    SameSubject row new := by
  simp only [completeRow, Option.ite_none_right_eq_some, Option.some.injEq] at changed
  obtain ⟨_, rfl⟩ := changed
  exact ⟨rfl, rfl, rfl⟩

theorem does_lockRows {order : OutboxRow → Int} {condition : Snapshot → OutboxRow → Bool}
    {limit : Nat} :
    Does (WorkerStep worker)
      (selectForUpdate (.outbox channel) (.work (.worker worker)) order condition limit) := by
  apply does_act
  · intro before input after executed
    obtain ⟨writable, rfl⟩ := execute_eq_some executed
    rw [lockKeys_eq] at writable ⊢
    apply WorkerStep.rows channel _ writable
    intro id row new changed
    rw [eq_of_lockKeys changed]
    exact ⟨rfl, rfl, rfl⟩
  · exact fun _ _ => does_pure _

theorem does_claimSystem : Does (WorkerStep worker) (claimSystem worker) := by
  apply Does.bind (does_background BackgroundStep.does_utcNow)
  intro now
  apply Does.bind does_lockRows
  intro entries
  cases entries with
  | nil =>
      apply Does.bind (does_background BackgroundStep.does_finish)
      exact fun _ => does_pure _
  | cons entry rest =>
      apply Does.bind (does_onIds (by exact fun _ => ⟨rfl, rfl, rfl⟩))
      intro _
      apply Does.bind (does_background BackgroundStep.does_finish)
      exact fun _ => does_pure _

theorem does_suppressRows {entries : List (String × OutboxRow)} {reason : String} {now : Int} :
    Does (WorkerStep worker) (suppressRows worker entries reason now) := by
  apply Does.bind (does_onIds (by exact fun _ => ⟨rfl, rfl, rfl⟩))
  intro _
  apply Does.bind (does_background BackgroundStep.does_finish)
  exact fun _ => does_pure _

theorem does_reserveRows {target : Target} {entries : List (String × OutboxRow)} {now : Int} :
    Does (WorkerStep worker) (reserveRows worker target entries now) := by
  apply Does.bind (does_onIds (by exact fun _ => ⟨rfl, rfl, rfl⟩))
  intro _
  apply Does.bind (does_freshId fun _ => .background .idle)
  intro claimId
  apply Does.bind (does_insert fun _ _ _ => .claims _)
  intro _
  apply Does.bind (does_onIds (by exact fun _ => ⟨rfl, rfl, rfl⟩))
  intro _
  apply Does.bind (does_commitRecording fun _ => .reserved claimId _)
  exact fun _ => does_pure _

theorem does_claimUnderQuota {settings : Settings} {target : Target}
    {entries : List (String × OutboxRow)} {now : Int} :
    Does (WorkerStep worker) (claimUnderQuota worker settings target entries now) := by
  apply Does.bind (does_background (BackgroundStep.does_advisory (by simp)))
  intro _
  apply Does.bind (does_background (BackgroundStep.does_advisory (by simp)))
  intro _
  apply Does.bind (does_background BackgroundStep.does_select)
  intro userSubmitted
  apply Does.bind (does_background BackgroundStep.does_select)
  intro userReserved
  apply Does.bind (does_background BackgroundStep.does_select)
  intro globalSubmitted
  apply Does.bind (does_background BackgroundStep.does_select)
  intro globalReserved
  dsimp only
  apply does_ite
  · exact fun _ => does_suppressRows
  · exact fun _ => does_reserveRows

theorem does_claimSubscriberGroup {settings : Settings} {target : Target}
    {weather : WeatherDecision} :
    Does (WorkerStep worker) (claimSubscriberGroup worker settings target weather) := by
  apply Does.bind (does_background (BackgroundStep.does_advisory fun _ => rfl))
  intro _
  apply Does.bind (does_background BackgroundStep.does_utcNow)
  intro now
  apply Does.bind does_lockRows
  intro entries
  apply does_ite
  · intro _
    apply Does.bind (does_background BackgroundStep.does_finish)
    exact fun _ => does_pure _
  · intro _
    apply does_ite
    · exact fun _ => does_suppressRows
    · exact fun _ => does_claimUnderQuota

theorem does_completeEmail {rows : List ClaimedRow} {attemptId : String} {outcome : SendOutcome} :
    Does (WorkerStep worker) (completeEmail channel rows worker attemptId outcome) := by
  apply Does.bind (does_background BackgroundStep.does_utcNow)
  intro begun
  apply Does.bind (does_update fun _ _ => .background (.attempts _))
  intro _
  apply Does.bind (does_background BackgroundStep.does_utcNow)
  intro later
  apply Does.bind (does_rows fun _ _ _ _ => sameSubject_completeRow)
  intro _
  apply Does.bind (does_when fun _ => does_update fun _ _ => .claims _)
  exact fun _ => does_background BackgroundStep.does_finish

end WorkerStep

/-! ## The WeChat queue -/

/-- One change of a transaction on the WeChat tables. -/
inductive WechatStep (actor : Actor) (before : Host) : Host → Prop
  | idle : WechatStep actor before before
  | rows (table : VersionedTable Tx String WechatRow) :
      WechatStep actor before { before with wechat := table }
  | cooldowns (table : VersionedTable Tx (String × String) Int) :
      WechatStep actor before { before with cooldowns := table }
  | commit : WechatStep actor before (before.commit (.work actor))

namespace WechatStep

open Script

variable {actor : Actor}

theorem does_utcNow : Does (WechatStep actor) utcNow :=
  does_observe fun _ => .idle

theorem does_select {α : Type} {tx : Tx} {query : Snapshot → α} :
    Does (WechatStep actor) (select tx query) :=
  does_observe fun _ => .idle

theorem does_finish : Does (WechatStep actor) (Script.commit (.work actor)) :=
  does_commit fun _ => .commit

theorem does_rows {statement : Snapshot → String → WechatRow → Option WechatRow} :
    Does (WechatStep actor) (update .wechat (.work actor) statement) :=
  does_update fun _ _ => .rows _

theorem does_activeSubscriptionForVenue {venueId : String} :
    Does (WechatStep actor) (activeSubscriptionForVenue actor venueId) := by
  apply does_ite
  · intro _
    apply Does.bind does_utcNow
    intro now
    apply Does.bind does_select
    intro found
    apply Does.bind does_finish
    exact fun _ => does_pure _
  · exact fun _ => does_pure _

theorem does_enqueue {digests : Digests} {input : EnqueueInput} :
    Does (WechatStep actor) (enqueue actor digests input) := by
  apply does_ite
  · intro _
    apply Does.bind does_activeSubscriptionForVenue
    intro subscribed
    apply does_ite
    · intro _
      apply Does.bind does_utcNow
      intro now
      apply Does.bind does_utcNow
      intro begun
      apply Does.bind does_select
      intro slots
      cases currentMessage input.message slots with
      | error reason => exact does_raise
      | ok current =>
          apply does_ite
          · exact fun _ => does_finish
          · intro _
            apply Does.bind does_select
            intro startAt
            apply Does.bind
            · apply does_forM
              intro receiver _
              apply Does.bind (does_insertIfAbsent (fun _ => .idle) fun _ _ _ => .rows _)
              exact fun _ => does_pure _
            · exact fun _ => does_finish
    · exact fun _ => does_pure _
  · exact fun _ => does_raise

variable {worker : String} {digests : Digests} {claimed : ClaimedWechat}

theorem does_lockRows {order : WechatRow → Int} {condition : Snapshot → WechatRow → Bool}
    {limit : Nat} :
    Does (WechatStep actor) (selectForUpdate .wechat (.work actor) order condition limit) := by
  apply does_act
  · intro before input after executed
    obtain ⟨_, rfl⟩ := execute_eq_some executed
    exact .rows _
  · exact fun _ _ => does_pure _

theorem does_claimWechat : Does (WechatStep (.wechat worker)) (claimWechat worker) := by
  apply Does.bind does_utcNow
  intro now
  apply Does.bind does_rows
  intro _
  apply Does.bind does_rows
  intro _
  apply Does.bind does_lockRows
  intro entries
  cases entries with
  | nil =>
      apply Does.bind does_finish
      exact fun _ => does_pure _
  | cons entry rest =>
      apply Does.bind does_rows
      intro _
      apply Does.bind does_finish
      exact fun _ => does_pure _

theorem does_startCooldown {row : WechatRow} {merge : Option Int → Int} :
    Does (WechatStep (.wechat worker)) (startCooldown worker digests row merge) := by
  unfold startCooldown
  split
  · exact does_pure _
  · apply Does.bind (does_upsert fun _ _ => .cooldowns _)
    exact fun _ => does_pure _

theorem does_finishWechat {status : WechatStatus} {reason : Option String} :
    Does (WechatStep (.wechat worker)) (finishWechat digests claimed worker status reason) := by
  apply Does.bind does_utcNow
  intro now
  apply Does.bind does_rows
  intro _
  apply Does.bind (does_when fun _ => does_startCooldown)
  exact fun _ => does_finish

theorem does_prepareWechat :
    Does (WechatStep (.wechat worker)) (prepareWechat digests claimed worker) := by
  apply Does.bind does_activeSubscriptionForVenue
  intro subscribed
  apply does_ite
  · intro _
    apply Does.bind does_utcNow
    intro begun
    apply Does.bind does_select
    intro slots
    cases currentMessage claimed.row.message slots with
    | error reason => exact does_raise
    | ok current =>
        apply does_ite
        · intro _
          apply Does.bind does_finish
          intro _
          apply Does.bind does_finishWechat
          exact fun _ => does_pure _
        · intro _
          apply Does.bind does_utcNow
          intro now
          apply Does.bind does_select
          intro text
          apply Does.bind does_select
          intro outbound
          apply Does.bind does_rows
          intro _
          apply Does.bind does_finish
          exact fun _ => does_pure _
  · intro _
    apply Does.bind does_finishWechat
    exact fun _ => does_pure _

theorem does_concludeWechat {answer : Answer} :
    Does (WechatStep (.wechat worker)) (concludeWechat digests claimed worker answer) := by
  cases answer with
  | connectTimeout => exact does_finishWechat
  | raised typeName => exact does_finishWechat
  | reply reply =>
      apply Does.bind (does_awaitFlag fun _ => .idle)
      intro raised
      apply does_ite
      · exact fun _ => does_finishWechat
      · intro _
        cases readReply reply <;> exact does_finishWechat

theorem does_confirmWechat {entry : String × WechatRow} {stamp : Int} :
    Does (WechatStep (.wechat worker)) (confirmWechat digests entry worker stamp) := by
  apply Does.bind does_utcNow
  intro now
  apply Does.bind does_rows
  intro _
  apply Does.bind does_startCooldown
  exact fun _ => does_finish

theorem does_claimIfEnabled : Does (WechatStep (.wechat worker)) (claimIfEnabled worker) := by
  apply Does.bind (does_awaitFlag fun _ => .idle)
  intro owns
  apply does_ite
  · intro _
    apply Does.bind
    · apply Does.bind does_select
      intro control
      cases control with
      | none => exact does_raise
      | some control =>
          apply Does.bind does_finish
          exact fun _ => does_pure _
    · intro enabled
      apply does_ite
      · exact fun _ => does_claimWechat
      · exact fun _ => does_pure _
  · exact fun _ => does_pure _

end WechatStep

/-! ## The consumer -/

/-- The history entries of the WeChat consumer. -/
def Event.isPost : Event → Bool
  | .posted _ | .answered _ _ | .evidenced _ _ _ => true
  | _ => false

/-- One change of the WeChat consumer. -/
inductive ConsumerStep (worker : String) (before : Host) : Host → Prop
  | wechat {after : Host} (step : WechatStep (.wechat worker) before after) :
      ConsumerStep worker before after
  | lock (held : LockHeld) (own : held.holder.actor = .wechat worker) :
      ConsumerStep worker before { before with locks := held :: before.locks }
  | commit (tx : Tx) (own : tx.actor = .wechat worker) :
      ConsumerStep worker before (before.commit tx)
  | record (event : Event) (post : event.isPost = true) :
      ConsumerStep worker before (before.record event)

namespace ConsumerStep

open Script

variable {worker : String} {digests : Digests}

theorem does_wechat {α : Type} {script : Script α}
    (does : Does (WechatStep (.wechat worker)) script) : Does (ConsumerStep worker) script :=
  does.mono fun _ _ => .wechat

theorem does_beginPost {rowId : String} {request : Sender.SendRequest} :
    Does (ConsumerStep worker) (beginPost worker rowId request) := by
  apply does_act
  · rintro before input after ⟨⟩
    exact .record _ rfl
  · exact fun _ _ => does_pure _

theorem does_awaitAnswer {post : Post} : Does (ConsumerStep worker) (awaitAnswer post) := by
  apply does_act
  · intro before input after acted
    cases input with
    | answer answer =>
        cases acted
        exact .record _ rfl
    | _ => cases acted
  · exact fun _ _ => does_pure _

theorem does_awaitEvidence {key payloadHash : String} :
    Does (ConsumerStep worker) (awaitEvidence key payloadHash) := by
  apply does_act
  · intro before input after acted
    cases input with
    | evidence evidence =>
        cases evidence with
        | none =>
            cases acted
            exact .wechat .idle
        | some evidence =>
            cases acted
            exact .record _ rfl
    | _ => cases acted
  · exact fun _ _ => does_pure _

theorem does_deliverGuarded {claimed : ClaimedWechat} {enabled : Bool} :
    Does (ConsumerStep worker) (deliverGuarded digests claimed worker enabled) := by
  apply does_ite
  · intro _
    apply Does.bind (does_awaitFlag fun _ => .wechat .idle)
    intro ready
    apply does_ite
    · intro _
      apply Does.bind (does_wechat WechatStep.does_prepareWechat)
      intro prepared
      cases prepared with
      | none => exact does_pure _
      | some prepared =>
          apply Does.bind does_beginPost
          intro post
          apply Does.bind does_awaitAnswer
          exact fun answer => does_wechat WechatStep.does_concludeWechat
    · exact fun _ => does_wechat WechatStep.does_finishWechat
  · exact fun _ => does_wechat WechatStep.does_finishWechat

theorem does_deliverWechat {claimed : ClaimedWechat} :
    Does (ConsumerStep worker) (deliverWechat digests claimed worker) := by
  apply Does.bind (does_lock fun _ _ => .lock _ rfl)
  intro _
  apply Does.bind (does_wechat WechatStep.does_select)
  intro control
  cases control with
  | none => exact does_raise
  | some control =>
      apply Does.bind does_deliverGuarded
      exact fun _ => does_commit fun _ => .commit _ rfl

theorem does_lookUp {entry : String × WechatRow} {payloadHash : String} (keys : List String) :
    Does (ConsumerStep worker) (lookUp digests entry worker payloadHash keys) := by
  induction keys with
  | nil => exact does_pure _
  | cons key keys ih =>
      apply Does.bind does_awaitEvidence
      intro evidence
      cases evidence with
      | none => exact does_pure _
      | some evidence =>
          dsimp only
          split
          · exact ih
          · exact does_wechat WechatStep.does_confirmWechat

theorem does_reconcileUnknown : Does (ConsumerStep worker) (reconcileUnknown digests worker) := by
  apply Does.bind (does_wechat WechatStep.does_utcNow)
  intro now
  apply Does.bind (does_wechat WechatStep.does_lockRows)
  intro entries
  apply Does.bind (does_forM _ fun entry _ => does_wechat WechatStep.does_rows)
  intro _
  apply Does.bind (does_wechat WechatStep.does_finish)
  intro _
  apply does_forM
  intro entry _
  unfold reconcileWechat
  split
  · exact does_pure _
  · exact does_lookUp _

theorem does_consumerLoop (rounds : Nat) :
    Does (ConsumerStep worker) (consumerLoop digests worker rounds) := by
  induction rounds with
  | zero => exact does_commit fun _ => .commit _ rfl
  | succ rounds ih =>
      apply Does.bind (does_wechat WechatStep.does_claimIfEnabled)
      intro claimed
      cases claimed with
      | some claimed =>
          apply Does.bind does_deliverWechat
          exact fun _ => ih
      | none =>
          apply Does.bind (does_awaitFlag fun _ => .wechat .idle)
          intro due
          apply does_ite
          · intro _
            apply Does.bind does_reconcileUnknown
            exact fun _ => ih
          · exact fun _ => ih

theorem does_tryLock {key : LockKey} :
    Does (ConsumerStep worker) (tryLock (.wechat worker) key) := by
  apply does_act
  · intro before input after acted
    split at acted
    · cases acted
      exact .lock _ rfl
    · cases acted
      exact .wechat .idle
  · exact fun _ _ => does_pure _

theorem does_consumer {rounds : Nat} :
    Does (ConsumerStep worker) (consumer digests worker rounds) := by
  apply Does.bind does_tryLock
  intro free
  apply does_ite
  · exact fun _ => does_consumerLoop rounds
  · exact fun _ => does_raise

end ConsumerStep

end TennisAlerts.HostCore
