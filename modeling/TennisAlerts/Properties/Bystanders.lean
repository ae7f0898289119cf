import TennisAlerts.Properties.FenceProtocol

/-!
# What the ingest has to itself

Availability, observation states and subscription events are written by the ingest
only.  Every other script leaves these tables alone, and what it does to an outbox row
keeps the subscription and the event that the row is about.
-/

namespace TennisAlerts.HostCore

open TennisAlerts.Concurrent TennisAlerts.Database

/-! ## Rows at the end of a transaction -/

section

variable {ρ : Type} {cell : Cell Tx ρ} {tx other : Tx} {actor : Actor} {row : Option ρ}

theorem eq_empty (unheld : cell.held = none) (absent : cell.view tx = none) :
    cell = Cell.empty := by
  rcases cell with ⟨base, version⟩
  have noVersion : version = none := unheld
  subst noVersion
  have missing : base = none := absent
  rw [missing]
  rfl

/-- A transaction that sees a row which is not committed has put it. -/
theorem held_of_view {row : ρ} (missing : cell.base = none) (seen : cell.view tx = some row) :
    cell.held = some (tx, some row) := by
  unfold Cell.view at seen
  split at seen
  · rename_i holder version held
    split at seen
    · rename_i same
      rw [held, same, seen]
    · rw [missing] at seen
      cases seen
  · rw [missing] at seen
    cases seen

theorem commit_eq_self (unheld : ∀ row, cell.held ≠ some (tx, row)) : cell.commit tx = cell := by
  cases held : cell.held with
  | none => simp [Cell.commit, held]
  | some version =>
      rcases version with ⟨holder, row⟩
      by_cases same : holder = tx
      · subst same
        exact absurd held (unheld row)
      · exact Cell.commit_of_held_ne held same

theorem view_eq_base (unheld : ∀ row, cell.held ≠ some (tx, row)) : cell.view tx = cell.base := by
  rw [← Cell.base_commit_eq_view, commit_eq_self unheld]

/-- What is held after a commit is held by another transaction. -/
theorem commit_of_held_foreign (held : (cell.commit tx).held = some (other, row)) :
    cell.commit tx = cell ∧ other ≠ tx := by
  have different : other ≠ tx := by
    rintro rfl
    have none := Cell.pending_commit other cell
    simp [Cell.pending, held] at none
  exact ⟨Cell.commit_of_held_ne (Cell.held_commit held) different, different⟩

theorem base_commit_cases (cell : Cell Tx ρ) (tx : Tx) :
    (cell.commit tx).base = cell.base ∨ cell.held = some (tx, (cell.commit tx).base) :=
  Cell.base_commit

/-- After the rollback of a process a row is as it was, or nobody holds it. -/
theorem rollback_process_cases (cell : Cell Tx ρ) (actor : Actor) :
    cell.rollbackAll (connections actor) = ⟨cell.base, none⟩ ∨
      cell.rollbackAll (connections actor) = cell ∧
        ∀ tx row, cell.held = some (tx, row) → tx.actor ≠ actor := by
  rcases Cell.rollbackAll_cases (connections actor) cell with
    ⟨_, _, _, _, dropped⟩ | ⟨same, unheld⟩
  · exact .inl dropped
  · exact .inr ⟨same, fun tx row held own => unheld tx (mem_connections own) row held⟩

theorem base_rollback_process (cell : Cell Tx ρ) (actor : Actor) :
    (cell.rollbackAll (connections actor)).base = cell.base := by
  rcases rollback_process_cases cell actor with dropped | ⟨same, _⟩
  · rw [dropped]
  · rw [same]

theorem not_held_process (own : tx.actor = actor) :
    (cell.rollbackAll (connections actor)).held ≠ some (tx, row) := by
  rcases rollback_process_cases cell actor with dropped | ⟨same, unheld⟩
  · rw [dropped]
    simp
  · rw [same]
    exact fun held => unheld tx row held own

theorem rollback_foreign (held : cell.held = some (tx, row)) (foreign : tx.actor ≠ actor) :
    cell.rollbackAll (connections actor) = cell := by
  rcases Cell.rollbackAll_cases (connections actor) cell with
    ⟨other, member, _, heldByOther, _⟩ | ⟨same, _⟩
  · rw [held] at heldByOther
    cases heldByOther
    exact absurd (own_of_mem_connections _ member) foreign
  · exact same

end

/-! ## The history and the locks -/

/-- The observations that were committed, newest first. -/
def ingests : List Event → List Observation
  | [] => []
  | .ingested observation :: older => observation :: ingests older
  | _ :: older => ingests older

/-- The history entry of an ingest. -/
def Event.isIngest : Event → Bool
  | .ingested _ => true
  | _ => false

theorem ingests_cons {event : Event} {log : List Event} (other : event.isIngest = false) :
    ingests (event :: log) = ingests log := by
  cases event <;> first | rfl | cases other

/-- A transaction of a request. -/
def Tx.serves : Tx → Bool
  | .work (.request _) => true
  | _ => false

/-- The locks of the requests. -/
def requestLocks (locks : List LockHeld) : List LockHeld :=
  locks.filter fun lock => lock.holder.serves

theorem mem_requestLocks_iff {locks : List LockHeld} {lock : LockHeld} :
    lock ∈ requestLocks locks ↔ lock ∈ locks ∧ lock.holder.serves = true :=
  List.mem_filter

theorem LockChange.requests {actor : Actor} {locks later : List LockHeld}
    (change : LockChange actor locks later) :
    LockChange actor (requestLocks locks) (requestLocks later) := by
  cases change with
  | same => exact .same
  | take lock own free =>
      cases serves : lock.holder.serves with
      | false =>
          have same : requestLocks (lock :: locks) = requestLocks locks := by
            simp [requestLocks, serves]
          rw [same]
          exact .same
      | true =>
          have added : requestLocks (lock :: locks) = lock :: requestLocks locks := by
            simp [requestLocks, serves]
          rw [added]
          apply LockChange.take lock own
          exact fun other member => free other (mem_requestLocks_iff.mp member).1
  | release keep own =>
      have released : requestLocks (locks.filter keep) = (requestLocks locks).filter keep := by
        simp only [requestLocks, List.filter_filter, Bool.and_comm]
      rw [released]
      exact .release keep own

/-- A lock that is held alone has no other holder. -/
def Exclusive (locks : List LockHeld) : Prop :=
  ∀ first ∈ locks, ∀ second ∈ locks, first.key = second.key → first.mode = .exclusive →
    second.holder = first.holder

theorem LockChange.exclusive {actor : Actor} {locks later : List LockHeld}
    (change : LockChange actor locks later) (exclusive : Exclusive locks) : Exclusive later := by
  intro first memberFirst second memberSecond sameKey alone
  cases change with
  | same => exact exclusive first memberFirst second memberSecond sameKey alone
  | release keep own =>
      have inFirst := List.mem_of_mem_filter memberFirst
      have inSecond := List.mem_of_mem_filter memberSecond
      exact exclusive first inFirst second inSecond sameKey alone
  | take added own free =>
      rcases List.mem_cons.mp memberFirst with rfl | oldFirst
      · rcases List.mem_cons.mp memberSecond with rfl | oldSecond
        · rfl
        · rcases free second oldSecond sameKey.symm with same | ⟨_, shared⟩
          · exact same
          · rw [alone] at shared
            cases shared
      · rcases List.mem_cons.mp memberSecond with rfl | oldSecond
        · rcases free first oldFirst sameKey with same | ⟨shared, _⟩
          · exact same.symm
          · rw [alone] at shared
            cases shared
        · exact exclusive first oldFirst second oldSecond sameKey alone

theorem lockChange_commit {actor : Actor} {tx : Tx} (own : tx.actor = actor)
    (locks : List LockHeld) :
    LockChange actor locks (locks.filter fun lock => lock.holder ≠ tx) := by
  apply LockChange.release
  intro lock dropped
  have same : lock.holder = tx := by simpa using dropped
  rw [same]
  exact own

/-! ## Sending emails -/

/-- The history entries of a provider call. -/
def Event.isCall : Event → Bool
  | .began _ | .ended _ _ => true
  | _ => false

/-- A relation that contains every step with which the worker sends emails. -/
structure CoversSends (worker : String) (step : Host → Host → Prop) : Prop where
  workerStep : ∀ before after, WorkerStep worker before after → step before after
  guard : ∀ before : Host, before.mayLock (.guard (.worker worker)) .delivery .shared = true →
    step before { before with
      locks := ⟨.delivery, .shared, .guard (.worker worker)⟩ :: before.locks }
  unguard : ∀ before : Host, step before (before.commit (.guard (.worker worker)))
  dispatched : ∀ (before : Host) (channel : Channel) (rowIds : List String),
    step before ((before.commit (.work (.worker worker))).record
      (.dispatched worker channel rowIds))
  called : ∀ (before : Host) (event : Event), event.isCall = true →
    step before (before.record event)

namespace CoversSends

open Script

variable {worker : String} {step : Host → Host → Prop} {channel : Channel}
  {rows : List ClaimedRow}

theorem idle (covers : CoversSends worker step) (host : Host) : step host host :=
  covers.workerStep _ _ (.background .idle)

theorem does_worker {α : Type} {script : Script α} (covers : CoversSends worker step)
    (does : Does (WorkerStep worker) script) : Does step script :=
  does.mono covers.workerStep

theorem does_background {α : Type} {script : Script α} (covers : CoversSends worker step)
    (does : Does (BackgroundStep (.worker worker)) script) : Does step script :=
  covers.does_worker (WorkerStep.does_background does)

theorem does_sendEmail {attemptId : String} (covers : CoversSends worker step) :
    Does step (sendEmail channel rows worker attemptId) := by
  unfold sendEmail
  cases composeEmail channel rows with
  | none => exact does_raise
  | some email =>
      apply Does.bind
      · apply does_act
        · rintro before input after ⟨⟩
          exact covers.called before _ rfl
        · exact fun _ _ => does_pure _
      intro call
      apply Does.bind
      · apply does_act
        · intro before input after acted
          cases input <;> cases acted
          exact covers.called before _ rfl
        · exact fun _ _ => does_pure _
      exact fun outcome => covers.does_worker WorkerStep.does_completeEmail

theorem does_dispatchEmail (covers : CoversSends worker step) :
    Does step (dispatchEmail channel rows worker) := by
  apply Does.bind (does_observe covers.idle)
  intro now
  apply Does.bind (does_observe covers.idle)
  intro valid
  apply Does.bind
  · apply does_when
    intro _
    apply covers.does_background
    apply BackgroundStep.does_outbox
    exact fun _ _ _ _ changed => expireAtDispatch_move changed
  intro _
  apply does_ite
  · intro _
    apply Does.bind
    · apply does_when
      intro _
      apply covers.does_background
      apply BackgroundStep.does_claims
      exact fun _ _ _ _ changed => releaseUnusedClaim_move changed
    exact fun _ => covers.does_background BackgroundStep.does_finish
  · intro _
    apply Does.bind (does_freshId covers.idle)
    intro attemptId
    apply Does.bind
    · exact does_insert fun before _ _ =>
        covers.workerStep before _ (.background (.attempts _))
    intro _
    apply Does.bind
    · apply covers.does_worker
      apply WorkerStep.does_rows
      exact fun _ _ _ _ changed => WorkerStep.sameSubject_markDispatching changed
    intro _
    apply Does.bind (does_commitRecording fun before => covers.dispatched before _ _)
    exact fun _ => covers.does_sendEmail

theorem does_attemptEmail (covers : CoversSends worker step) :
    Does step (attemptEmail channel rows worker) := by
  apply Does.bind (does_lock covers.guard)
  intro _
  apply Does.bind (does_observe covers.idle)
  intro control
  cases control with
  | none => exact does_raise
  | some control =>
      apply Does.bind (does_ite (fun _ => covers.does_dispatchEmail) fun _ => does_pure _)
      exact fun _ => does_commit covers.unguard

theorem does_systemLoop (covers : CoversSends worker step) (rounds : Nat) :
    Does step (systemLoop worker rounds) := by
  induction rounds with
  | zero => exact does_pure _
  | succ rounds ih =>
      apply Does.bind (does_awaitFlag covers.idle)
      intro late
      apply does_ite
      · exact fun _ => does_pure _
      · intro _
        apply Does.bind (covers.does_worker WorkerStep.does_claimSystem)
        intro row
        cases row with
        | none => exact does_pure _
        | some row =>
            apply Does.bind covers.does_attemptEmail
            exact fun _ => ih

theorem does_subscriberLoop {settings : Settings} (covers : CoversSends worker step)
    (rounds : Nat) : Does step (subscriberLoop worker settings rounds) := by
  induction rounds with
  | zero => exact does_pure _
  | succ rounds ih =>
      apply Does.bind (does_awaitFlag covers.idle)
      intro late
      apply does_ite
      · exact fun _ => does_pure _
      · intro _
        apply Does.bind (covers.does_background BackgroundStep.does_nextSubscriberTarget)
        intro target
        cases target with
        | none => exact does_pure _
        | some target =>
            apply Does.bind (does_awaitWeather covers.idle)
            intro weather
            apply Does.bind (covers.does_worker WorkerStep.does_claimSubscriberGroup)
            intro rows
            apply Does.bind (does_when fun _ => covers.does_attemptEmail)
            exact fun _ => ih

theorem does_runCycle {settings : Settings} (covers : CoversSends worker step) :
    Does step (runCycle worker settings) := by
  apply Does.bind (covers.does_background BackgroundStep.does_expireUnusable)
  intro _
  apply Does.bind (covers.does_systemLoop systemBatch)
  intro _
  apply Does.bind (covers.does_subscriberLoop subscriberRowsPerDigest)
  exact fun _ => covers.does_background BackgroundStep.does_reconcile

end CoversSends

/-! ## Bystanders -/

/-- The tables of the ingest are the same. -/
structure Untouched (before after : Host) : Prop where
  availability : after.availability = before.availability
  observations : after.observations = before.observations
  events : after.events = before.events
  ingests : ingests after.log = ingests before.log

theorem Untouched.refl (host : Host) : Untouched host host :=
  ⟨rfl, rfl, rfl, rfl⟩

/-- One change of a process that ingests nothing. -/
inductive BystanderStep (actor : Actor) (before : Host) : Host → Prop
  | still {after : Host} (untouched : Untouched before after)
      (outbox : after.outbox .subscriber = before.outbox .subscriber)
      (locks : LockChange actor (requestLocks before.locks) (requestLocks after.locks)) :
      BystanderStep actor before after
  | rows (statement : String → OutboxRow → Option OutboxRow)
      (writable : (before.outbox .subscriber).writable (.work actor)
        (fun id row => (statement id row).map some) = true)
      (same : ∀ id row new, statement id row = some new → SameSubject row new) :
      BystanderStep actor before ((TableRef.outbox .subscriber).put
        ((before.outbox .subscriber).write (.work actor)
          fun id row => (statement id row).map some) before)
  | commit (tx : Tx) (own : tx.actor = actor) {log : List Event}
      (quiet : ingests log = ingests before.log) :
      BystanderStep actor before { before.commit tx with log := log }

namespace BystanderStep

open Script

variable {actor : Actor} {before after : Host}

theorem idle (host : Host) : BystanderStep actor host host :=
  .still (.refl host) rfl .same

theorem lock {tx : Tx} (own : tx.actor = actor) {key : LockKey} {mode : LockMode}
    (free : before.mayLock tx key mode = true) :
    BystanderStep actor before { before with locks := ⟨key, mode, tx⟩ :: before.locks } := by
  have change : LockChange actor before.locks (⟨key, mode, tx⟩ :: before.locks) :=
    .take ⟨key, mode, tx⟩ own (Host.mayLock_iff.mp free)
  exact .still ⟨rfl, rfl, rfl, rfl⟩ rfl change.requests

theorem outbox (channel : Channel) (statement : String → OutboxRow → Option OutboxRow)
    (writable : (before.outbox channel).writable (.work actor)
      (fun id row => (statement id row).map some) = true)
    (same : ∀ id row new, statement id row = some new → SameSubject row new) :
    BystanderStep actor before ((TableRef.outbox channel).put
      ((before.outbox channel).write (.work actor)
        fun id row => (statement id row).map some) before) := by
  cases channel with
  | subscriber => exact .rows statement writable same
  | system => exact .still ⟨rfl, rfl, rfl, rfl⟩ rfl .same

theorem ended (tx : Tx) (own : tx.actor = actor) : BystanderStep actor before (before.commit tx) :=
  .commit tx own rfl

theorem endedWith (tx : Tx) (own : tx.actor = actor) {event : Event}
    (other : event.isIngest = false) :
    BystanderStep actor before ((before.commit tx).record event) :=
  .commit tx own (ingests_cons other)

theorem recorded {event : Event} (other : event.isIngest = false) :
    BystanderStep actor before (before.record event) :=
  .still ⟨rfl, rfl, rfl, ingests_cons other⟩ rfl .same

/-! ## The background, the fences and the claims -/

theorem of_background (step : BackgroundStep actor before after) :
    BystanderStep actor before after := by
  cases step with
  | idle => exact idle before
  | lock key mode free unfenced => exact lock rfl free
  | outbox channel statement writable moves =>
      exact outbox channel statement writable fun id row new changed =>
        (moves id row new changed).content.subject
  | commit => exact ended _ rfl
  | redeemed email => exact endedWith (.work actor) rfl rfl
  | _ => exact .still ⟨rfl, rfl, rfl, rfl⟩ rfl .same

theorem of_fence (step : FenceStep actor before after) : BystanderStep actor before after := by
  cases step with
  | background step => exact of_background step
  | lock free => exact lock rfl free
  | commit event fence =>
      apply endedWith (.work actor) rfl
      cases event <;> first | rfl | cases fence
  | _ => exact .still ⟨rfl, rfl, rfl, rfl⟩ rfl .same

theorem of_worker {worker : String} (step : WorkerStep worker before after) :
    BystanderStep (.worker worker) before after := by
  cases step with
  | background step => exact of_background step
  | rows channel statement writable same => exact outbox channel statement writable same
  | claims table => exact .still ⟨rfl, rfl, rfl, rfl⟩ rfl .same
  | reserved claimId claim => exact endedWith (.work (.worker worker)) rfl rfl

theorem of_wechat (step : WechatStep actor before after) : BystanderStep actor before after := by
  cases step with
  | idle => exact idle before
  | commit => exact ended _ rfl
  | _ => exact .still ⟨rfl, rfl, rfl, rfl⟩ rfl .same

theorem of_consumer {worker : String} (step : ConsumerStep worker before after) :
    BystanderStep (.wechat worker) before after := by
  cases step with
  | wechat step => exact of_wechat step
  | lock held own =>
      have foreign : held.holder.serves = false := by
        rcases held with ⟨key, mode, tx⟩
        cases tx <;> cases own <;> rfl
      have same : requestLocks (held :: before.locks) = requestLocks before.locks := by
        simp [requestLocks, foreign]
      have locks : LockChange (.wechat worker) (requestLocks before.locks)
          (requestLocks (held :: before.locks)) := by
        rw [same]
        exact .same
      exact .still ⟨rfl, rfl, rfl, rfl⟩ rfl locks
  | commit tx own => exact ended tx own
  | record event post =>
      apply recorded
      cases event <;> first | rfl | cases post

theorem coversSends (worker : String) :
    CoversSends worker (BystanderStep (.worker worker)) where
  workerStep _ _ := of_worker
  guard _ free := lock rfl free
  unguard _ := ended _ rfl
  dispatched _ _ _ := endedWith (.work (.worker worker)) rfl rfl
  called _ event call := by
    apply recorded
    cases event <;> first | rfl | cases call

theorem does_background {α : Type} {script : Script α}
    (does : Does (BackgroundStep actor) script) : Does (BystanderStep actor) script :=
  does.mono fun _ _ => of_background

theorem does_queueVerification {email code : String} :
    Does (BystanderStep actor) (queueVerification actor email code) := by
  apply Does.bind (does_observe idle)
  intro now
  apply Does.bind (does_freshId idle)
  intro id
  apply Does.bind (does_insert fun _ _ _ => .still ⟨rfl, rfl, rfl, rfl⟩ rfl .same)
  exact fun _ => does_commit fun _ => ended _ rfl

/-- The operations that ingest nothing. -/
theorem does_operation {digests : Digests} {deployed : Settings → Prop} {script : Script Unit}
    (operation : HostOperation digests deployed actor script) :
    Does (BystanderStep actor) script ∨ ∃ number observation, actor = .request number ∧
      script = ingestObservation actor digests observation := by
  cases operation with
  | cycle worker settings configured => exact .inl (coversSends worker).does_runCycle
  | recovery worker => exact .inl (does_background BackgroundStep.does_releaseExpiredLeases)
  | upkeep worker => exact .inl (does_background BackgroundStep.does_maintenance)
  | cancel number subscriptionId email =>
      exact .inl (FenceStep.does_cancelSubscription.mono fun _ _ => of_fence)
  | preference number email action dates =>
      exact .inl (FenceStep.does_updateNotificationPauses.mono fun _ _ => of_fence)
  | switch number enabled commitId =>
      exact .inl (FenceStep.does_setDeliveryEnabled.mono fun _ _ => of_fence)
  | subscribe number email input dedupeKey limits =>
      exact .inl (does_background BackgroundStep.does_createSubscription)
  | redeem number email => exact .inl (does_background BackgroundStep.does_redeemPriority)
  | verify number email code => exact .inl does_queueVerification
  | enqueue number input => exact .inl (WechatStep.does_enqueue.mono fun _ _ => of_wechat)
  | consume worker rounds =>
      exact .inl (ConsumerStep.does_consumer.mono fun _ _ => of_consumer)
  | ingest number observation => exact .inr ⟨number, observation, rfl, rfl⟩

end BystanderStep

end TennisAlerts.HostCore
