import TennisAlerts.Properties.ClaimCoherence
import TennisAlerts.Properties.FenceRequests
import TennisAlerts.Properties.FencedCalls

/-!
# The delivery fence is effective

Every script of the host keeps the fence protocol, in every interleaving.  So no
call includes a row that a committed pause, cancellation or switch affects, and
no such commit overtakes a call in progress.
-/

namespace TennisAlerts.HostCore

open TennisAlerts.Concurrent TennisAlerts.Database

/-- The host keeps the fence protocol. -/
theorem fenceProtocol_follows (digests : Digests) (deployed : Settings → Prop) :
    fenceProtocol.Follows (hostSystem digests deployed) System.anyAction where
  restingStable _ := stable_calm
  operations actor program operation := by
    cases operation with
    | cycle worker settings configured => exact valid_fencedCycle
    | recovery worker =>
        exact quietAssertion_calm.background BackgroundStep.does_releaseExpiredLeases
    | upkeep worker => exact quietAssertion_calm.background BackgroundStep.does_maintenance
    | cancel number subscriptionId email => exact valid_cancelSubscription
    | preference number email action dates => exact valid_updateNotificationPauses
    | switch number enabled commitId => exact valid_setDeliveryEnabled
    | subscribe number email input dedupeKey limits =>
        exact quietAssertion_calm.background BackgroundStep.does_createSubscription
    | redeem number email =>
        exact quietAssertion_calm.background BackgroundStep.does_redeemPriority
    | verify number email code =>
        exact quietAssertion_calm.ingest ⟨number, rfl⟩ IngestStep.does_queueVerification
    | enqueue number input => exact quietAssertion_calm.wechat WechatStep.does_enqueue
    | consume worker rounds => exact valid_fencedConsumer
    | ingest number observation =>
        exact quietAssertion_calm.ingest ⟨number, rfl⟩ IngestStep.does_ingestObservation
  crashes actor host invariant := by
    have move : PlainMove actor host (host.crash actor) := plainMove_crash
    have kept := move.kept invariant
    refine ⟨kept.1, kept.2, ?_, ?_⟩
    · intro tx own fenced
      exact (mem_locks_crash.mp fenced).2 own
    · rintro send rfl
      exact not_inProgress_crashed
  environments before after invariant passes := by
    obtain ⟨elapsed, rfl⟩ := passes
    have move : ∀ actor, PlainMove actor before { before with clock := before.clock + elapsed } :=
      fun actor => plainMove_of_frame rfl rfl rfl rfl rfl rfl rfl
    refine ⟨(move (.request 0)).invariant invariant, fun actor => ?_⟩
    obtain ⟨other, different⟩ := exists_ne actor
    exact (move other).guarantees invariant different.symm

/-- A host at which no transaction is open. -/
structure Closed (host : Host) : Prop where
  history : host.log = []
  locks : host.locks = []
  outbox : ∀ id, ((host.outbox .subscriber).cell id).held = none
  slots : ∀ key, (host.slots.cell key).held = none
  pauses : ∀ key, (host.pauses.cell key).held = none
  control : (host.control.cell ()).held = none
  subscriptions : ∀ id, (host.subscriptions.cell id).held = none

section

variable {host : Host}

theorem Closed.invariant (closed : Closed host) : FenceInvariant host := by
  have unsplit : ∀ {newer older : List Event} {event : Event},
      host.log ≠ newer ++ event :: older := by
    intro newer older event split
    rw [closed.history] at split
    simp at split
  constructor
  · intro first member
    rw [closed.locks] at member
    cases member
  · intro key tx row held
    rw [closed.pauses] at held
    cases held
  · intro tx row held
    rw [closed.control] at held
    cases held
  · rw [closed.history]
    exact nofun
  · rw [closed.history]
    exact nofun
  · intro id tx held
    rw [closed.subscriptions] at held
    cases held
  · rw [closed.history]
    exact nofun
  · exact fun id => .of_unheld (closed.outbox id)
  · exact fun key => .of_unheld (closed.slots key)
  · rw [closed.history]
    exact nofun
  · exact fun _ _ _ split => absurd split unsplit
  · exact fun _ _ _ split => absurd split unsplit
  · exact fun _ _ _ split => absurd split unsplit

theorem Closed.calm (closed : Closed host) (actor : Actor) : Calm actor host := by
  constructor
  · intro tx _ fenced
    rw [Fenced, closed.locks] at fenced
    cases fenced
  · intro send _ running
    rw [closed.history] at running
    exact running

end

/-- Every call of the history follows no fence that affects it, and every call
that started before a fence ended before it. -/
structure FenceEffective (host : Host) : Prop where
  emails : ∀ newer older call, host.log = newer ++ .began call :: older →
    deliveryOff older = false ∧
      (call.channel = .subscriber → ∀ id ∈ call.rowIds, ClearRow host older id)
  wechat : ∀ newer older post, host.log = newer ++ .posted post :: older →
    deliveryOff older = false
  finished : ∀ newer older oldest fence send, fence.isFence = true →
    host.log = newer ++ fence :: (older ++ send.started :: oldest) →
    ∃ event ∈ older, event.ends send = true

theorem FenceInvariant.effective {host : Host} (invariant : FenceInvariant host) :
    FenceEffective host where
  emails := invariant.calls
  wechat := invariant.posts
  finished newer _ _ fence send isFence split :=
    ended_of_not_inProgress (invariant.quiet newer _ fence split isFence send)

/-- In every run of the host, whatever is interleaved with whatever, the delivery
fence is effective. -/
theorem fenceEffective_of_reachable (digests : Digests) (deployed : Settings → Prop) {host : Host}
    (closed : Closed host)
    {config : Config Host Input Label Actor}
    (reachable :
      (hostSystem digests deployed).Reachable System.anyAction (System.idle host) config) :
    FenceEffective config.shared :=
  ((fenceProtocol_follows digests deployed).invariant_of_reachable closed.invariant closed.calm
    reachable).effective

/-! ### A digest before three fences -/

/-- A worker sends the queued digest and lowers its guard; then requests pause the booking
date, cancel the subscription and switch delivery off. -/
def sendThenFence : List (Move Host Input Label Actor) :=
  toDigestCall "first" ++ (acceptedCall "first" ++ (System.acts (.worker "first") .none 1 ++
    .start (.request 0)
        (updateNotificationPauses (.request 0) "a@example.com" .pause [3]) ::
      (System.acts (.request 0) .none 6 ++
        .start (.request 1)
            (cancelSubscription (.request 1) "subscription" "a@example.com") ::
          (System.acts (.request 1) .none 8 ++
            .start (.request 2) (setDeliveryEnabled (.request 2) false "commit") ::
              System.acts (.request 2) .none 4))))

theorem legal_sendThenFence :
    ∀ move ∈ sendThenFence, (hostSystem plainDigests anySettings).Legal move := by
  simp only [sendThenFence, List.forall_mem_append, List.forall_mem_cons]
  exact ⟨legal_toDigestCall _, legal_acceptedCall _, System.legal_acts, .preference 0 _ _ _,
    System.legal_acts, .cancel 1 _ _, System.legal_acts, .switch 2 _ _, System.legal_acts⟩

theorem digestHost_closed : Closed digestHost where
  history := rfl
  locks := rfl
  outbox := digestHost_unclaimed.rows
  slots key := by
    change (if key = "slot" then Cell.committed _ else Cell.empty).held = none
    split <;> rfl
  pauses _ := rfl
  control := rfl
  subscriptions id := by
    change (if id = "subscription" then Cell.committed _ else Cell.empty).held = none
    split <;> rfl

/-- The call includes the row of a digest. -/
def Event.callsRow (id : String) : Event → Bool
  | .began call => decide (call.channel = .subscriber) && decide (id ∈ call.rowIds)
  | _ => false

/-- In that run all three fences affect the row, after its call. -/
theorem sendThenFence_effective : ∃ config,
    (hostSystem plainDigests anySettings).Reachable System.anyAction (System.idle digestHost)
      config ∧
    fences config.shared.log =
      [.deliverySet false, .cancelled "subscription", .paused "a@example.com" [3]] ∧
    config.shared.log.any (Event.callsRow "row") = true ∧ FenceEffective config.shared := by
  have replayed : ((hostSystem plainDigests anySettings).replay System.anyAction
      (System.idle digestHost) sendThenFence).any (fun config =>
        decide (fences config.shared.log =
          [.deliverySet false, .cancelled "subscription", .paused "a@example.com" [3]]) &&
        config.shared.log.any (Event.callsRow "row")) = true := by
    decide
  obtain ⟨config, reachable, both⟩ :=
    System.exists_reachable_of_replay legal_sendThenFence replayed
  rw [Bool.and_eq_true, decide_eq_true_eq] at both
  exact ⟨config, reachable, both.1, both.2,
    fenceEffective_of_reachable plainDigests anySettings digestHost_closed reachable⟩

end TennisAlerts.HostCore
