import TennisAlerts.Properties.FenceProtocol

/-!
# Calls under the delivery guard

The scripts of the workers keep the fence protocol: they call only under the
shared delivery lock, and only for rows that no committed fence affects.
-/

namespace TennisAlerts.HostCore

open TennisAlerts.Concurrent TennisAlerts.Database

/-! ## Quiet moves -/

/-- A move between the calls and fences of a process. -/
structure QuietMove (actor : Actor) (before after : Host) : Prop where
  move : PlainMove actor before after
  sends : ∀ send, InProgress send after.log ↔ InProgress send before.log
  guard : Guarded actor before → Guarded actor after
  unfenced : ∀ tx, tx.actor = actor → Fenced tx after → Fenced tx before

section

variable {actor : Actor} {before after : Host}

theorem PlainMove.quiet (move : PlainMove actor before after) (locks : after.locks = before.locks)
    (log : after.log = before.log) : QuietMove actor before after where
  move := move
  sends send := by rw [log]
  guard guarded := by rwa [Guarded, locks]
  unfenced tx _ fenced := by rwa [Fenced, ← locks]

theorem quietMove_of_frame (locks : after.locks = before.locks) (log : after.log = before.log)
    (pauses : after.pauses = before.pauses) (control : after.control = before.control)
    (subscriptions : after.subscriptions = before.subscriptions)
    (outbox : after.outbox .subscriber = before.outbox .subscriber)
    (slots : after.slots = before.slots) : QuietMove actor before after :=
  (plainMove_of_frame locks log pauses control subscriptions outbox slots).quiet locks log

theorem quietMove_lock {lock : LockHeld} (own : lock.holder.actor = actor)
    (free : before.mayLock lock.holder lock.key lock.mode = true)
    (shared : lock.key = .delivery → lock.mode = .shared) :
    QuietMove actor before { before with locks := lock :: before.locks } where
  move := plainMove_lock own free
  sends _ := Iff.rfl
  guard guarded := List.mem_cons_of_mem _ guarded
  unfenced tx _ fenced := by
    rcases List.mem_cons.mp fenced with rfl | old
    · cases shared rfl
    · exact old

theorem quietMove_commit (invariant : FenceInvariant before) (calm : Calm actor before) :
    QuietMove actor before (before.commit (.work actor)) where
  move := plainMove_commit rfl invariant (calm.unfenced _ rfl) nofun
  sends _ := Iff.rfl
  guard guarded := guard_mem_commit guarded rfl
  unfenced _ _ fenced := List.mem_of_mem_filter fenced

/-- A commit of the working transaction that adds an entry about no call. -/
theorem quietMove_commitRecording {event : Event} (invariant : FenceInvariant before)
    (calm : Calm actor before) (admitted : Admitted actor before event)
    (unstarted : ∀ send : Send, event ≠ send.started) (unended : ∀ send, event.ends send = false) :
    QuietMove actor before ((before.commit (.work actor)).record event) where
  move := (quietMove_commit invariant calm).move.record rfl
    (fun _ => guard_mem_commit) admitted
  sends send := inProgress_cons_iff (unstarted send) (unended send)
  guard guarded := guard_mem_commit guarded rfl
  unfenced _ _ fenced := List.mem_of_mem_filter fenced

theorem BackgroundStep.quietMove (step : BackgroundStep actor before after)
    (invariant : FenceInvariant before) (calm : Calm actor before) :
    QuietMove actor before after := by
  cases step with
  | lock key mode free unfenced => exact quietMove_lock rfl free unfenced
  | outbox channel statement writable moves =>
      apply PlainMove.quiet (plainMove_outbox writable fun id row new changed =>
        (moves id row new changed).content.subject) rfl rfl
  | subscriptions statement writable moves =>
      exact (plainMove_subscriptions writable moves).quiet rfl rfl
  | newSubscription id row absent free =>
      refine PlainMove.quiet (plainMove_of_tables rfl rfl rfl rfl ?_ (fun _ => .same)
        (fun _ => .same)) rfl rfl
      apply VersionedTable.change_insert (show ownTx actor (.work actor) from rfl) free
      rw [absent]
      exact ⟨row, rfl, nofun⟩
  | commit => exact quietMove_commit invariant calm
  | redeemed email =>
      apply quietMove_commitRecording invariant calm
      · trivial
      · intro send
        cases send <;> rintro ⟨⟩
      · exact fun _ => rfl
  | _ => exact quietMove_of_frame rfl rfl rfl rfl rfl rfl rfl

theorem IngestStep.quietMove (step : IngestStep actor before after)
    (request : (Tx.work actor).isRequest) (invariant : FenceInvariant before)
    (calm : Calm actor before) : QuietMove actor before after := by
  cases step with
  | background step => exact step.quietMove invariant calm
  | slots observation slot eventKey now free =>
      refine PlainMove.quiet (plainMove_of_tables rfl rfl rfl rfl (fun _ => .same)
        (fun _ => .same) ?_) rfl rfl
      apply VersionedTable.change_insert (show ownTx actor (.work actor) from rfl) free
      refine ⟨_, rfl, ?_⟩
      cases (before.slots.cell eventKey).view (.work actor) with
      | none => exact request
      | some previous => rfl
  | notification channel id row absent free pending unleased unsent unclaimed =>
      cases channel with
      | system => exact quietMove_of_frame rfl rfl rfl rfl rfl rfl rfl
      | subscriber =>
          refine PlainMove.quiet (plainMove_of_tables rfl rfl rfl rfl (fun _ => .same) ?_
            (fun _ => .same)) rfl rfl
          apply VersionedTable.change_insert (show ownTx actor (.work actor) from rfl) free
          rw [absent]
          exact ⟨row, rfl, request⟩
  | commit observation =>
      apply quietMove_commitRecording invariant calm
      · trivial
      · intro send
        cases send <;> rintro ⟨⟩
      · exact fun _ => rfl
  | _ => exact quietMove_of_frame rfl rfl rfl rfl rfl rfl rfl

theorem WorkerStep.quietMove {worker : String} (step : WorkerStep worker before after)
    (invariant : FenceInvariant before) (calm : Calm (.worker worker) before) :
    QuietMove (.worker worker) before after := by
  cases step with
  | background step => exact step.quietMove invariant calm
  | rows channel statement writable same => exact (plainMove_outbox writable same).quiet rfl rfl
  | claims table => exact quietMove_of_frame rfl rfl rfl rfl rfl rfl rfl
  | reserved claimId claim =>
      apply quietMove_commitRecording invariant calm
      · trivial
      · intro send
        cases send <;> rintro ⟨⟩
      · exact fun _ => rfl

theorem WechatStep.quietMove (step : WechatStep actor before after)
    (invariant : FenceInvariant before) (calm : Calm actor before) :
    QuietMove actor before after := by
  cases step with
  | commit => exact quietMove_commit invariant calm
  | _ => exact quietMove_of_frame rfl rfl rfl rfl rfl rfl rfl

end

/-! ## Assertions -/

/-- The guard of a process is up. -/
def Watched (actor : Actor) (host : Host) : Prop :=
  Calm actor host ∧ Guarded actor host

/-- The guard of a process is up, and delivery was not switched off. -/
def DeliveryOpen (actor : Actor) (host : Host) : Prop :=
  Watched actor host ∧ deliveryOff host.log = false

/-- No fence affects the rows that a worker is about to send. -/
def Cleared (worker : String) (channel : Channel) (ids : List String) (host : Host) : Prop :=
  DeliveryOpen (.worker worker) host ∧
    (channel = .subscriber → ∀ id ∈ ids, ClearRow host host.log id)

/-- The call is the only one of its process. -/
structure Calling (send : Send) (host : Host) : Prop where
  unfenced : ∀ tx, tx.actor = send.actor → ¬Fenced tx host
  guarded : Guarded send.actor host
  only : ∀ other, other.actor = send.actor → InProgress other host.log → other = send

theorem ClearRow.sameFences {host : Host} {log later : List Event} {id : String}
    (same : SameFences log later) (clear : ClearRow host log id) : ClearRow host later id := by
  obtain ⟨row, slot, storedRow, storedSlot, uncancelled, unpaused⟩ := clear
  refine ⟨row, slot, storedRow, storedSlot, ?_, ?_⟩
  · rwa [same.cancelled]
  · rwa [same.pausedIn]

section

variable {actor : Actor}

theorem stable_watched : fenceProtocol.Stable actor (Watched actor) := by
  intro before after beforeInv afterInv relied holds
  exact ⟨stable_calm beforeInv afterInv relied holds.1, (relied.locks _ rfl).mpr holds.2⟩

theorem sameFences_of_guarded {before after : Host} (relied : FenceRely actor before after)
    (guarded : Guarded actor before) : SameFences before.log after.log :=
  relied.fences ⟨_, guarded, rfl, rfl⟩

theorem stable_deliveryOpen : fenceProtocol.Stable actor (DeliveryOpen actor) := by
  intro before after beforeInv afterInv relied holds
  refine ⟨stable_watched beforeInv afterInv relied holds.1, ?_⟩
  rw [(sameFences_of_guarded relied holds.1.2).deliveryOff]
  exact holds.2

theorem stable_cleared {worker : String} {channel : Channel} {ids : List String} :
    fenceProtocol.Stable (.worker worker) (Cleared worker channel ids) := by
  intro before after beforeInv afterInv relied holds
  refine ⟨stable_deliveryOpen beforeInv afterInv relied holds.1, fun subscriber id member => ?_⟩
  have same := sameFences_of_guarded relied holds.1.1.2
  exact ((holds.2 subscriber id member).later relied.outbox relied.slots).sameFences same

theorem stable_calling (send : Send) : fenceProtocol.Stable send.actor (Calling send) := by
  intro before after _ _ relied calling
  constructor
  · intro tx own fenced
    exact calling.unfenced tx own ((relied.locks _ own).mp fenced)
  · exact (relied.locks _ rfl).mpr calling.guarded
  · intro other mine running
    exact calling.only other mine ((relied.sends other mine).mp running)

/-- An assertion that quiet moves keep. -/
structure QuietAssertion (actor : Actor) (assertion : Host → Prop) : Prop where
  stable : fenceProtocol.Stable actor assertion
  calm : ∀ host, assertion host → Calm actor host
  keeps : ∀ before after, FenceInvariant before → QuietMove actor before after →
    assertion before → assertion after

theorem quietAssertion_calm : QuietAssertion actor (Calm actor) where
  stable := stable_calm
  calm _ calm := calm
  keeps _ _ _ quiet calm :=
    ⟨fun tx own fenced => calm.unfenced tx own (quiet.unfenced tx own fenced),
      fun send mine running => calm.idle send mine ((quiet.sends send).mp running)⟩

theorem quietAssertion_watched : QuietAssertion actor (Watched actor) where
  stable := stable_watched
  calm _ holds := holds.1
  keeps before after invariant quiet holds :=
    ⟨quietAssertion_calm.keeps before after invariant quiet holds.1, quiet.guard holds.2⟩

theorem quietAssertion_deliveryOpen : QuietAssertion actor (DeliveryOpen actor) where
  stable := stable_deliveryOpen
  calm _ holds := holds.1.1
  keeps before after invariant quiet holds := by
    refine ⟨quietAssertion_watched.keeps before after invariant quiet holds.1, ?_⟩
    rw [quiet.move.sameFences.deliveryOff]
    exact holds.2

theorem quietAssertion_cleared {worker : String} {channel : Channel} {ids : List String} :
    QuietAssertion (.worker worker) (Cleared worker channel ids) where
  stable := stable_cleared
  calm _ holds := holds.1.1.1
  keeps before after invariant quiet holds := by
    refine ⟨quietAssertion_deliveryOpen.keeps before after invariant quiet holds.1, ?_⟩
    intro subscriber id member
    exact ((holds.2 subscriber id member).later (quiet.move.outbox_base invariant)
      (quiet.move.slots_base invariant)).sameFences quiet.move.sameFences

/-! ## Scripts without calls -/

variable {α : Type} {assertion : Host → Prop} {script : Script α}

theorem valid_of_quiet {step : Host → Host → Prop} (quiet : QuietAssertion actor assertion)
    (does : Script.Does step script)
    (moves : ∀ before after, step before after → FenceInvariant before → Calm actor before →
      QuietMove actor before after) :
    fenceProtocol.Valid System.anyAction actor assertion script fun _ => assertion := by
  apply does.valid quiet.stable
  intro before after invariant holds step
  have moved := moves before after step invariant (quiet.calm before holds)
  have kept := moved.move.kept invariant
  exact ⟨kept.1, kept.2, quiet.keeps before after invariant moved holds⟩

theorem QuietAssertion.background (quiet : QuietAssertion actor assertion)
    (does : Script.Does (BackgroundStep actor) script) :
    fenceProtocol.Valid System.anyAction actor assertion script fun _ => assertion :=
  valid_of_quiet quiet does fun _ _ => BackgroundStep.quietMove

theorem QuietAssertion.ingest (quiet : QuietAssertion actor assertion)
    (request : (Tx.work actor).isRequest) (does : Script.Does (IngestStep actor) script) :
    fenceProtocol.Valid System.anyAction actor assertion script fun _ => assertion :=
  valid_of_quiet quiet does fun _ _ step => step.quietMove request

theorem QuietAssertion.wechat (quiet : QuietAssertion actor assertion)
    (does : Script.Does (WechatStep actor) script) :
    fenceProtocol.Valid System.anyAction actor assertion script fun _ => assertion :=
  valid_of_quiet quiet does fun _ _ => WechatStep.quietMove

theorem QuietAssertion.worker {worker : String}
    (quiet : QuietAssertion (.worker worker) assertion)
    (does : Script.Does (WorkerStep worker) script) :
    fenceProtocol.Valid System.anyAction (.worker worker) assertion script
      fun _ => assertion :=
  valid_of_quiet quiet does fun _ _ => WorkerStep.quietMove

theorem QuietAssertion.raise (quiet : QuietAssertion actor assertion) {value : α}
    {post : α → Host → Prop} :
    fenceProtocol.Valid System.anyAction actor assertion (Script.raise value) post := by
  apply Protocol.valid_act (fun _ _ _ => False) quiet.stable
  · rintro before input after _ _ _ ⟨⟩
  · exact fun _ _ => Protocol.valid_ret fun _ _ impossible => impossible.elim

end

/-! ## The guard -/

section

variable {actor : Actor}

/-- A process that fences nothing reads the committed switch. -/
theorem view_control {host : Host} {tx : Tx} (invariant : FenceInvariant host)
    (unfenced : ¬Fenced tx host) :
    (host.control.cell ()).view tx = (host.control.cell ()).base := by
  unfold Cell.view
  split
  · rename_i holder row held
    split
    · rename_i same
      subst same
      exact absurd (invariant.control holder row held) unfenced
    · rfl
  · rfl

/-- A process that fences nothing reads the committed preferences. -/
theorem view_pauses {host : Host} {tx : Tx} (invariant : FenceInvariant host)
    (unfenced : ¬Fenced tx host) (key : String × Int) :
    (host.pauses.cell key).view tx = (host.pauses.cell key).base := by
  unfold Cell.view
  split
  · rename_i holder row held
    split
    · rename_i same
      subst same
      exact absurd (invariant.pauses key holder row held) unfenced
    · rfl
  · rfl

theorem valid_raiseGuard :
    fenceProtocol.Valid System.anyAction actor (Calm actor)
      (Script.lock (.guard actor) .delivery .shared) fun _ => Watched actor := by
  apply Protocol.valid_act (fun _ _ => Watched actor) stable_calm
  · intro before input after invariant calm _ acted
    dsimp only at acted
    split at acted
    · rename_i free
      cases acted
      have quiet : QuietMove actor before
          { before with locks := ⟨.delivery, .shared, .guard actor⟩ :: before.locks } :=
        quietMove_lock rfl free fun _ => rfl
      have kept := quiet.move.kept invariant
      exact ⟨kept.1, kept.2, quietAssertion_calm.keeps _ _ invariant quiet calm,
        List.mem_cons_self⟩
    · cases acted
  · exact fun _ _ => Protocol.valid_ret fun _ _ holds => holds

/-- What the guard tells its process about delivery. -/
def Informed (actor : Actor) (control : Option ControlRow) (host : Host) : Prop :=
  Watched actor host ∧
    (control.any ControlRow.deliveryEnabled = true → deliveryOff host.log = false)

theorem valid_readControl :
    fenceProtocol.Valid System.anyAction actor (Watched actor)
      (Script.select (.guard actor) fun snapshot => snapshot.control.row ())
      fun control => Informed actor control := by
  apply Protocol.valid_act (fun before _ => Informed actor
    ((before.control.cell ()).view (.guard actor))) stable_watched
  · rintro before input after invariant holds _ ⟨⟩
    have kept := (quietMove_of_frame rfl rfl rfl rfl rfl rfl rfl :
      QuietMove actor before before).move.kept invariant
    refine ⟨kept.1, kept.2, holds, fun enabled => ?_⟩
    rw [view_control invariant (holds.1.unfenced _ rfl)] at enabled
    obtain ⟨row, stored, isOn⟩ := (Option.any_eq_true ..).mp enabled
    by_contra off
    rw [Bool.not_eq_false] at off
    rw [invariant.off off row stored] at isOn
    cases isOn
  · exact fun _ _ => Protocol.valid_ret fun _ _ holds => holds

theorem valid_lowerGuard :
    fenceProtocol.Valid System.anyAction actor (Watched actor)
      (Script.commit (.guard actor)) fun _ => Calm actor := by
  apply Protocol.valid_act (fun _ _ => Calm actor) stable_watched
  · rintro before input after invariant holds _ ⟨⟩
    have move : PlainMove actor before (before.commit (.guard actor)) :=
      plainMove_commit rfl invariant (holds.1.unfenced _ rfl) fun _ => holds.1.idle
    have kept := move.kept invariant
    refine ⟨kept.1, kept.2, ?_, holds.1.idle⟩
    intro tx own fenced
    exact holds.1.unfenced tx own (List.mem_of_mem_filter fenced)
  · exact fun _ _ => Protocol.valid_ret fun _ _ holds => holds

/-- The body of the guard runs with the guard up. -/
theorem valid_deliveryGuard {body : Bool → Script Unit}
    (opened : fenceProtocol.Valid System.anyAction actor (DeliveryOpen actor) (body true)
      fun _ => Watched actor)
    (closed : fenceProtocol.Valid System.anyAction actor (Watched actor) (body false)
      fun _ => Watched actor) :
    fenceProtocol.Valid System.anyAction actor (Calm actor) (deliveryGuard actor body)
      fun _ => Calm actor := by
  apply Protocol.Valid.bind _ valid_raiseGuard
  intro _
  apply Protocol.Valid.bind _ valid_readControl
  intro control
  cases control with
  | none =>
      apply Protocol.Valid.mono quietAssertion_watched.raise
      · exact fun _ _ holds => holds.1
      · exact fun _ _ _ holds => holds
  | some control =>
      apply Protocol.Valid.bind (fun _ => Watched actor)
      · cases enabled : control.deliveryEnabled with
        | true =>
            apply Protocol.Valid.mono opened
            · exact fun host _ holds => ⟨holds.1, holds.2 enabled⟩
            · exact fun _ _ _ holds => holds
        | false =>
            apply Protocol.Valid.mono closed
            · exact fun host _ holds => holds.1
            · exact fun _ _ _ holds => holds
      · exact fun _ => valid_lowerGuard

/-! ## Calls -/

/-- A call starts under its process's guard. -/
theorem Calling.of_started {send : Send} {host : Host} (watched : Watched send.actor host)
    (guarded : Guarded send.actor (host.record send.started)) :
    Calling send (host.record send.started) where
  unfenced := watched.1.unfenced
  guarded := guarded
  only other mine running := by
    rcases running with started | ⟨_, older⟩
    · cases send <;> cases other <;> cases started <;> rfl
    · exact absurd older (watched.1.idle other mine)

/-- A call that has ended leaves its process calm. -/
theorem Calling.ended {send : Send} {host : Host} {event : Event} (calling : Calling send host)
    (ends : event.ends send = true) (unstarted : ∀ other : Send, event ≠ other.started) :
    Watched send.actor (host.record event) := by
  refine ⟨⟨calling.unfenced, ?_⟩, calling.guarded⟩
  rintro other mine (started | ⟨running, older⟩)
  · exact unstarted other started
  · have same := calling.only other mine older
    subst same
    rw [ends] at running
    cases running

/-- Recording an entry is a move. -/
theorem plainMove_record {host : Host} {event : Event} (admitted : Admitted actor host event) :
    PlainMove actor host (host.record event) :=
  PlainMove.record (plainMove_of_frame rfl rfl rfl rfl rfl rfl rfl) rfl
    (fun _ member _ => member) admitted

end

section

variable {worker : String} {channel : Channel}

theorem valid_fencedBeginSend {rows : List ClaimedRow} {email : String × String × String} :
    fenceProtocol.Valid System.anyAction (.worker worker)
      (Cleared worker channel (rows.map ClaimedRow.id))
      (Script.beginSend (emailCall worker channel rows email) (.beginCall (digestClaim rows)))
      fun call host => Calling (.email call) host ∧ call.worker = worker := by
  apply Protocol.valid_act
    (fun before _ => Calling (.email (emailCall worker channel rows email before.clock)))
    stable_cleared
  · rintro before input after invariant cleared _ ⟨⟩
    have move := (plainMove_record (show Admitted (.worker worker) before
      (.began (emailCall worker channel rows email before.clock)) from
        ⟨rfl, cleared.1.1.2, cleared.1.2, cleared.2⟩))
    have kept := move.kept invariant
    exact ⟨kept.1, kept.2, Calling.of_started cleared.1.1 cleared.1.1.2⟩
  · exact fun before input => Protocol.valid_ret fun _ _ holds => ⟨holds, rfl⟩

theorem valid_fencedOutcome {call : Call} (caller : call.worker = worker) :
    fenceProtocol.Valid System.anyAction (.worker worker) (Calling (.email call))
      (Script.awaitOutcome call) fun _ => Watched (.worker worker) := by
  subst caller
  apply Protocol.valid_act (fun _ _ => Watched (.worker call.worker))
    (stable_calling (.email call))
  · intro before input after invariant calling _ acted
    cases input with
    | outcome outcome =>
        cases acted
        have kept := (plainMove_record (show Admitted (.worker call.worker) before
          (.ended call outcome) from rfl)).kept invariant
        refine ⟨kept.1, kept.2, calling.ended (by simp [Event.ends]) ?_⟩
        intro other
        cases other <;> rintro ⟨⟩
    | _ => cases acted
  · exact fun before input => Protocol.valid_ret fun _ _ holds => holds

theorem valid_fencedSend {rows : List ClaimedRow} {attemptId : String} :
    fenceProtocol.Valid System.anyAction (.worker worker)
      (Cleared worker channel (rows.map ClaimedRow.id))
      (sendEmail channel rows worker attemptId) fun _ => Watched (.worker worker) := by
  unfold sendEmail
  cases composeEmail channel rows with
  | none => exact quietAssertion_cleared.raise
  | some email =>
      apply Protocol.Valid.bind _ valid_fencedBeginSend
      intro call
      apply Protocol.valid_of_fact
      intro caller
      apply Protocol.Valid.bind _ (valid_fencedOutcome caller)
      exact fun outcome => quietAssertion_watched.worker WorkerStep.does_completeEmail

/-- The dispatch query returns only rows that no fence affects. -/
theorem clearRow_of_valid {rows : List ClaimedRow} {now : Int} {host : Host} {id : String}
    (invariant : FenceInvariant host) (calm : Calm (.worker worker) host)
    (member : id ∈ validIds .subscriber rows worker now (host.view (.work (.worker worker)))) :
    ClearRow host host.log id := by
  have foreign : ¬(Tx.work (.worker worker)).isRequest := by
    rintro ⟨number, ⟨⟩⟩
  obtain ⟨row, seen, accepted⟩ := (Option.any_eq_true ..).mp (List.mem_filter.mp member).2
  simp only [dispatchable, Bool.and_eq_true] at accepted
  have usable := accepted.2.2
  unfold subscriberDispatchable at usable
  split at usable
  · rename_i subscription slot subscribed slotSeen
    simp only [Bool.and_eq_true, Snapshot.eligible, Bool.not_eq_true'] at usable
    obtain ⟨⟨⟨⟨⟨_, ⟨active, _⟩, _⟩, _⟩, unpaused⟩, _⟩, _⟩ := usable
    obtain ⟨storedRow, rowBase, sameRow⟩ := (invariant.outbox id).base_of_view seen foreign
    obtain ⟨storedSlot, slotBase, sameDate⟩ :=
      (invariant.slots row.eventKey).base_of_view slotSeen foreign
    simp only [OutboxRow.identity, Prod.mk.injEq] at sameRow
    obtain ⟨sameEmail, sameSubscription, sameKey⟩ := sameRow
    refine ⟨storedRow, storedSlot, rowBase, by rw [sameKey]; exact slotBase, ?_, ?_⟩
    · intro cancelled
      rw [sameSubscription] at cancelled
      have inactive := (invariant.cancelled _ cancelled).2 subscription
        (Cell.version_of_view subscribed)
      rw [inactive] at active
      cases active
    · rw [sameEmail, sameDate]
      by_contra paused
      rw [Bool.not_eq_false] at paused
      obtain ⟨rule, stored, isPaused⟩ := invariant.rules _ _ paused
      have read : (host.pauses.cell (row.email, slot.bookingDate)).view
          (.work (.worker worker)) = some rule := by
        rw [view_pauses invariant (calm.unfenced _ rfl)]
        exact stored
      have found : (host.view (.work (.worker worker))).pauses.row
          (row.email, slot.bookingDate) = some rule := read
      simp only [Snapshot.isPaused, found] at unpaused
      rw [isPaused] at unpaused
      cases unpaused
  · cases usable

theorem valid_fencedSelect {rows : List ClaimedRow} {now : Int} :
    fenceProtocol.Valid System.anyAction (.worker worker) (DeliveryOpen (.worker worker))
      (Script.select (.work (.worker worker)) (validIds channel rows worker now))
      fun valid => Cleared worker channel valid := by
  apply Protocol.valid_act (fun before _ => Cleared worker channel
    (validIds channel rows worker now (before.view (.work (.worker worker)))))
    stable_deliveryOpen
  · rintro before input after invariant holds _ ⟨⟩
    have kept := (quietMove_of_frame rfl rfl rfl rfl rfl rfl rfl :
      QuietMove (.worker worker) before before).move.kept invariant
    refine ⟨kept.1, kept.2, holds, ?_⟩
    rintro rfl id member
    exact clearRow_of_valid invariant holds.1.1 member
  · exact fun _ _ => Protocol.valid_ret fun _ _ holds => holds

theorem valid_fencedDispatchCommit {ids : List String} {assertion : Host → Prop}
    (quiet : QuietAssertion (.worker worker) assertion) :
    fenceProtocol.Valid System.anyAction (.worker worker) assertion
      (Script.commitRecording (.work (.worker worker)) (.dispatched worker channel ids))
      fun _ => assertion := by
  apply Protocol.valid_act (fun _ _ => assertion) quiet.stable
  · rintro before input after invariant holds _ ⟨⟩
    have moved : QuietMove (.worker worker) before
        ((before.commit (.work (.worker worker))).record (.dispatched worker channel ids)) := by
      apply quietMove_commitRecording invariant (quiet.calm before holds)
      · trivial
      · intro send
        cases send <;> rintro ⟨⟩
      · exact fun _ => rfl
    have kept := moved.move.kept invariant
    exact ⟨kept.1, kept.2, quiet.keeps _ _ invariant moved holds⟩
  · exact fun _ _ => Protocol.valid_ret fun _ _ holds => holds

theorem valid_fencedDispatch {rows : List ClaimedRow} :
    fenceProtocol.Valid System.anyAction (.worker worker) (DeliveryOpen (.worker worker))
      (dispatchEmail channel rows worker) fun _ => Watched (.worker worker) := by
  apply Protocol.Valid.bind _
    (quietAssertion_deliveryOpen.background BackgroundStep.does_utcNow)
  intro now
  apply Protocol.Valid.bind _ valid_fencedSelect
  intro valid
  apply Protocol.Valid.bind _ (quietAssertion_cleared.background
    (Script.does_when fun _ => BackgroundStep.does_outbox fun _ _ _ _ => expireAtDispatch_move))
  intro _
  split
  · apply Protocol.Valid.mono (quietAssertion_cleared.background
      (Script.Does.bind (Script.does_when fun _ => BackgroundStep.does_claims fun _ _ _ _ =>
        releaseUnusedClaim_move) fun _ => BackgroundStep.does_finish))
    · exact fun _ _ holds => holds
    · exact fun _ _ _ holds => holds.1.1
  · apply Protocol.Valid.bind _ (quietAssertion_cleared.background
      (Script.does_freshId fun _ => BackgroundStep.idle))
    intro attemptId
    apply Protocol.Valid.bind _ (quietAssertion_cleared.background
      (Script.does_insert fun _ _ _ => BackgroundStep.attempts _))
    intro _
    apply Protocol.Valid.bind _ (quietAssertion_cleared.worker
      (WorkerStep.does_rows fun _ _ _ _ => WorkerStep.sameSubject_markDispatching))
    intro _
    apply Protocol.Valid.bind _ (valid_fencedDispatchCommit quietAssertion_cleared)
    intro _
    apply Protocol.Valid.mono valid_fencedSend
    · intro host _ holds
      refine ⟨holds.1, fun subscriber id member => holds.2 subscriber id ?_⟩
      obtain ⟨row, chosen, rfl⟩ := List.mem_map.mp member
      simpa using (List.mem_filter.mp chosen).2
    · exact fun _ _ _ holds => holds

theorem valid_fencedAttempt {rows : List ClaimedRow} :
    fenceProtocol.Valid System.anyAction (.worker worker) (Calm (.worker worker))
      (attemptEmail channel rows worker) fun _ => Calm (.worker worker) := by
  apply valid_deliveryGuard
  · exact valid_fencedDispatch
  · exact Protocol.valid_ret fun _ _ holds => holds

/-! ## The worker's cycle -/

theorem valid_fencedSystemLoop (rounds : Nat) :
    fenceProtocol.Valid System.anyAction (.worker worker) (Calm (.worker worker))
      (systemLoop worker rounds) fun _ => Calm (.worker worker) := by
  induction rounds with
  | zero => exact Protocol.valid_ret fun _ _ holds => holds
  | succ rounds ih =>
      apply Protocol.Valid.bind _ (quietAssertion_calm.background
        (Script.does_awaitFlag fun _ => BackgroundStep.idle))
      intro late
      split
      · exact Protocol.valid_ret fun _ _ holds => holds
      · apply Protocol.Valid.bind _ (quietAssertion_calm.worker WorkerStep.does_claimSystem)
        intro claimed
        cases claimed with
        | none => exact Protocol.valid_ret fun _ _ holds => holds
        | some row =>
            apply Protocol.Valid.bind _ valid_fencedAttempt
            exact fun _ => ih

theorem valid_fencedSubscriberLoop {settings : Settings} (rounds : Nat) :
    fenceProtocol.Valid System.anyAction (.worker worker) (Calm (.worker worker))
      (subscriberLoop worker settings rounds) fun _ => Calm (.worker worker) := by
  induction rounds with
  | zero => exact Protocol.valid_ret fun _ _ holds => holds
  | succ rounds ih =>
      apply Protocol.Valid.bind _ (quietAssertion_calm.background
        (Script.does_awaitFlag fun _ => BackgroundStep.idle))
      intro late
      split
      · exact Protocol.valid_ret fun _ _ holds => holds
      · apply Protocol.Valid.bind _
          (quietAssertion_calm.background BackgroundStep.does_nextSubscriberTarget)
        intro target
        cases target with
        | none => exact Protocol.valid_ret fun _ _ holds => holds
        | some target =>
            apply Protocol.Valid.bind _ (quietAssertion_calm.background
              (Script.does_awaitWeather fun _ => BackgroundStep.idle))
            intro weather
            apply Protocol.Valid.bind _
              (quietAssertion_calm.worker WorkerStep.does_claimSubscriberGroup)
            intro rows
            apply Protocol.Valid.bind (fun _ => Calm (.worker worker))
            · unfold Script.when
              split
              · exact valid_fencedAttempt
              · exact Protocol.valid_ret fun _ _ holds => holds
            · exact fun _ => ih

theorem valid_fencedCycle {settings : Settings} :
    fenceProtocol.Valid System.anyAction (.worker worker) (Calm (.worker worker))
      (runCycle worker settings) fun _ => Calm (.worker worker) := by
  apply Protocol.Valid.bind _ (quietAssertion_calm.background BackgroundStep.does_expireUnusable)
  intro _
  apply Protocol.Valid.bind _ (valid_fencedSystemLoop systemBatch)
  intro _
  apply Protocol.Valid.bind _ (valid_fencedSubscriberLoop subscriberRowsPerDigest)
  intro _
  exact quietAssertion_calm.background BackgroundStep.does_reconcile

end

/-! ## The WeChat consumer -/

section

variable {worker : String} {digests : Digests}

theorem valid_fencedBeginPost {rowId : String} {request : Sender.SendRequest} :
    fenceProtocol.Valid System.anyAction (.wechat worker) (DeliveryOpen (.wechat worker))
      (Script.beginPost worker rowId request)
      fun post host => Calling (.wechat post) host ∧ post.worker = worker := by
  apply Protocol.valid_act
    (fun before _ => Calling (.wechat ⟨before.log.length, worker, rowId, request⟩))
    stable_deliveryOpen
  · rintro before input after invariant holds _ ⟨⟩
    have kept := (plainMove_record (show Admitted (.wechat worker) before
      (.posted ⟨before.log.length, worker, rowId, request⟩) from
        ⟨rfl, holds.1.2, holds.2⟩)).kept invariant
    exact ⟨kept.1, kept.2, Calling.of_started holds.1 holds.1.2⟩
  · exact fun before input => Protocol.valid_ret fun _ _ holds => ⟨holds, rfl⟩

theorem valid_fencedAnswer {post : Post} (caller : post.worker = worker) :
    fenceProtocol.Valid System.anyAction (.wechat worker) (Calling (.wechat post))
      (Script.awaitAnswer post) fun _ => Watched (.wechat worker) := by
  subst caller
  apply Protocol.valid_act (fun _ _ => Watched (.wechat post.worker))
    (stable_calling (.wechat post))
  · intro before input after invariant calling _ acted
    cases input with
    | answer answer =>
        cases acted
        have kept := (plainMove_record (show Admitted (.wechat post.worker) before
          (.answered post answer) from rfl)).kept invariant
        refine ⟨kept.1, kept.2, calling.ended (by simp [Event.ends]) ?_⟩
        intro other
        cases other <;> rintro ⟨⟩
    | _ => cases acted
  · exact fun before input => Protocol.valid_ret fun _ _ holds => holds

theorem valid_fencedDeliver {claimed : ClaimedWechat} :
    fenceProtocol.Valid System.anyAction (.wechat worker) (Calm (.wechat worker))
      (deliverWechat digests claimed worker) fun _ => Calm (.wechat worker) := by
  apply valid_deliveryGuard
  · apply Protocol.Valid.bind _ (quietAssertion_deliveryOpen.wechat
      (Script.does_awaitFlag fun _ => WechatStep.idle))
    intro ready
    split
    · apply Protocol.Valid.bind _
        (quietAssertion_deliveryOpen.wechat WechatStep.does_prepareWechat)
      intro prepared
      cases prepared with
      | none => exact Protocol.valid_ret fun _ _ holds => holds.1
      | some prepared =>
          apply Protocol.Valid.bind _ valid_fencedBeginPost
          intro post
          apply Protocol.valid_of_fact
          intro caller
          apply Protocol.Valid.bind _ (valid_fencedAnswer caller)
          exact fun answer => quietAssertion_watched.wechat WechatStep.does_concludeWechat
    · apply Protocol.Valid.mono
        (quietAssertion_deliveryOpen.wechat WechatStep.does_finishWechat)
      · exact fun _ _ holds => holds
      · exact fun _ _ _ holds => holds.1
  · exact quietAssertion_watched.wechat WechatStep.does_finishWechat

theorem valid_fencedEvidence {key payloadHash : String} :
    fenceProtocol.Valid System.anyAction (.wechat worker) (Calm (.wechat worker))
      (Script.awaitEvidence key payloadHash) fun _ => Calm (.wechat worker) := by
  apply Protocol.valid_act (fun _ _ => Calm (.wechat worker)) stable_calm
  · intro before input after invariant calm _ acted
    cases input with
    | evidence evidence =>
        cases evidence with
        | none =>
            cases acted
            have kept := (quietMove_of_frame rfl rfl rfl rfl rfl rfl rfl :
              QuietMove (.wechat worker) before before).move.kept invariant
            exact ⟨kept.1, kept.2, calm⟩
        | some evidence =>
            cases acted
            have kept := (plainMove_record (show Admitted (.wechat worker) before
              (.evidenced key payloadHash evidence) from trivial)).kept invariant
            refine ⟨kept.1, kept.2, calm.unfenced, fun send mine running => ?_⟩
            refine calm.idle send mine ((inProgress_cons_iff ?_ rfl).mp running)
            cases send <;> rintro ⟨⟩
    | _ => cases acted
  · exact fun _ _ => Protocol.valid_ret fun _ _ holds => holds

theorem valid_fencedLookUp {entry : String × WechatRow} {payloadHash : String}
    (keys : List String) :
    fenceProtocol.Valid System.anyAction (.wechat worker) (Calm (.wechat worker))
      (lookUp digests entry worker payloadHash keys) fun _ => Calm (.wechat worker) := by
  induction keys with
  | nil => exact Protocol.valid_ret fun _ _ holds => holds
  | cons key keys ih =>
      apply Protocol.Valid.bind _ valid_fencedEvidence
      intro evidence
      cases evidence with
      | none => exact Protocol.valid_ret fun _ _ holds => holds
      | some evidence =>
          dsimp only
          split
          · exact ih
          · exact quietAssertion_calm.wechat WechatStep.does_confirmWechat

theorem valid_fencedReconcile :
    fenceProtocol.Valid System.anyAction (.wechat worker) (Calm (.wechat worker))
      (reconcileUnknown digests worker) fun _ => Calm (.wechat worker) := by
  apply Protocol.Valid.bind _ (quietAssertion_calm.wechat WechatStep.does_utcNow)
  intro now
  apply Protocol.Valid.bind _ (quietAssertion_calm.wechat WechatStep.does_lockRows)
  intro entries
  apply Protocol.Valid.bind _ (quietAssertion_calm.wechat
    (Script.does_forM _ fun _ _ => WechatStep.does_rows))
  intro _
  apply Protocol.Valid.bind _ (quietAssertion_calm.wechat WechatStep.does_finish)
  intro _
  apply Protocol.valid_forM
  intro entry _
  unfold reconcileWechat
  split
  · exact Protocol.valid_ret fun _ _ holds => holds
  · exact valid_fencedLookUp _

/-- The session lock is not the delivery lock. -/
theorem valid_fencedTryLock :
    fenceProtocol.Valid System.anyAction (.wechat worker) (Calm (.wechat worker))
      (Script.tryLock (.wechat worker) .consumer) fun _ => Calm (.wechat worker) := by
  apply Protocol.valid_act (fun _ _ => Calm (.wechat worker)) stable_calm
  · intro before input after invariant calm _ acted
    have quiet : QuietMove (.wechat worker) before after := by
      split at acted
      · rename_i free
        cases acted
        exact quietMove_lock rfl free nofun
      · cases acted
        exact quietMove_of_frame rfl rfl rfl rfl rfl rfl rfl
    have kept := quiet.move.kept invariant
    exact ⟨kept.1, kept.2, quietAssertion_calm.keeps _ _ invariant quiet calm⟩
  · exact fun _ _ => Protocol.valid_ret fun _ _ holds => holds

theorem valid_fencedLeave :
    fenceProtocol.Valid System.anyAction (.wechat worker) (Calm (.wechat worker))
      (Script.commit (.session (.wechat worker))) fun _ => Calm (.wechat worker) := by
  apply Protocol.valid_act (fun _ _ => Calm (.wechat worker)) stable_calm
  · rintro before input after invariant calm _ ⟨⟩
    have move : PlainMove (.wechat worker) before (before.commit (.session (.wechat worker))) :=
      plainMove_commit rfl invariant (calm.unfenced _ rfl) nofun
    have kept := move.kept invariant
    refine ⟨kept.1, kept.2, ?_, calm.idle⟩
    intro tx own fenced
    exact calm.unfenced tx own (List.mem_of_mem_filter fenced)
  · exact fun _ _ => Protocol.valid_ret fun _ _ holds => holds

theorem valid_fencedConsumerLoop (rounds : Nat) :
    fenceProtocol.Valid System.anyAction (.wechat worker) (Calm (.wechat worker))
      (consumerLoop digests worker rounds) fun _ => Calm (.wechat worker) := by
  induction rounds with
  | zero => exact valid_fencedLeave
  | succ rounds ih =>
      apply Protocol.Valid.bind _ (quietAssertion_calm.wechat WechatStep.does_claimIfEnabled)
      intro claimed
      cases claimed with
      | some claimed =>
          apply Protocol.Valid.bind _ valid_fencedDeliver
          exact fun _ => ih
      | none =>
          apply Protocol.Valid.bind _ (quietAssertion_calm.wechat
            (Script.does_awaitFlag fun _ => WechatStep.idle))
          intro due
          split
          · apply Protocol.Valid.bind _ valid_fencedReconcile
            exact fun _ => ih
          · exact ih

theorem valid_fencedConsumer {rounds : Nat} :
    fenceProtocol.Valid System.anyAction (.wechat worker) (Calm (.wechat worker))
      (consumer digests worker rounds) fun _ => Calm (.wechat worker) := by
  apply Protocol.Valid.bind _ valid_fencedTryLock
  intro free
  split
  · exact valid_fencedConsumerLoop rounds
  · exact quietAssertion_calm.raise

end

end TennisAlerts.HostCore
