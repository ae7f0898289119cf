import TennisAlerts.Properties.SendProtocol

/-!
# Rows are not sent again

Every script of the host keeps the send protocol, provided that the
`dispatching` update still finds its rows leased to the worker.  The code does
not check this, and `sendRace` is a run in which a worker stalls before the
update and then sends rows that another worker has sent.
-/

namespace TennisAlerts.HostCore

open TennisAlerts.Concurrent TennisAlerts.Database

/-! ## Assertions of a worker -/

section

variable (worker : String) (channel : Channel) (ids : List String) (host : Host)

/-- The worker's transaction holds the rows, and they are open. -/
def HeldOpen : Prop :=
  Holds (.outbox channel) (.work (.worker worker)) ids (fun row => row.status.open = true) host

/-- No possibly accepted call of the worker included the rows. -/
def Unspent : Prop :=
  ∀ id ∈ ids, ¬SpentBy host.log worker channel id

/-- The rows are in the worker's flight, and no call of it spent them. -/
def Airborne : Prop :=
  Unspent worker channel ids host ∧ ∀ id ∈ ids, InFlight host worker channel id

/-- The worker's transaction holds the rows, dispatching and leased to it. -/
def HeldDispatching : Prop :=
  Holds (.outbox channel) (.work (.worker worker)) ids
    (fun row => row.status = .dispatching ∧ row.leaseOwner = some worker) host

end

/-- What a worker knows of its rows when a call ended. -/
def Ended (worker : String) (channel : Channel) (ids : List String) (outcome : SendOutcome)
    (host : Host) : Prop :=
  outcome.possiblyAccepted = false → Unspent worker channel ids host

section

variable {worker : String} {channel : Channel} {ids : List String}

theorem stable_heldOpen :
    sendProtocol.Stable (.worker worker) (HeldOpen worker channel ids) := by
  intro before after _ _ relied holds
  exact Holds.of_unchanged holds (relied.held channel)

theorem stable_heldDispatching :
    sendProtocol.Stable (.worker worker) (HeldDispatching worker channel ids) := by
  intro before after _ _ relied holds
  exact Holds.of_unchanged holds (relied.held channel)

theorem stable_unspent :
    sendProtocol.Stable (.worker worker) (Unspent worker channel ids) := by
  intro before after _ _ relied holds id member spent
  exact holds id member ((relied.spent worker channel id rfl).mp spent)

theorem stable_airborne :
    sendProtocol.Stable (.worker worker) (Airborne worker channel ids) := by
  intro before after beforeInv afterInv relied holds
  constructor
  · exact stable_unspent beforeInv afterInv relied holds.1
  · intro id member
    exact relied.flight worker channel id rfl (holds.2 id member)

theorem stable_ended {outcome : SendOutcome} :
    sendProtocol.Stable (.worker worker) (Ended worker channel ids outcome) := by
  intro before after beforeInv afterInv relied holds rejected
  exact stable_unspent beforeInv afterInv relied (holds rejected)

theorem stable_true {actor : Actor} : sendProtocol.Stable actor fun _ => True :=
  fun _ _ _ _ _ _ => trivial

end

/-! ## Scripts without sends -/

/-- A script whose actions are steps of the protocol keeps a stable assertion
that they keep. -/
theorem valid_of_does {α : Type} {actor : Actor} {step : Host → Host → Prop}
    {assertion : Host → Prop} {script : Script α} (does : Script.Does step script)
    (stable : sendProtocol.Stable actor assertion)
    (sound : ∀ before after, SendInvariant before → step before after →
      SendStep actor before after)
    (kept : ∀ before after, step before after → assertion before → assertion after) :
    sendProtocol.Valid leasedAtDispatch actor assertion script fun _ => assertion := by
  apply Protocol.valid_of_forall stable
  refine Program.Forall.mono ?_ does
  intro label action steps before input after invariant holds _ acted
  have stepped := steps before input after acted
  have follows := sound before after invariant stepped
  exact ⟨follows.1, follows.2, kept before after stepped holds⟩

/-- The background work records nothing about sends. -/
theorem BackgroundStep.sameSends {actor : Actor} {before after : Host}
    (step : BackgroundStep actor before after) : SameSends before.log after.log := by
  cases step with
  | redeemed email => exact sameSends_cons rfl
  | _ => exact .refl

/-- Neither outbox rows nor the history change. -/
def QuietStep (before after : Host) : Prop :=
  after.outbox = before.outbox ∧ after.log = before.log

theorem valid_quiet {α : Type} {worker : String} {channel : Channel} {ids : List String}
    {script : Script α} (does : Script.Does QuietStep script) :
    sendProtocol.Valid leasedAtDispatch (.worker worker) (HeldOpen worker channel ids) script
      fun _ => HeldOpen worker channel ids := by
  apply valid_of_does does stable_heldOpen
  · exact fun before after invariant quiet => sendStep_of_same invariant quiet.1 quiet.2
  · intro before after quiet holds
    apply Holds.of_unchanged holds
    intro id _ _
    change (after.outbox channel).cell id = _
    rw [quiet.1]
    rfl

/-- Background work of the worker keeps what it knows of its own calls. -/
theorem valid_background {α : Type} {worker : String} {channel : Channel}
    {ids : List String} {script : Script α}
    (does : Script.Does (BackgroundStep (.worker worker)) script) :
    sendProtocol.Valid leasedAtDispatch (.worker worker) (Unspent worker channel ids) script
      fun _ => Unspent worker channel ids := by
  apply valid_of_does does stable_unspent
  · exact fun before after invariant step => step.sendStep invariant
  · intro before after step holds id member spent
    exact holds id member ((step.sameSends.spentBy _ _ _).mp spent)

/-! ## Claims -/

theorem RowStep.refl {actor : Actor} {host : Host} {channel : Channel} {id : String}
    {row : OutboxRow} (invariant : SendInvariant host)
    (version : (host.row channel id).Version row) :
    RowStep actor host channel id row row where
  released := invariant.released channel id row version
  settled spent := invariant.settled channel id row spent version
  owned _ owner _ := owner
  flying _ _ flying := flying

/-- An open row may take any version whose status is not final. -/
theorem RowStep.of_open {actor : Actor} {host : Host} {channel : Channel} {id : String}
    {row new : OutboxRow} (invariant : SendInvariant host)
    (version : (host.row channel id).Version row) (isOpen : row.status.open = true)
    (unfinished : new.status.final = false) : RowStep actor host channel id row new := by
  have unspent : ¬Spent host.log channel id := by
    intro spent
    have settled := invariant.settled channel id row spent version
    rw [Status.not_settled_of_open isOpen] at settled
    cases settled
  constructor
  · intro final
    rw [unfinished] at final
    cases final
  · exact fun spent => absurd spent unspent
  · exact fun _ _ spent => absurd spent unspent
  · rintro worker _ (⟨dispatching, _⟩ | ⟨unknown, _⟩)
    · rw [dispatching] at isOpen
      cases isOpen
    · rw [unknown] at isOpen
      cases isOpen

section

variable {worker : String} {channel : Channel}

/-- The rows that a claim locks are held and open. -/
theorem valid_selectForUpdate {order : OutboxRow → Int}
    {condition : Snapshot → OutboxRow → Bool} {limit : Nat}
    (opens : ∀ snapshot row, condition snapshot row = true → row.status.open = true) :
    sendProtocol.Valid leasedAtDispatch (.worker worker) (fun _ => True)
      (Script.selectForUpdate (.outbox channel) (.work (.worker worker)) order condition limit)
      fun entries => HeldOpen worker channel (entries.map Prod.fst) := by
  apply Protocol.valid_act (fun before _ => HeldOpen worker channel
    ((Script.lockable (.outbox channel) (.work (.worker worker)) order condition limit before).map
      Prod.fst)) stable_true
  · intro before input after invariant _ _ executed
    obtain ⟨writable, rfl⟩ := Script.execute_eq_some executed
    rw [lockKeys_eq] at writable ⊢
    have step := sendStep_write invariant writable fun id row new seen changed => by
      rw [eq_of_lockKeys changed]
      exact RowStep.refl invariant (Cell.version_of_view seen)
    exact ⟨step.1, step.2, holds_lockable opens⟩
  · exact fun before input => Protocol.valid_ret fun _ _ holds => holds

theorem sendStep_onIds {ids : List String} {change : OutboxRow → OutboxRow}
    {before : Host} (invariant : SendInvariant before) (holds : HeldOpen worker channel ids before)
    (unfinished : ∀ row, row.status.open = true → (change row).status.final = false)
    (writable : (before.outbox channel).writable (.work (.worker worker))
      (fun id row => (onIds ids change (before.view (.work (.worker worker))) id row).map some) =
        true) :
    SendStep (.worker worker) before ((TableRef.outbox channel).put
      ((before.outbox channel).write (.work (.worker worker)) fun id row =>
        (onIds ids change (before.view (.work (.worker worker))) id row).map some) before) := by
  apply sendStep_write invariant writable
  intro id row new seen changed
  simp only [onIds, Option.ite_none_right_eq_some, Option.some.injEq] at changed
  obtain ⟨member, rfl⟩ := changed
  obtain ⟨held, view, isOpen⟩ := Holds.view holds member
  have same : held = row := Option.some.inj (view.symm.trans seen)
  subst same
  exact RowStep.of_open invariant (Cell.version_of_view seen) isOpen (unfinished held isOpen)

/-- An update of the locked rows that keeps them open. -/
theorem valid_onIds {ids : List String} {change : OutboxRow → OutboxRow}
    (stays : ∀ row, row.status.open = true → (change row).status.open = true) :
    sendProtocol.Valid leasedAtDispatch (.worker worker) (HeldOpen worker channel ids)
      (Script.update (.outbox channel) (.work (.worker worker)) (onIds ids change))
      fun _ => HeldOpen worker channel ids := by
  apply Protocol.valid_act (fun _ _ => HeldOpen worker channel ids) stable_heldOpen
  · intro before input after invariant holds _ executed
    obtain ⟨writable, rfl⟩ := Script.execute_eq_some executed
    have step := sendStep_onIds invariant holds
      (fun row isOpen => Status.not_final_of_open (stays row isOpen)) writable
    refine ⟨step.1, step.2, Holds.write holds ?_⟩
    intro id member row isOpen
    exact ⟨change row, by simp [onIds, member], stays row isOpen⟩
  · exact fun before input => Protocol.valid_ret fun _ _ holds => holds

/-- A last update of the locked rows. -/
theorem valid_onIds_last {ids : List String} {change : OutboxRow → OutboxRow}
    (unfinished : ∀ row, row.status.open = true → (change row).status.final = false) :
    sendProtocol.Valid leasedAtDispatch (.worker worker) (HeldOpen worker channel ids)
      (Script.update (.outbox channel) (.work (.worker worker)) (onIds ids change))
      fun _ _ => True := by
  apply Protocol.valid_act (fun _ _ _ => True) stable_heldOpen
  · intro before input after invariant holds _ executed
    obtain ⟨writable, rfl⟩ := Script.execute_eq_some executed
    have step := sendStep_onIds invariant holds unfinished writable
    exact ⟨step.1, step.2, trivial⟩
  · exact fun before input => Protocol.valid_ret fun _ _ holds => holds

/-- A script of background steps needs and leaves nothing. -/
theorem valid_unconditional {α : Type} {actor : Actor} {script : Script α}
    (does : Script.Does (BackgroundStep actor) script) :
    sendProtocol.Valid leasedAtDispatch actor (fun _ => True) script fun _ _ => True := by
  apply valid_of_does does stable_true
  · exact fun before after invariant step => step.sendStep invariant
  · exact fun _ _ _ _ => trivial

/-- An exception goes nowhere. -/
theorem valid_raise {α : Type} {actor : Actor} {assertion : Host → Prop} {value : α}
    {post : α → Host → Prop} (stable : sendProtocol.Stable actor assertion) :
    sendProtocol.Valid leasedAtDispatch actor assertion (Script.raise value) post := by
  apply Protocol.valid_act (fun _ _ _ => False) stable
  · rintro before input after _ _ _ ⟨⟩
  · exact fun _ _ => Protocol.valid_ret fun _ _ impossible => impossible.elim

theorem valid_commit {α : Type} {before : Host → Prop} (value : α)
    (stable : sendProtocol.Stable (.worker worker) before) :
    sendProtocol.Valid leasedAtDispatch (.worker worker) before
      (do Script.commit (.work (.worker worker)); pure value) fun _ _ => True := by
  apply Protocol.valid_act (fun _ _ _ => True) stable
  · rintro host input after invariant _ _ ⟨⟩
    have step := sendStep_commit (.work (.worker worker)) invariant
    exact ⟨step.1, step.2, trivial⟩
  · exact fun _ _ => Protocol.valid_ret fun _ _ _ => trivial

theorem valid_claimSystem :
    sendProtocol.Valid leasedAtDispatch (.worker worker) (fun _ => True)
      (claimSystem worker) fun _ _ => True := by
  apply Protocol.Valid.bind (fun _ _ => True)
    (valid_unconditional BackgroundStep.does_utcNow)
  intro now
  apply Protocol.Valid.bind _ (valid_selectForUpdate ?_)
  · intro entries
    cases entries with
    | nil => exact valid_commit none stable_heldOpen
    | cons entry rest =>
        apply Protocol.Valid.bind (fun _ _ => True)
        · apply Protocol.Valid.mono (valid_onIds_last fun _ _ => rfl)
          · intro host _ holds id member
            rw [List.mem_singleton] at member
            exact holds id (by simp [member])
          · exact fun _ _ _ _ => trivial
        · exact fun _ => valid_commit _ stable_true
  · intro _ row accepted
    simp only [claimable, Bool.and_eq_true] at accepted
    exact accepted.1.1

theorem valid_suppressRows {entries : List (String × OutboxRow)} {reason : String}
    {now : Int} :
    sendProtocol.Valid leasedAtDispatch (.worker worker)
      (HeldOpen worker .subscriber (entries.map Prod.fst))
      (suppressRows worker entries reason now) fun _ _ => True := by
  apply Protocol.Valid.bind (fun _ _ => True) (valid_onIds_last fun _ _ => rfl)
  exact fun _ => valid_commit _ stable_true

theorem valid_reserveRows {target : Target} {entries : List (String × OutboxRow)}
    {now : Int} :
    sendProtocol.Valid leasedAtDispatch (.worker worker)
      (HeldOpen worker .subscriber (entries.map Prod.fst))
      (reserveRows worker target entries now) fun _ _ => True := by
  apply Protocol.Valid.bind _ (valid_onIds fun _ _ => rfl)
  intro _
  apply Protocol.Valid.bind _ (valid_quiet (Script.does_freshId fun _ => ⟨rfl, rfl⟩))
  intro claimId
  apply Protocol.Valid.bind _ (valid_quiet (Script.does_insert fun _ _ _ => ⟨rfl, rfl⟩))
  intro _
  have stays : ∀ row : OutboxRow, row.status.open = true →
      (linkClaim claimId row).status.open = true := fun _ isOpen => isOpen
  apply Protocol.Valid.bind _ (valid_onIds stays)
  intro _
  apply Protocol.valid_act (fun _ _ _ => True) stable_heldOpen
  · rintro host input after invariant _ _ ⟨⟩
    have step : SendStep (.worker worker) host ((host.commit (.work (.worker worker))).record
        (.reserved worker claimId (newClaim target.email now))) :=
      sendStep_commitRecording invariant rfl
    exact ⟨step.1, step.2, trivial⟩
  · exact fun _ _ => Protocol.valid_ret fun _ _ _ => trivial

theorem does_observe_quiet {α : Type} {label : Label} {value : Host → α} :
    Script.Does QuietStep (Script.observe label value) :=
  Script.does_observe fun _ => ⟨rfl, rfl⟩

theorem does_lock_quiet {tx : Tx} {key : LockKey} {mode : LockMode} :
    Script.Does QuietStep (Script.lock tx key mode) :=
  Script.does_lock fun _ _ => ⟨rfl, rfl⟩

theorem valid_claimUnderQuota {settings : Settings} {target : Target}
    {entries : List (String × OutboxRow)} {now : Int} :
    sendProtocol.Valid leasedAtDispatch (.worker worker)
      (HeldOpen worker .subscriber (entries.map Prod.fst))
      (claimUnderQuota worker settings target entries now) fun _ _ => True := by
  apply Protocol.Valid.bind _ (valid_quiet does_lock_quiet)
  intro _
  apply Protocol.Valid.bind _ (valid_quiet does_lock_quiet)
  intro _
  apply Protocol.Valid.bind _ (valid_quiet does_observe_quiet)
  intro userSubmitted
  apply Protocol.Valid.bind _ (valid_quiet does_observe_quiet)
  intro userReserved
  apply Protocol.Valid.bind _ (valid_quiet does_observe_quiet)
  intro globalSubmitted
  apply Protocol.Valid.bind _ (valid_quiet does_observe_quiet)
  intro globalReserved
  dsimp only
  split
  · exact valid_suppressRows
  · exact valid_reserveRows

theorem valid_claimSubscriberGroup {settings : Settings} {target : Target}
    {weather : WeatherDecision} :
    sendProtocol.Valid leasedAtDispatch (.worker worker) (fun _ => True)
      (claimSubscriberGroup worker settings target weather) fun _ _ => True := by
  apply Protocol.Valid.bind (fun _ _ => True)
    (valid_unconditional (BackgroundStep.does_advisory fun _ => rfl))
  intro _
  apply Protocol.Valid.bind (fun _ _ => True)
    (valid_unconditional BackgroundStep.does_utcNow)
  intro now
  apply Protocol.Valid.bind _ (valid_selectForUpdate ?_)
  · intro entries
    split
    · exact valid_commit _ stable_heldOpen
    · split
      · exact valid_suppressRows
      · exact valid_claimUnderQuota
  · intro _ row accepted
    simp only [claimableFor, claimable, Bool.and_eq_true] at accepted
    exact accepted.1.2.1.1

/-! ## The guarded send -/

/-- The rows that the dispatch query returns are spent by no call. -/
theorem unspent_of_validIds {rows : List ClaimedRow} {now : Int} {host : Host}
    (invariant : SendInvariant host) :
    Unspent worker channel
      (validIds channel rows worker now (host.view (.work (.worker worker)))) host := by
  intro id member spent
  rw [validIds, List.mem_filter] at member
  have accepted := member.2
  cases seen : ((host.view (.work (.worker worker))).outbox channel).row id with
  | none =>
      rw [seen] at accepted
      cases accepted
  | some row =>
      rw [seen, Option.any_some] at accepted
      simp only [dispatchable, Bool.and_eq_true, decide_eq_true_eq] at accepted
      have settled := invariant.settled channel id row ⟨worker, spent⟩
        (Cell.version_of_view seen)
      rw [accepted.1.1] at settled
      cases settled

/-- The `dispatching` update holds the rows it finds leased. -/
theorem valid_markDispatching {now : Int} {ids : List String} :
    sendProtocol.Valid leasedAtDispatch (.worker worker) (Unspent worker channel ids)
      (Script.update (.outbox channel) (.work (.worker worker))
        (fun _ id row => markDispatching worker now ids id row)
        (.dispatchUpdate channel worker ids))
      fun _ host => Unspent worker channel ids host ∧
        HeldDispatching worker channel ids host := by
  apply Protocol.valid_act (fun _ _ host => Unspent worker channel ids host ∧
    HeldDispatching worker channel ids host) stable_unspent
  · intro before input after invariant unspent leased executed
    obtain ⟨writable, rfl⟩ := Script.execute_eq_some executed
    have step := sendStep_write invariant writable fun id row new seen changed => by
      simp only [markDispatching, Option.ite_none_right_eq_some, Option.some.injEq] at changed
      obtain ⟨⟨_, owner⟩, rfl⟩ := changed
      constructor
      · rintro ⟨⟩
      · exact fun _ => rfl
      · exact fun _ same _ => same
      · rintro other different (⟨_, foreign⟩ | ⟨_, unowned⟩)
        · rw [owner] at foreign
          cases foreign
          exact absurd rfl different
        · rw [owner] at unowned
          cases unowned
    refine ⟨step.1, step.2, unspent, ?_⟩
    intro id member
    obtain ⟨row, seen, owner⟩ : ∃ row,
        (before.row channel id).view (.work (.worker worker)) = some row ∧
          row.leaseOwner = some worker := by
      simpa [Option.any_eq_true] using leased id member
    refine ⟨{ row with status := .dispatching, updatedAt := now }, ?_, rfl, owner⟩
    rw [TableRef.get_put]
    apply VersionedTable.held_write id seen
    simp [markDispatching, member, owner]
  · exact fun before input => Protocol.valid_ret fun _ _ holds => holds

theorem SendStep.trans {actor : Actor} {first second third : Host}
    (left : SendStep actor first second) (right : SendStep actor second third) :
    SendStep actor first third := by
  refine ⟨right.1, ?_⟩
  intro other different
  have before := left.2 different
  have after := right.2 different
  constructor
  · intro channel id row held
    have same := before.held channel id row held
    rw [← same] at held
    rw [after.held channel id row held, same]
  · intro name channel id isWorker
    rw [after.spent name channel id isWorker, before.spent name channel id isWorker]
  · intro name channel id isWorker flight
    exact after.flight name channel id isWorker (before.flight name channel id isWorker flight)

/-- Recording a dispatch of rows that are unspent and in nobody else's flight. -/
theorem sendStep_dispatched {ids : List String} {host : Host} (invariant : SendInvariant host)
    (unspent : ∀ id ∈ ids, ¬Spent host.log channel id)
    (alone : ∀ id ∈ ids, ∀ other, InFlight host other channel id → other = worker) :
    SendStep (.worker worker) host (host.record (.dispatched worker channel ids)) := by
  have spentBy : ∀ other wanted id,
      SpentBy (host.record (.dispatched worker channel ids)).log other wanted id ↔
        SpentBy host.log other wanted id :=
    fun _ _ _ => spentBy_cons_iff (by rintro call outcome ⟨⟩)
  have spent : ∀ wanted id, Spent (host.record (.dispatched worker channel ids)).log wanted id ↔
      Spent host.log wanted id :=
    fun _ _ => exists_congr fun _ => spentBy _ _ _
  have last : ∀ wanted id, ¬(channel = wanted ∧ id ∈ ids) →
      lastDispatch (host.record (.dispatched worker channel ids)).log wanted id =
        lastDispatch host.log wanted id :=
    fun _ _ foreign => if_neg foreign
  constructor
  · constructor
    · exact invariant.present
    · exact invariant.released
    · intro wanted id row isSpent
      exact invariant.settled wanted id row ((spent _ _).mp isSpent)
    · intro wanted id row other isSpent version owner
      exact (spentBy _ _ _).mpr
        (invariant.owned wanted id row other ((spent _ _).mp isSpent) version owner)
    · intro wanted id other isSpent dispatcher
      have wasSpent := (spent _ _).mp isSpent
      have foreign : ¬(channel = wanted ∧ id ∈ ids) := by
        rintro ⟨rfl, member⟩
        exact unspent id member wasSpent
      rw [last wanted id foreign] at dispatcher
      exact (spentBy _ _ _).mpr (invariant.dispatched wanted id other wasSpent dispatcher)
    · intro wanted id isSpent
      exact invariant.stored wanted id ((spent _ _).mp isSpent)
    · exact invariant.once.cons (by rintro call ⟨⟩)
  · intro other different
    constructor
    · intro wanted id row _
      rfl
    · intro name wanted id _
      exact spentBy _ _ _
    · rintro name wanted id rfl flight
      have foreign : ¬(channel = wanted ∧ id ∈ ids) := by
        rintro ⟨rfl, member⟩
        exact different (congrArg Actor.worker (alone id member name flight))
      constructor
      · rw [last wanted id foreign]
        exact flight.last
      · exact flight.stored
      · exact flight.flying

/-- Recording the end of a call whose rows are in its worker's flight. -/
theorem sendStep_ended {call : Call} (outcome : SendOutcome) {host : Host}
    (invariant : SendInvariant host) (caller : call.worker = worker)
    (flight : ∀ id ∈ call.rowIds, InFlight host worker call.channel id) :
    SendStep (.worker worker) host (host.record (.ended call outcome)) := by
  have spent : ∀ wanted id, Spent (host.record (.ended call outcome)).log wanted id →
      Spent host.log wanted id ∨
        (call.channel = wanted ∧ id ∈ call.rowIds ∧
          SpentBy (host.record (.ended call outcome)).log worker wanted id) := by
    rintro wanted id ⟨other, isSpent⟩
    rcases spentBy_ended_iff.mp isSpent with ⟨rfl, rfl, member, accepted⟩ | older
    · refine Or.inr ⟨rfl, member, ?_⟩
      rw [← caller]
      exact isSpent
    · exact Or.inl ⟨other, older⟩
  have later : ∀ other wanted id, SpentBy host.log other wanted id →
      SpentBy (host.record (.ended call outcome)).log other wanted id :=
    fun _ _ _ isSpent => spentBy_ended_iff.mpr (Or.inr isSpent)
  have last : ∀ wanted id, lastDispatch (host.record (.ended call outcome)).log wanted id =
      lastDispatch host.log wanted id :=
    fun _ _ => rfl
  constructor
  · constructor
    · exact invariant.present
    · exact invariant.released
    · intro wanted id row isSpent version
      rcases spent wanted id isSpent with older | ⟨rfl, member, _⟩
      · exact invariant.settled wanted id row older version
      · rcases (flight id member).flying row version with ⟨status, _⟩ | ⟨status, _⟩
        · rw [status]
          rfl
        · rw [status]
          rfl
    · intro wanted id row other isSpent version owner
      rcases spent wanted id isSpent with older | ⟨rfl, member, byWorker⟩
      · exact later _ _ _ (invariant.owned wanted id row other older version owner)
      · rcases (flight id member).flying row version with ⟨_, mine⟩ | ⟨_, unowned⟩
        · rw [mine] at owner
          cases owner
          exact byWorker
        · rw [unowned] at owner
          cases owner
    · intro wanted id other isSpent dispatcher
      rw [last] at dispatcher
      rcases spent wanted id isSpent with older | ⟨rfl, member, byWorker⟩
      · exact later _ _ _ (invariant.dispatched wanted id other older dispatcher)
      · rw [(flight id member).last] at dispatcher
        cases dispatcher
        exact byWorker
    · intro wanted id isSpent
      rcases spent wanted id isSpent with older | ⟨rfl, member, _⟩
      · exact invariant.stored wanted id older
      · exact (flight id member).stored
    · exact invariant.once.cons (by rintro other ⟨⟩)
  · intro other different
    constructor
    · intro wanted id row _
      rfl
    · rintro name wanted id rfl
      constructor
      · intro isSpent
        rcases spentBy_ended_iff.mp isSpent with ⟨same, _⟩ | older
        · rw [caller] at same
          exact absurd (congrArg Actor.worker same.symm) different
        · exact older
      · exact later _ _ _
    · rintro name wanted id rfl ⟨dispatcher, stored, flying⟩
      exact ⟨dispatcher, stored, flying⟩

/-- The commit of the dispatch puts the rows in flight. -/
theorem valid_dispatchCommit {ids : List String} :
    sendProtocol.Valid leasedAtDispatch (.worker worker)
      (fun host => Unspent worker channel ids host ∧ HeldDispatching worker channel ids host)
      (Script.commitRecording (.work (.worker worker)) (.dispatched worker channel ids))
      fun _ => Airborne worker channel ids := by
  apply Protocol.valid_act (fun _ _ => Airborne worker channel ids)
    (stable_unspent.and stable_heldDispatching)
  · rintro before input after invariant ⟨unspent, holds⟩ _ ⟨⟩
    have published : ∀ id ∈ ids, ∃ row,
        (before.commit (.work (.worker worker))).row channel id = ⟨some row, none⟩ ∧
          row.status = .dispatching ∧ row.leaseOwner = some worker := by
      intro id member
      obtain ⟨row, held, rest⟩ := holds id member
      exact ⟨row, Cell.commit_of_held held, rest⟩
    have committed : SendStep (.worker worker) before _ :=
      sendStep_commit (.work (.worker worker)) invariant
    have recorded := sendStep_dispatched committed.1
      (fun id member spent => by
        obtain ⟨row, held, _, owner⟩ := holds id member
        exact unspent id member
          (invariant.owned channel id row worker spent (Or.inr ⟨_, held⟩) owner))
      (fun id member other flight => by
        obtain ⟨row, stored, dispatching, owner⟩ := published id member
        have version : ((before.commit (.work (.worker worker))).row channel id).Version row := by
          rw [stored]
          exact Or.inl rfl
        rcases flight.flying row version with ⟨_, foreign⟩ | ⟨unknown, _⟩
        · rw [owner] at foreign
          cases foreign
          rfl
        · rw [dispatching] at unknown
          cases unknown)
    have step := committed.trans recorded
    refine ⟨step.1, step.2, ?_, ?_⟩
    · intro id member
      rw [Host.log_record, spentBy_cons_iff (by rintro call outcome ⟨⟩)]
      exact unspent id member
    · intro id member
      obtain ⟨row, stored, dispatching, owner⟩ := published id member
      constructor
      · exact if_pos ⟨rfl, member⟩
      · change ((before.commit (.work (.worker worker))).row channel id).base.isSome = true
        rw [stored]
        rfl
      · intro version isVersion
        change ((before.commit (.work (.worker worker))).row channel id).Version version
          at isVersion
        rw [stored] at isVersion
        rcases isVersion with stored | ⟨_, impossible⟩
        · cases stored
          exact Or.inl ⟨dispatching, owner⟩
        · cases impossible
  · exact fun before input => Protocol.valid_ret fun _ _ holds => holds

/-- A call starts with rows in flight that its worker has not spent. -/
theorem valid_beginSend {rows : List ClaimedRow} {email : String × String × String} :
    sendProtocol.Valid leasedAtDispatch (.worker worker)
      (Airborne worker channel (rows.map ClaimedRow.id))
      (Script.beginSend (emailCall worker channel rows email) (.beginCall (digestClaim rows)))
      fun call host => Airborne worker channel (rows.map ClaimedRow.id) host ∧
        ∃ now, call = emailCall worker channel rows email now := by
  apply Protocol.valid_act (fun _ _ => Airborne worker channel (rows.map ClaimedRow.id))
    stable_airborne
  · rintro before input after invariant ⟨unspent, flight⟩ _ ⟨⟩
    have never : ∀ id ∈ (emailCall worker channel rows email before.clock).rowIds,
        ¬Spent before.log channel id := by
      intro id member spent
      exact unspent id member
        (invariant.dispatched channel id worker spent (flight id member).last)
    have same : SameSends before.log
        (.began (emailCall worker channel rows email before.clock) :: before.log) :=
      ⟨fun _ _ _ => spentBy_cons_iff (by rintro other outcome ⟨⟩), fun _ _ => rfl,
        fun once => once.began never⟩
    have step : SendStep (.worker worker) before
        (before.record (.began (emailCall worker channel rows email before.clock))) :=
      sendStep_of_narrows invariant (fun _ _ => Narrows.refl) same
    refine ⟨step.1, step.2, ?_, ?_⟩
    · intro id member spent
      exact unspent id member ((same.spentBy worker channel id).mp spent)
    · intro id member
      obtain ⟨last, stored, flying⟩ := flight id member
      exact ⟨last, stored, flying⟩
  · intro before input
    exact Protocol.valid_ret fun _ _ holds => ⟨holds, before.clock, rfl⟩

/-- When the call ends, its rows are settled, or the worker may retry them. -/
theorem valid_awaitOutcome (call : Call) (caller : call.worker = worker) :
    sendProtocol.Valid leasedAtDispatch (.worker worker)
      (Airborne worker call.channel call.rowIds) (Script.awaitOutcome call)
      fun outcome => Ended worker call.channel call.rowIds outcome := by
  apply Protocol.valid_act (fun _ input host => ∀ outcome, input = .outcome outcome →
    Ended worker call.channel call.rowIds outcome host) stable_airborne
  · rintro before input after invariant ⟨unspent, flight⟩ _ acted
    cases input with
    | outcome outcome =>
        cases acted
        have step := sendStep_ended outcome invariant caller flight
        refine ⟨step.1, step.2, ?_⟩
        rintro _ ⟨⟩ rejected id member spent
        rcases spentBy_ended_iff.mp spent with ⟨_, _, _, accepted⟩ | older
        · rw [rejected] at accepted
          cases accepted
        · exact unspent id member older
    | _ => cases acted
  · intro before input
    apply Protocol.valid_ret
    intro host _ holds
    cases input with
    | outcome outcome => exact holds outcome rfl
    | _ => exact fun accepted => nomatch accepted

/-- The completion settles the rows, or returns rows that its worker may retry. -/
theorem completeRow_rowStep {outcome : SendOutcome} {attempts : Nat} {now nextAttemptAt : Int}
    {ids : List String} {id : String} {row new : OutboxRow} {host : Host}
    (invariant : SendInvariant host)
    (unspent : outcome.possiblyAccepted = false → Unspent worker channel ids host)
    (version : (host.row channel id).Version row)
    (changed : completeRow outcome attempts worker now nextAttemptAt ids id row = some new) :
    RowStep (.worker worker) host channel id row new := by
  simp only [completeRow, Option.ite_none_right_eq_some, Option.some.injEq] at changed
  obtain ⟨⟨member, owner, dispatching⟩, rfl⟩ := changed
  constructor
  · exact fun _ => rfl
  · intro spent
    change (outcome.phase attempts).settled = true
    cases accepted : outcome.possiblyAccepted with
    | false =>
        exact absurd (invariant.owned channel id row worker spent version owner)
          (unspent accepted id member)
    | true => exact settled_phase accepted
  · rintro _ ⟨⟩
  · rintro other different (⟨_, foreign⟩ | ⟨unknown, _⟩)
    · rw [owner] at foreign
      cases foreign
      exact absurd rfl different
    · rw [dispatching] at unknown
      cases unknown

theorem valid_quiet_ended {α : Type} {ids : List String} {outcome : SendOutcome}
    {script : Script α} (does : Script.Does QuietStep script) :
    sendProtocol.Valid leasedAtDispatch (.worker worker) (Ended worker channel ids outcome)
      script fun _ => Ended worker channel ids outcome := by
  apply valid_of_does does stable_ended
  · exact fun before after invariant quiet => sendStep_of_same invariant quiet.1 quiet.2
  · intro before after quiet holds
    rw [Ended, Unspent, quiet.2]
    exact holds

theorem valid_completeEmail {rows : List ClaimedRow} {attemptId : String}
    {outcome : SendOutcome} :
    sendProtocol.Valid leasedAtDispatch (.worker worker)
      (Ended worker channel (rows.map ClaimedRow.id) outcome)
      (completeEmail channel rows worker attemptId outcome) fun _ _ => True := by
  apply Protocol.Valid.bind _ (valid_quiet_ended does_observe_quiet)
  intro begun
  apply Protocol.Valid.bind _
    (valid_quiet_ended (Script.does_update fun _ _ => ⟨rfl, rfl⟩))
  intro _
  apply Protocol.Valid.bind _ (valid_quiet_ended does_observe_quiet)
  intro later
  apply Protocol.Valid.bind (fun _ => Ended worker channel (rows.map ClaimedRow.id) outcome)
  · apply Protocol.valid_act
      (fun _ _ => Ended worker channel (rows.map ClaimedRow.id) outcome) stable_ended
    · intro before input after invariant ended _ executed
      obtain ⟨writable, rfl⟩ := Script.execute_eq_some executed
      have step := sendStep_write invariant writable fun id row new seen changed =>
        completeRow_rowStep invariant ended (Cell.version_of_view seen) changed
      exact ⟨step.1, step.2, ended⟩
    · exact fun before input => Protocol.valid_ret fun _ _ holds => holds
  · intro _
    apply Protocol.Valid.bind _ (valid_quiet_ended
      (Script.does_when fun _ => Script.does_update fun _ _ => ⟨rfl, rfl⟩))
    exact fun _ => valid_commit _ stable_ended

theorem valid_sendEmail {rows : List ClaimedRow} {attemptId : String} :
    sendProtocol.Valid leasedAtDispatch (.worker worker)
      (Airborne worker channel (rows.map ClaimedRow.id))
      (sendEmail channel rows worker attemptId) fun _ _ => True := by
  unfold sendEmail
  cases composeEmail channel rows with
  | none => exact valid_raise stable_airborne
  | some email =>
      apply Protocol.Valid.bind _ valid_beginSend
      intro call
      apply Protocol.Valid.bind
        (fun outcome => Ended worker channel (rows.map ClaimedRow.id) outcome)
      · rintro host invariant ⟨airborne, now, rfl⟩
        exact valid_awaitOutcome (emailCall worker channel rows email now) rfl host invariant
          airborne
      · exact fun outcome => valid_completeEmail

theorem valid_dispatchEmail {rows : List ClaimedRow} :
    sendProtocol.Valid leasedAtDispatch (.worker worker) (fun _ => True)
      (dispatchEmail channel rows worker) fun _ _ => True := by
  apply Protocol.Valid.bind (fun _ _ => True)
    (valid_unconditional BackgroundStep.does_utcNow)
  intro now
  apply Protocol.Valid.bind (fun valid => Unspent worker channel valid)
  · apply Protocol.valid_act (fun before _ => Unspent worker channel
      (validIds channel rows worker now (before.view (.work (.worker worker))))) stable_true
    · rintro before input after invariant _ _ ⟨⟩
      have step : SendStep (.worker worker) before before := sendStep_of_same invariant rfl rfl
      exact ⟨step.1, step.2, unspent_of_validIds invariant⟩
    · exact fun _ _ => Protocol.valid_ret fun _ _ holds => holds
  intro valid
  apply Protocol.Valid.bind _ (valid_background (Script.does_when fun _ =>
    BackgroundStep.does_outbox fun _ _ _ _ => expireAtDispatch_move))
  intro _
  split
  · apply Protocol.Valid.bind _ (valid_background (Script.does_when fun _ =>
      BackgroundStep.does_claims fun _ _ _ _ => releaseUnusedClaim_move))
    exact fun _ => valid_commit _ stable_unspent
  · apply Protocol.Valid.bind _
      (valid_background (Script.does_freshId fun _ => BackgroundStep.idle))
    intro attemptId
    apply Protocol.Valid.bind _
      (valid_background (Script.does_insert fun _ _ _ => BackgroundStep.attempts _))
    intro _
    apply Protocol.Valid.bind _
    · apply Protocol.Valid.mono valid_markDispatching
      · intro host _ unspent id member
        obtain ⟨row, chosen, rfl⟩ := List.mem_map.mp member
        rw [List.mem_filter, decide_eq_true_eq] at chosen
        exact unspent row.id chosen.2
      · exact fun _ _ _ holds => holds
    · intro _
      apply Protocol.Valid.bind _ valid_dispatchCommit
      exact fun _ => valid_sendEmail

theorem valid_attemptEmail {rows : List ClaimedRow} :
    sendProtocol.Valid leasedAtDispatch (.worker worker) (fun _ => True)
      (attemptEmail channel rows worker) fun _ _ => True := by
  have quiet : ∀ {α : Type} {script : Script α}, Script.Does QuietStep script →
      sendProtocol.Valid leasedAtDispatch (.worker worker) (fun _ => True) script
        fun _ _ => True := by
    intro α script does
    apply valid_of_does does stable_true
    · exact fun before after invariant quiet => sendStep_of_same invariant quiet.1 quiet.2
    · exact fun _ _ _ _ => trivial
  apply Protocol.Valid.bind (fun _ _ => True) (quiet does_lock_quiet)
  intro _
  apply Protocol.Valid.bind (fun _ _ => True) (quiet does_observe_quiet)
  intro control
  cases control with
  | none => exact valid_raise stable_true
  | some control =>
      apply Protocol.Valid.bind (fun _ _ => True)
      · dsimp only
        split
        · exact valid_dispatchEmail
        · exact Protocol.valid_ret fun _ _ _ => trivial
      · intro _
        apply Protocol.valid_act (fun _ _ _ => True) stable_true
        · rintro before input after invariant _ _ ⟨⟩
          have step := sendStep_commit (.guard (.worker worker)) invariant
          exact ⟨step.1, step.2, trivial⟩
        · exact fun _ _ => Protocol.valid_ret fun _ _ _ => trivial

/-! ## Whole runs -/

theorem valid_systemLoop (rounds : Nat) :
    sendProtocol.Valid leasedAtDispatch (.worker worker) (fun _ => True)
      (systemLoop worker rounds) fun _ _ => True := by
  induction rounds with
  | zero => exact Protocol.valid_ret fun _ _ _ => trivial
  | succ rounds ih =>
      apply Protocol.Valid.bind (fun _ _ => True)
        (valid_unconditional (Script.does_awaitFlag fun _ => BackgroundStep.idle))
      intro late
      split
      · exact Protocol.valid_ret fun _ _ _ => trivial
      · apply Protocol.Valid.bind (fun _ _ => True) valid_claimSystem
        intro claimed
        cases claimed with
        | none => exact Protocol.valid_ret fun _ _ _ => trivial
        | some row =>
            apply Protocol.Valid.bind (fun _ _ => True) valid_attemptEmail
            exact fun _ => ih

theorem valid_subscriberLoop {settings : Settings} (rounds : Nat) :
    sendProtocol.Valid leasedAtDispatch (.worker worker) (fun _ => True)
      (subscriberLoop worker settings rounds) fun _ _ => True := by
  induction rounds with
  | zero => exact Protocol.valid_ret fun _ _ _ => trivial
  | succ rounds ih =>
      apply Protocol.Valid.bind (fun _ _ => True)
        (valid_unconditional (Script.does_awaitFlag fun _ => BackgroundStep.idle))
      intro late
      split
      · exact Protocol.valid_ret fun _ _ _ => trivial
      · apply Protocol.Valid.bind (fun _ _ => True)
          (valid_unconditional BackgroundStep.does_nextSubscriberTarget)
        intro target
        cases target with
        | none => exact Protocol.valid_ret fun _ _ _ => trivial
        | some target =>
            apply Protocol.Valid.bind (fun _ _ => True)
              (valid_unconditional (Script.does_awaitWeather fun _ => BackgroundStep.idle))
            intro weather
            apply Protocol.Valid.bind (fun _ _ => True) valid_claimSubscriberGroup
            intro rows
            apply Protocol.Valid.bind (fun _ _ => True)
            · unfold Script.when
              split
              · exact valid_attemptEmail
              · exact Protocol.valid_ret fun _ _ _ => trivial
            · exact fun _ => ih

theorem valid_runCycle {settings : Settings} :
    sendProtocol.Valid leasedAtDispatch (.worker worker) (fun _ => True)
      (runCycle worker settings) fun _ _ => True := by
  apply Protocol.Valid.bind (fun _ _ => True)
    (valid_unconditional BackgroundStep.does_expireUnusable)
  intro _
  apply Protocol.Valid.bind (fun _ _ => True) (valid_systemLoop systemBatch)
  intro _
  apply Protocol.Valid.bind (fun _ _ => True) (valid_subscriberLoop subscriberRowsPerDigest)
  intro _
  exact valid_unconditional BackgroundStep.does_reconcile

end

/-- A script whose actions are steps of the protocol needs and leaves nothing. -/
theorem valid_of_sendSteps {actor : Actor} {step : Host → Host → Prop} {script : Script Unit}
    (sound : ∀ before after, step before after → SendInvariant before →
      SendStep actor before after)
    (does : Script.Does step script) :
    sendProtocol.Valid leasedAtDispatch actor (fun _ => True) script fun _ _ => True := by
  apply valid_of_does does stable_true
  · exact fun before after invariant stepped => sound before after stepped invariant
  · exact fun _ _ _ _ => trivial

/-- The host keeps the send protocol while its dispatches find their leases. -/
theorem sendProtocol_follows (digests : Digests) (deployed : Settings → Prop) :
    sendProtocol.Follows (hostSystem digests deployed) leasedAtDispatch where
  restingStable _ := stable_true
  operations actor program operation := by
    cases operation with
    | cycle worker settings configured => exact valid_runCycle
    | recovery worker => exact valid_unconditional BackgroundStep.does_releaseExpiredLeases
    | upkeep worker => exact valid_unconditional BackgroundStep.does_maintenance
    | cancel number subscriptionId email =>
        exact valid_of_sendSteps (fun _ _ => FenceStep.sendStep) FenceStep.does_cancelSubscription
    | preference number email action dates =>
        exact valid_of_sendSteps
          (fun _ _ => FenceStep.sendStep) FenceStep.does_updateNotificationPauses
    | switch number enabled commitId =>
        exact valid_of_sendSteps (fun _ _ => FenceStep.sendStep) FenceStep.does_setDeliveryEnabled
    | subscribe number email input dedupeKey limits =>
        exact valid_unconditional BackgroundStep.does_createSubscription
    | redeem number email => exact valid_unconditional BackgroundStep.does_redeemPriority
    | verify number email code =>
        exact valid_of_sendSteps (fun _ _ => IngestStep.sendStep) IngestStep.does_queueVerification
    | enqueue number input =>
        exact valid_of_sendSteps (fun _ _ => WechatStep.sendStep) WechatStep.does_enqueue
    | consume worker rounds =>
        exact valid_of_sendSteps (fun _ _ => ConsumerStep.sendStep) ConsumerStep.does_consumer
    | ingest number observation =>
        exact valid_of_sendSteps (fun _ _ => IngestStep.sendStep) IngestStep.does_ingestObservation
  crashes actor host invariant := by
    have step : SendStep actor host (host.crash actor) := by
      apply sendStep_of_narrows invariant
      · intro channel id
        exact ((narrows_rollback : Narrows (Tx.work actor).actor _ _).trans
          (narrows_rollback : Narrows (Tx.guard actor).actor _ _)).trans
          (narrows_rollback : Narrows (Tx.session actor).actor _ _)
      · exact sameSends_cons rfl
    exact ⟨step.1, step.2, trivial⟩
  environments before after invariant passes := by
    obtain ⟨elapsed, rfl⟩ := passes
    have step : SendStep (.request 0) before { before with clock := before.clock + elapsed } :=
      sendStep_of_same invariant rfl rfl
    refine ⟨step.1, fun actor => ⟨fun _ _ _ _ => rfl, fun _ _ _ _ => Iff.rfl, ?_⟩⟩
    exact fun worker channel id _ flight => ⟨flight.last, flight.stored, flight.flying⟩

/-- A host at rest: nothing was recorded, nobody holds a row, and no row whose
send has ended is leased. -/
structure AtRest (host : Host) : Prop where
  history : host.log = []
  unheld : ∀ channel id, (host.row channel id).held = none
  released : ∀ channel id row, (host.row channel id).base = some row →
    row.status.final = true → row.leaseOwner = none

theorem sendInvariant_of_atRest {host : Host} (rest : AtRest host) : SendInvariant host := by
  have unspent : ∀ channel id, ¬Spent host.log channel id := by
    rintro channel id ⟨worker, spent⟩
    rw [rest.history] at spent
    exact not_spentBy_nil spent
  constructor
  · intro channel id tx held
    rw [rest.unheld] at held
    cases held
  · rintro channel id row (stored | ⟨_, held⟩) final
    · exact rest.released channel id row stored final
    · rw [rest.unheld] at held
      cases held
  · exact fun channel id _ spent => absurd spent (unspent channel id)
  · exact fun channel id _ _ spent => absurd spent (unspent channel id)
  · exact fun channel id _ spent => absurd spent (unspent channel id)
  · exact fun channel id spent => absurd spent (unspent channel id)
  · rw [rest.history]
    exact sentOnce_nil

/-- In every run whose dispatches find their rows leased, no row of a possibly
accepted call is sent again. -/
theorem sentOnce_of_leasedAtDispatch (digests : Digests) (deployed : Settings → Prop) {host : Host}
    (rest : AtRest host)
    {config : Config Host Input Label Actor}
    (reachable :
      (hostSystem digests deployed).Reachable leasedAtDispatch (System.idle host) config) :
    SentOnce config.shared.log :=
  ((sendProtocol_follows digests deployed).invariant_of_reachable (sendInvariant_of_atRest rest)
    (fun _ => trivial) reachable).once

/-! ### A run that sends a row twice -/

/-- The entry is a possibly accepted end of a call that shares a row with `later`. -/
def Event.spends (later : Call) : Event → Bool
  | .ended call outcome =>
      outcome.possiblyAccepted && decide (later.channel = call.channel) &&
        call.rowIds.any fun id => decide (id ∈ later.rowIds)
  | _ => false

/-- Some call begins after a possibly accepted call of one of its rows. -/
def resent : List Event → Bool
  | [] => false
  | .began later :: older => older.any (Event.spends later) || resent older
  | _ :: older => resent older

theorem not_sentOnce_of_resent {log : List Event} (again : resent log = true) :
    ¬SentOnce log := by
  induction log with
  | nil => cases again
  | cons event older ih =>
      intro once
      have onceBefore : SentOnce older := by
        intro newer oldest call outcome later split accepted began
        apply once (event :: newer) oldest call outcome later _ accepted
        · exact List.mem_cons_of_mem _ began
        · rw [split]
          rfl
      cases event with
      | began later =>
          simp only [resent, Bool.or_eq_true, List.any_eq_true] at again
          rcases again with ⟨entry, member, spends⟩ | again
          · obtain ⟨newer, oldest, rfl⟩ := List.append_of_mem member
            cases entry with
            | ended call outcome =>
                simp only [Event.spends, Bool.and_eq_true, decide_eq_true_eq,
                  List.any_eq_true] at spends
                obtain ⟨⟨accepted, sameChannel⟩, id, included, resends⟩ := spends
                exact once (.began later :: newer) oldest call outcome later rfl accepted
                  List.mem_cons_self sameChannel id included resends
            | _ => cases spends
          · exact ih again onceBefore
      | _ => exact ih again onceBefore

/-- Only the system email `notice` is queued. -/
def queuedHost : Host :=
  { Host.fresh 0 with
    outbox := fun channel =>
      match channel with
      | .system => .singleton "notice" (systemEmail "a@example.com" "notice" "s" "b" 0 none)
      | .subscriber => .empty }

theorem queuedHost_atRest : AtRest queuedHost where
  history := rfl
  unheld channel id := by
    cases channel with
    | subscriber => rfl
    | system =>
        change (if id = "notice" then Cell.committed _ else Cell.empty).held = none
        split <;> rfl
  released channel id row stored final := by
    cases channel with
    | subscriber => cases stored
    | system =>
        change (if id = "notice" then Cell.committed _ else Cell.empty).base = some row at stored
        split at stored
        · cases stored
          cases final
        · cases stored

/-- The identity in place of the hash: the schedules below hash nothing. -/
def plainDigests : Digests :=
  ⟨id⟩

/-- Any configuration may be deployed. -/
def anySettings (_ : Settings) : Prop :=
  True

/-- A worker runs its cycle up to the `dispatching` update of a system email. -/
def toDispatch (worker : String) : List (Move Host Input Label Actor) :=
  .start (.worker worker) (runCycle worker ⟨1, 1, 1⟩) ::
    (System.acts (.worker worker) .none 4 ++ .act (.worker worker) (.flag false) ::
      (System.acts (.worker worker) .none 8 ++ .act (.worker worker) (.fresh worker) ::
        System.acts (.worker worker) .none 1))

/-- The rest of the send: the update, the commit and the call. -/
def throughCall (worker : String) : List (Move Host Input Label Actor) :=
  System.acts (.worker worker) .none 3

/-- The first worker stalls before its update until its lease has run out; the
second one recovers the lease, claims the row and sends it; then the first one
goes on. -/
def sendRace : List (Move Host Input Label Actor) :=
  toDispatch "first" ++
    (.environment (fun host => { host with clock := host.clock + (301000000 : Nat) }) ::
      .start (.worker "second") (releaseExpiredLeases (.worker "second")) ::
        (System.acts (.worker "second") .none 8 ++ (toDispatch "second" ++
          (throughCall "second" ++
            .act (.worker "second") (.outcome (.returned (some "message") none)) ::
              throughCall "first"))))

theorem legal_toDispatch (worker : String) :
    ∀ move ∈ toDispatch worker, (hostSystem plainDigests anySettings).Legal move := by
  simp only [toDispatch, List.forall_mem_cons, List.forall_mem_append]
  exact ⟨.cycle worker _ trivial, System.legal_acts, trivial, System.legal_acts, trivial,
    System.legal_acts⟩

theorem legal_sendRace : ∀ move ∈ sendRace, (hostSystem plainDigests anySettings).Legal move := by
  simp only [sendRace, throughCall, List.forall_mem_cons, List.forall_mem_append]
  exact ⟨legal_toDispatch _, fun host => ⟨301000000, rfl⟩, .recovery _, System.legal_acts,
    legal_toDispatch _, System.legal_acts, trivial, System.legal_acts⟩

/-- Without the condition a row is sent again after an accepted call. -/
theorem sendRace_resends : AtRest queuedHost ∧ ∃ config,
    (hostSystem plainDigests anySettings).Reachable System.anyAction
    (System.idle queuedHost) config ∧
      ¬SentOnce config.shared.log := by
  have replayed :
      ((hostSystem plainDigests anySettings).replay System.anyAction (System.idle queuedHost)
      sendRace).any (fun config => resent config.shared.log) = true := by
    decide
  obtain ⟨config, reachable, again⟩ :=
    System.exists_reachable_of_replay legal_sendRace replayed
  exact ⟨queuedHost_atRest, config, reachable, not_sentOnce_of_resent again⟩

/-- One worker sends the row without an interruption. -/
def plainSend : List (Move Host Input Label Actor) :=
  toDispatch "first" ++ (throughCall "first" ++
    [.act (.worker "first") (.outcome (.returned (some "message") none))])

theorem legal_plainSend : ∀ move ∈ plainSend, (hostSystem plainDigests anySettings).Legal move := by
  simp only [plainSend, throughCall, List.forall_mem_cons, List.forall_mem_append]
  exact ⟨legal_toDispatch _, System.legal_acts, trivial, fun _ impossible => nomatch impossible⟩

/-- The run of `plainSend` meets the condition and ends an accepted call. -/
theorem plainSend_sentOnce : ∃ config,
    (hostSystem plainDigests anySettings).Reachable leasedAtDispatch
    (System.idle queuedHost) config ∧
      Spent config.shared.log .system "notice" ∧ SentOnce config.shared.log := by
  have replayed :
      ((hostSystem plainDigests anySettings).replay leasedAtDispatch (System.idle queuedHost)
      plainSend).any (fun config => config.shared.log.any fun event =>
        match event with
        | .ended call outcome => outcome.possiblyAccepted && decide (call.channel = .system) &&
            decide ("notice" ∈ call.rowIds)
        | _ => false) = true := by
    decide
  obtain ⟨config, reachable, ended⟩ :=
    System.exists_reachable_of_replay legal_plainSend replayed
  refine ⟨config, reachable, ?_,
    sentOnce_of_leasedAtDispatch plainDigests anySettings queuedHost_atRest reachable⟩
  obtain ⟨event, member, spends⟩ := List.any_eq_true.mp ended
  cases event with
  | ended call outcome =>
      simp only [Bool.and_eq_true, decide_eq_true_eq] at spends
      exact ⟨call.worker, call, outcome, member, rfl, spends.1.2, spends.2, spends.1.1⟩
  | _ => cases spends

end TennisAlerts.HostCore
