import TennisAlerts.Properties.RowRuns
import TennisAlerts.Tables.Counts

/-!
# The budget of a row

A claim counts an attempt, and a row is retried only below the bound on attempts.
Every call is announced by a dispatch of its own.  So in a run whose dispatch
updates find their rows leased, no row is part of more calls than the bound.
-/

namespace TennisAlerts.HostCore

open TennisAlerts.Concurrent TennisAlerts.Database TennisAlerts.Tables

/-! ## Announced calls -/

/-- The entry dispatches the row. -/
def Event.dispatches (channel : Channel) (id : String) : Event → Bool
  | .dispatched _ other ids => decide (other = channel) && decide (id ∈ ids)
  | _ => false

/-- The entry begins a call with the row. -/
def Event.calls (channel : Channel) (id : String) : Event → Bool
  | .began call => decide (call.channel = channel) && decide (id ∈ call.rowIds)
  | _ => false

section

variable {channel : Channel} {id : String} {call : Call}

@[simp]
theorem calls_dispatched {worker : String} {other : Channel} {ids : List String} :
    (Event.dispatched worker other ids).calls channel id = false :=
  rfl

@[simp]
theorem calls_ended {outcome : SendOutcome} :
    (Event.ended call outcome).calls channel id = false :=
  rfl

@[simp]
theorem dispatches_began : (Event.began call).dispatches channel id = false :=
  rfl

@[simp]
theorem dispatches_ended {outcome : SendOutcome} :
    (Event.ended call outcome).dispatches channel id = false :=
  rfl

/-- A call includes the rows that were dispatched for it. -/
theorem calls_began (worker : String) : (Event.began call).calls channel id =
    (Event.dispatched worker call.channel call.rowIds).dispatches channel id :=
  rfl

end

/-- Each call follows a dispatch of its rows, with no other entry of its worker's
sends in between. -/
def Announced : List Event → Prop
  | [] => True
  | .began call :: older =>
      lastOwn call.worker older = some (.dispatched call.worker call.channel call.rowIds) ∧
        Announced older
  | _ :: older => Announced older

section

variable {log : List Event} {channel : Channel} {id worker : String}

theorem announced_cons {event : Event} (announced : Announced log)
    (other : ∀ call, event ≠ .began call) : Announced (event :: log) := by
  cases event with
  | began call => exact absurd rfl (other call)
  | _ => exact announced

theorem lastOwn_cons_self {event : Event} (own : event.sender = some worker) :
    lastOwn worker (event :: log) = some event := by
  simp [lastOwn, own]

theorem lastOwn_cons_of_ne {event : Event} (foreign : event.sender ≠ some worker) :
    lastOwn worker (event :: log) = lastOwn worker log := by
  simp [lastOwn, foreign]

/-- An announcement that no call has followed yet is not used up. -/
theorem calls_of_worker_le (announced : Announced log) :
    (log.countP fun event => event.calls channel id && decide (event.sender = some worker)) +
        (if (lastOwn worker log).any (Event.dispatches channel id) then 1 else 0) ≤
      log.countP fun event =>
        event.dispatches channel id && decide (event.sender = some worker) := by
  induction log with
  | nil => simp [lastOwn]
  | cons event log ih =>
      by_cases own : event.sender = some worker
      · rw [lastOwn_cons_self own]
        simp only [List.countP_cons, own, decide_true, Bool.and_true, Option.any_some]
        cases event with
        | dispatched other target ids =>
            have older := ih announced
            simp only [calls_dispatched, Bool.false_eq_true, if_false]
            omega
        | began call =>
            have older := ih announced.2
            have same : call.worker = worker := Option.some.inj own
            rw [← same, announced.1, Option.any_some, ← calls_began call.worker] at older
            rw [← same]
            simp only [dispatches_began, Bool.false_eq_true, if_false]
            omega
        | ended call outcome =>
            have older := ih announced
            simp only [calls_ended, dispatches_ended, Bool.false_eq_true, if_false]
            omega
        | _ => cases own
      · have older : Announced log := by
          cases event with
          | began call => exact announced.2
          | _ => exact announced
        rw [lastOwn_cons_of_ne own]
        simpa [List.countP_cons, own] using ih older

theorem calls_of_sender_le (announced : Announced log) (sender : Option String) :
    (log.countP fun event => event.calls channel id && decide (event.sender = sender)) ≤
      log.countP fun event => event.dispatches channel id && decide (event.sender = sender) := by
  cases sender with
  | none =>
      have silent : ∀ event : Event,
          (event.calls channel id && decide (event.sender = none)) = false := by
        intro event
        cases event <;> simp [Event.calls, Event.sender]
      simp [silent]
  | some worker => exact (Nat.le_add_right _ _).trans (calls_of_worker_le announced)

/-- A row is part of at most as many calls as dispatches. -/
theorem calls_le_dispatches (announced : Announced log) :
    log.countP (Event.calls channel id) ≤ log.countP (Event.dispatches channel id) :=
  countP_le_of_keys (calls_of_sender_le announced)

end

/-! ## What is left of a row's budget -/

/-- A row that was dispatched `spent` times: its attempts cover its dispatches, a
lease covers one more, and what may be claimed again is below the bound. -/
structure RowBudget (spent : Nat) (row : OutboxRow) : Prop where
  tried : spent ≤ row.attemptCount
  leased : row.leaseOwner ≠ none → row.status ≠ .dispatching → spent < row.attemptCount
  unsettled : row.status.settled = false → spent < maxAttempts

/-- A version put as dispatching may be dispatched once more. -/
def Affordable (spent : Nat) (row : OutboxRow) : Prop :=
  row.status = .dispatching → spent < row.attemptCount ∧ spent < maxAttempts

/-- The budget of all versions of a row. -/
structure CellBudget (spent : Nat) (cell : Cell Tx OutboxRow) : Prop where
  bounded : spent ≤ maxAttempts
  absent : cell.base = none → spent = 0
  versions : cell.Everywhere (RowBudget spent)
  held : ∀ tx row, cell.held = some (tx, some row) → Affordable spent row

/-- The versions that keep a budget. -/
def putsWithin (spent : Nat) (_ : Tx) (_ new : Option OutboxRow) : Prop :=
  ∀ row, new = some row → RowBudget spent row ∧ Affordable spent row

section

variable {spent : Nat} {worker : String} {row new : OutboxRow}

theorem CellBudget.change {own : Tx → Prop} {cell later : Cell Tx OutboxRow}
    (budget : CellBudget spent cell) (change : cell.Change own (putsWithin spent) later)
    (follows : Follows cell.base later.base) : CellBudget spent later where
  bounded := budget.bounded
  absent missing := by
    rw [missing] at follows
    cases stored : cell.base with
    | none => exact budget.absent stored
    | some row =>
        rw [stored] at follows
        exact follows.elim
  versions := by
    apply budget.versions.change change
    exact fun tx old row _ _ put => (put row rfl).1
  held tx row held := by
    cases change with
    | same => exact budget.held tx row held
    | publish => cases held
    | drop => cases held
    | hold writer new mine free permitted =>
        cases held
        exact (permitted row rfl).2

/-- A version that is not dispatching, with a lease only where the row was leased
before. -/
theorem RowBudget.ground (budget : RowBudget spent row)
    (attempts : new.attemptCount = row.attemptCount)
    (owner : new.leaseOwner ≠ none → row.leaseOwner ≠ none ∧ row.status ≠ .dispatching)
    (settled : row.status.settled = true → new.status.settled = true)
    (grounded : new.status ≠ .dispatching) :
    RowBudget spent new ∧ Affordable spent new := by
  refine ⟨⟨?_, ?_, ?_⟩, fun dispatching => absurd dispatching grounded⟩
  · rw [attempts]
    exact budget.tried
  · intro isLeased _
    obtain ⟨was, notFlying⟩ := owner isLeased
    rw [attempts]
    exact budget.leased was notFlying
  · intro isOpen
    apply budget.unsettled
    rw [← Bool.not_eq_true] at isOpen ⊢
    exact mt settled isOpen

theorem RowBudget.ground_of_open (budget : RowBudget spent row) (isOpen : row.status.open = true)
    (attempts : new.attemptCount = row.attemptCount)
    (owner : new.leaseOwner = none ∨ new.leaseOwner = row.leaseOwner)
    (grounded : new.status ≠ .dispatching) :
    RowBudget spent new ∧ Affordable spent new := by
  have unsettled := Status.not_settled_of_open isOpen
  apply budget.ground attempts _ _ grounded
  · intro isLeased
    refine ⟨?_, ?_⟩
    · rcases owner with released | same
      · exact absurd released isLeased
      · rwa [← same]
    · intro dispatching
      rw [dispatching] at unsettled
      cases unsettled
  · intro settled
    rw [unsettled] at settled
    cases settled

/-- The background work never puts a version that dispatches. -/
theorem Swept.within (swept : Swept row new) (budget : RowBudget spent row) :
    RowBudget spent new ∧ Affordable spent new := by
  cases swept with
  | recovered now changed =>
      simp only [recoverDispatching, Option.ite_none_right_eq_some, Option.some.injEq] at changed
      obtain ⟨_, rfl⟩ := changed
      exact budget.ground rfl (by simp) (fun _ => rfl) (by simp)
  | retried now changed =>
      simp only [retryProcessing, Option.ite_none_right_eq_some, Option.some.injEq] at changed
      obtain ⟨⟨was, _⟩, rfl⟩ := changed
      exact budget.ground_of_open (by rw [was]; rfl) rfl (.inl rfl) (by simp)
  | expiredSystem now changed =>
      simp only [expireSystem, Option.ite_none_right_eq_some, Option.some.injEq] at changed
      obtain ⟨⟨isOpen, _⟩, rfl⟩ := changed
      exact budget.ground_of_open isOpen rfl (.inr rfl) (by simp)
  | expiredSubscriber now snapshot changed =>
      simp only [expireSubscriber, Option.ite_none_right_eq_some, Option.some.injEq] at changed
      obtain ⟨⟨isOpen, _⟩, rfl⟩ := changed
      exact budget.ground_of_open isOpen rfl (.inr rfl) (by simp)
  | expiredAtDispatch channel claimId worker now ids id changed =>
      simp only [expireAtDispatch, Option.ite_none_right_eq_some, Option.some.injEq] at changed
      obtain ⟨⟨_, _, was, _⟩, rfl⟩ := changed
      exact budget.ground_of_open (by rw [was]; rfl) rfl (.inl rfl) (by simp)
  | paused email dates now snapshot id changed =>
      simp only [cancelPaused, pausable, Option.ite_none_right_eq_some, Option.some.injEq,
        Bool.and_eq_true] at changed
      obtain ⟨⟨⟨⟨⟨_, isOpen⟩, _⟩, _⟩, _⟩, rfl⟩ := changed
      exact budget.ground_of_open isOpen rfl (.inl rfl) (by simp)
  | cancelled subscriptionId now changed =>
      simp only [cancelOpenRow, Option.ite_none_right_eq_some, Option.some.injEq] at changed
      obtain ⟨⟨_, isOpen⟩, rfl⟩ := changed
      exact budget.ground_of_open isOpen rfl (.inl rfl) (by simp)
  | restored subscriptionId eventKey checkedAt now tier snapshot id changed =>
      simp only [restorePaused, Option.ite_none_right_eq_some, Option.some.injEq] at changed
      obtain ⟨⟨_, _, was, _⟩, rfl⟩ := changed
      exact budget.ground rfl (by simp) (by rw [was]; rintro ⟨⟩) (by simp)
  | checked messageId until_ changed =>
      simp only [leaseProviderCheck, Option.ite_none_right_eq_some, Option.some.injEq] at changed
      obtain ⟨⟨_, was⟩, rfl⟩ := changed
      exact budget.ground rfl (fun leased => ⟨leased, by simp [was]⟩) id (by simp [was])
  | reported channel messageId checkCount report now changed =>
      simp only [applyReport, Option.ite_none_right_eq_some] at changed
      obtain ⟨⟨_, was⟩, changed⟩ := changed
      cases report <;> cases changed <;>
        exact budget.ground rfl (fun leased => ⟨leased, by simp [was]⟩)
          (fun _ => by simp [was, Status.settled, Status.final])
          (by simp [was])
  | abandoned channel cutoff now changed =>
      simp only [expireProviderCheck, Option.ite_none_right_eq_some, Option.some.injEq] at changed
      obtain ⟨⟨was, _⟩, rfl⟩ := changed
      exact budget.ground rfl (fun leased => ⟨leased, by simp [was]⟩) (fun _ => rfl) (by simp)

theorem FreshRow.within (fresh : FreshRow row) : RowBudget 0 row ∧ Affordable 0 row := by
  refine ⟨⟨Nat.zero_le _, ?_, fun _ => by decide⟩, ?_⟩
  · exact fun leased => absurd fresh.unleased leased
  · intro dispatching
    rw [fresh.pending] at dispatching
    cases dispatching

theorem Marks.within {change : OutboxRow → OutboxRow} (marks : Marks worker change)
    (budget : RowBudget spent row) (isOpen : row.status.open = true) :
    RowBudget spent (change row) ∧ Affordable spent (change row) := by
  have unsettled := Status.not_settled_of_open isOpen
  cases marks with
  | claimed now =>
      have counted : spent < row.attemptCount + 1 := Nat.lt_succ_of_le budget.tried
      refine ⟨⟨counted.le, fun _ _ => counted, fun _ => budget.unsettled unsettled⟩, ?_⟩
      simp [Affordable, markProcessing]
  | linked claimId =>
      have grounded : (linkClaim claimId row).status ≠ .dispatching := by
        intro dispatching
        change row.status = .dispatching at dispatching
        rw [dispatching] at isOpen
        cases isOpen
      exact budget.ground_of_open isOpen rfl (.inr rfl) grounded
  | suppressed reason now =>
      exact budget.ground_of_open isOpen rfl (.inl rfl) (by simp [suppress])

/-- A leased row that is not dispatching may be dispatched. -/
theorem RowBudget.dispatching {now : Int} {ids : List String} {id : String}
    (budget : RowBudget spent row) (sound : SoundRow row)
    (grounded : row.leaseOwner = some worker → row.status ≠ .dispatching)
    (changed : markDispatching worker now ids id row = some new) :
    RowBudget spent new ∧ Affordable spent new := by
  simp only [markDispatching, Option.ite_none_right_eq_some, Option.some.injEq] at changed
  obtain ⟨⟨_, owner⟩, rfl⟩ := changed
  have isLeased : row.leaseOwner ≠ none := by simp [owner]
  have covered := budget.leased isLeased (grounded owner)
  have unsettled : row.status.settled = false := by
    have leasable := sound.leased isLeased
    have notFlying := grounded owner
    cases status : row.status <;> simp_all [Status.leasable, Status.settled, Status.final]
  refine ⟨⟨budget.tried, ?_, ?_⟩, fun _ => ⟨covered, budget.unsettled unsettled⟩⟩
  · exact fun _ grounded => absurd rfl grounded
  · rintro ⟨⟩

/-- A row is retried below the bound only. -/
theorem RowBudget.completed {outcome : SendOutcome} {attempts : Nat} {now next : Int}
    {ids : List String} {id : String} (budget : RowBudget spent row)
    (tried : row.leaseOwner = some worker → row.attemptCount ≤ attempts)
    (changed : completeRow outcome attempts worker now next ids id row = some new) :
    RowBudget spent new ∧ Affordable spent new := by
  simp only [completeRow, Option.ite_none_right_eq_some, Option.some.injEq] at changed
  obtain ⟨⟨_, owner, _⟩, rfl⟩ := changed
  have ends : outcome.phase attempts ≠ .dispatching ∧
      ((outcome.phase attempts).settled = false → attempts < maxAttempts) := by
    cases outcome with
    | returned messageId requestId =>
        cases messageId <;> simp [SendOutcome.phase, Status.settled, Status.final]
    | raised error =>
        simp only [SendOutcome.phase]
        split
        · split
          · simp [Status.settled, Status.final]
          · rename_i below
            exact ⟨by simp, fun _ => not_le.mp below⟩
        · simp [Status.settled, Status.final]
  refine ⟨⟨budget.tried, ?_, ?_⟩, fun dispatching => absurd dispatching ends.1⟩
  · exact fun leased => absurd rfl leased
  · intro unsettled
    exact (budget.tried.trans (tried owner)).trans_lt (ends.2 unsettled)

end

/-! ## Runs -/

/-- Every call was announced, and every row is within its budget. -/
structure Budgeted (host : Host) : Prop where
  announced : Announced host.log
  within : ∀ channel id,
    CellBudget (host.log.countP (Event.dispatches channel id)) (host.row channel id)

section

variable {actor : Actor} {worker : String} {before after : Host} {channel : Channel} {id : String}

theorem dispatches_of_offRecord {event : Event} (quiet : event.offRecord = true) :
    event.dispatches channel id = false := by
  cases event <;> first | rfl | cases quiet

theorem announced_of_offRecord {event : Event} {log : List Event} (announced : Announced log)
    (quiet : event.offRecord = true) : Announced (event :: log) := by
  apply announced_cons announced
  rintro call rfl
  cases quiet

/-- A script without sends stays within the budget. -/
theorem SweepStep.within {spent : Nat} (step : SweepStep actor before after)
    (kept : RowsKept before) (budget : CellBudget spent (before.row channel id)) :
    (before.row channel id).Change (ownTx actor) (putsWithin spent) (after.row channel id) := by
  cases step with
  | aside rows slots history =>
      rw [Host.row, Host.row, rows]
      exact .same
  | swept target statement writable moves =>
      apply row_change_write writable
      rintro row new seen chosen rfl put ⟨⟩
      exact (moves id row new chosen).within (budget.versions row (Cell.version_of_view seen))
  | inserted target key row absent free fresh =>
      apply row_change_insert free
      rintro rfl rfl put ⟨⟩
      have follows := (kept.ascending channel id).view (.work actor)
      rw [absent] at follows
      have unspent : spent = 0 := by
        cases stored : (before.row channel id).base with
        | none => exact budget.absent stored
        | some old =>
            rw [stored] at follows
            exact follows.elim
      rw [unspent]
      exact fresh.within
  | slot => exact .same
  | commit tx own => exact row_change_commit own channel id
  | committed event quiet =>
      exact row_change_commit (show (Tx.work actor).actor = actor from rfl) channel id
  | recorded event quiet => exact .same

/-- A dispatch is paid from the budget of its rows. -/
theorem CellBudget.dispatched {ids : List String} {target : Channel}
    (budget : CellBudget (before.log.countP (Event.dispatches channel id))
      (before.row channel id))
    (kept : RowsKept before) (aloft : HeldAloft worker target ids before) :
    CellBudget
      ((Event.dispatched worker target ids :: before.log).countP (Event.dispatches channel id))
      ((before.commit (.work (.worker worker))).row channel id) := by
  by_cases named : target = channel ∧ id ∈ ids
  · obtain ⟨rfl, member⟩ := named
    obtain ⟨row, held, flying, owner⟩ := aloft id member
    have counted : (Event.dispatched worker target ids).dispatches target id = true := by
      simp [Event.dispatches, member]
    have published : (before.commit (.work (.worker worker))).row target id = ⟨some row, none⟩ :=
      Cell.commit_of_held held
    rw [List.countP_cons, counted, published]
    obtain ⟨covered, below⟩ := budget.held _ row held flying
    constructor
    · exact below
    · rintro ⟨⟩
    · rintro version (stored | ⟨_, impossible⟩)
      · cases stored
        refine ⟨covered, fun _ grounded => absurd flying grounded, ?_⟩
        rw [flying]
        rintro ⟨⟩
      · cases impossible
    · rintro _ _ ⟨⟩
  · have uncounted : (Event.dispatched worker target ids).dispatches channel id = false := by
      simpa [Event.dispatches] using named
    rw [List.countP_cons, uncounted]
    have change : (before.row channel id).Change (ownTx (.worker worker))
        (putsWithin (before.log.countP (Event.dispatches channel id)))
        ((before.commit (.work (.worker worker))).row channel id) :=
      row_change_commit (show (Tx.work (.worker worker)).actor = .worker worker from rfl) channel id
    exact budget.change change
      ((HostMove.sweep (.commit (.work (.worker worker)) rfl) :
        HostMove True (.worker worker) before _).follows kept channel id)

/-- A change of a worker that dispatches nothing stays within the budget. -/
theorem SendMove.within {spent : Nat} (move : SendMove True worker before after)
    (kept : RowsKept before) (budget : CellBudget spent (before.row channel id)) :
    (before.row channel id).Change (ownTx (.worker worker)) (putsWithin spent)
      (after.row channel id) := by
  have sound : ∀ row, (before.row channel id).view (.work (.worker worker)) = some row →
      SoundRow row := fun row seen => kept.sound channel id row (Cell.version_of_view seen)
  have within : ∀ row, (before.row channel id).view (.work (.worker worker)) = some row →
      RowBudget spent row := fun row seen => budget.versions row (Cell.version_of_view seen)
  cases move with
  | locked target ids writable opens =>
      apply row_change_write writable
      rintro row new seen chosen rfl put ⟨⟩
      have member : id ∈ ids := by
        by_contra absent
        simp [lockKeys, absent] at chosen
      have isOpen := opens id member row seen
      rw [eq_of_lockKeys chosen]
      refine ⟨within row seen, fun dispatching => ?_⟩
      rw [dispatching] at isOpen
      cases isOpen
  | marked target ids change marks held writable =>
      apply row_change_write writable
      rintro row new seen selected rfl put ⟨⟩
      simp only [onIds, Option.ite_none_right_eq_some, Option.some.injEq] at selected
      obtain ⟨member, rfl⟩ := selected
      exact marks.within (within row seen) (held.of_view member seen)
  | dispatching target now ids writable grounded =>
      apply row_change_write writable
      rintro row new seen chosen rfl put ⟨⟩
      have member : id ∈ ids := by
        by_contra absent
        simp [markDispatching, absent] at chosen
      exact (within row seen).dispatching (sound row seen)
        (grounded id member row (Cell.version_of_view seen)) chosen
  | dispatched target ids held =>
      exact row_change_commit (show (Tx.work (.worker worker)).actor = .worker worker from rfl)
        channel id
  | began call caller primed composed => exact .same
  | ended call outcome caller => exact .same
  | completed target outcome attempts begun next ids writable tried =>
      apply row_change_write writable
      rintro row new seen chosen rfl put ⟨⟩
      have member : id ∈ ids := by
        by_contra absent
        simp [completeRow, absent] at chosen
      exact (within row seen).completed (tried id member row (Cell.version_of_view seen)) chosen

/-- A change that leaves the dispatches of the history as they are. -/
theorem Budgeted.of_change (budgeted : Budgeted before) (kept : RowsKept before)
    (move : HostMove True actor before after) (announced : Announced after.log)
    (counts : ∀ channel id, after.log.countP (Event.dispatches channel id) =
      before.log.countP (Event.dispatches channel id))
    (changes : ∀ channel id, (before.row channel id).Change (ownTx actor)
      (putsWithin (before.log.countP (Event.dispatches channel id))) (after.row channel id)) :
    Budgeted after where
  announced := announced
  within channel id := by
    rw [counts]
    exact (budgeted.within channel id).change (changes channel id) (move.follows kept channel id)

theorem SweepStep.budgeted (step : SweepStep actor before after) (kept : RowsKept before)
    (budgeted : Budgeted before) : Budgeted after := by
  have move : HostMove True actor before after := .sweep step
  have changes := fun channel id => step.within kept (budgeted.within channel id)
  have quietly : ∀ event : Event, event.offRecord = true → after.log = event :: before.log →
      Budgeted after := by
    intro event quiet log
    apply budgeted.of_change kept move
    · rw [log]
      exact announced_of_offRecord budgeted.announced quiet
    · intro channel id
      rw [log, List.countP_cons, dispatches_of_offRecord quiet]
      rfl
    · exact changes
  have silently : after.log = before.log → Budgeted after := by
    intro log
    apply budgeted.of_change kept move
    · rw [log]
      exact budgeted.announced
    · intro channel id
      rw [log]
    · exact changes
  cases step with
  | aside rows slots history => exact silently history
  | committed event quiet => exact quietly event quiet rfl
  | recorded event quiet => exact quietly event quiet rfl
  | _ => exact silently rfl

theorem SendMove.budgeted (step : SendMove True worker before after) (kept : RowsKept before)
    (budgeted : Budgeted before) : Budgeted after := by
  have move : HostMove True (.worker worker) before after := .send worker rfl step
  have changes := fun channel id => step.within kept (budgeted.within channel id)
  cases step with
  | dispatched target ids held =>
      constructor
      · exact budgeted.announced
      · intro channel id
        exact (budgeted.within channel id).dispatched kept (held trivial)
  | began call caller primed composed =>
      apply budgeted.of_change kept move _ _ changes
      · exact ⟨caller.symm ▸ primed, budgeted.announced⟩
      · intro channel id
        exact List.countP_cons_of_neg (by simp)
  | ended call outcome caller =>
      apply budgeted.of_change kept move _ _ changes
      · exact budgeted.announced
      · intro channel id
        exact List.countP_cons_of_neg (by simp)
  | _ => exact budgeted.of_change kept move budgeted.announced (fun _ _ => rfl) changes

/-- Every listed change stays within the budget. -/
theorem HostMove.budgeted (move : HostMove True actor before after) (kept : RowsKept before)
    (budgeted : Budgeted before) : Budgeted after := by
  cases move with
  | sweep step => exact step.budgeted kept budgeted
  | send worker is step => exact step.budgeted kept budgeted
  | crash =>
      apply budgeted.of_change kept .crash
      · exact budgeted.announced
      · intro channel id
        exact List.countP_cons_of_neg (by simp [Event.dispatches])
      · intro channel id
        exact .of_rollbackAll own_of_mem_connections

end

/-- A host at rest whose leased rows were claimed for an attempt. -/
structure BudgetRest (host : Host) : Prop extends SoundRest host where
  tried : ∀ channel id row, (host.row channel id).base = some row → row.leaseOwner ≠ none →
    0 < row.attemptCount

theorem BudgetRest.budgeted {host : Host} (rest : BudgetRest host) : Budgeted host where
  announced := by
    rw [rest.history]
    trivial
  within channel id := by
    rw [rest.history]
    constructor
    · exact Nat.zero_le _
    · exact fun _ => rfl
    · rintro row (stored | ⟨tx, held⟩)
      · exact ⟨Nat.zero_le _, fun leased _ => rest.tried channel id row stored leased,
          fun _ => (by decide : 0 < maxAttempts)⟩
      · rw [rest.unheld] at held
        cases held
    · intro tx row held
      rw [rest.unheld] at held
      cases held

section

variable {digests : Digests} {deployed : Settings → Prop} {host : Host}
  {config : Config Host Input Label Actor}

theorem budgeted_of_reachable (rest : BudgetRest host)
    (reachable :
      (hostSystem digests deployed).Reachable leasedAtDispatch (System.idle host) config) :
    Budgeted config.shared := by
  have implies : ∀ actor label host input, leasedAtDispatch actor label host input → True →
      leasedAtDispatch actor label host input := fun _ _ _ _ leased _ => leased
  induction reachable with
  | refl => exact rest.budgeted
  | tail run step budgeted =>
      obtain ⟨actor, move⟩ := hostMove_of_step implies rest.toSoundRest run step
      exact move.budgeted (rowsKept_of_reachable implies rest.toSoundRest run) budgeted

/-- In a run whose dispatch updates find their rows leased, a row is part of at most
as many calls as a row has attempts. -/
theorem calls_le_maxAttempts (rest : BudgetRest host)
    (reachable : (hostSystem digests deployed).Reachable leasedAtDispatch (System.idle host) config)
    (channel : Channel) (id : String) :
    config.shared.log.countP (Event.calls channel id) ≤ maxAttempts := by
  have budgeted := budgeted_of_reachable rest reachable
  exact (calls_le_dispatches budgeted.announced).trans (budgeted.within channel id).bounded

end

theorem queuedHost_budgetRest : BudgetRest queuedHost where
  toSoundRest := queuedHost_soundRest
  tried channel id row stored leased := by
    cases channel with
    | subscriber => cases stored
    | system =>
        change (if id = "notice" then Cell.committed _ else Cell.empty).base = some row at stored
        split at stored
        · cases stored
          exact absurd rfl leased
        · cases stored

/-- The row of `plainSend` is called for once. -/
theorem plainSend_calls : ∃ config,
    (hostSystem plainDigests anySettings).Reachable leasedAtDispatch (System.idle queuedHost)
      config ∧
    config.shared.log.countP (Event.calls .system "notice") = 1 ∧
    config.shared.log.countP (Event.calls .system "notice") ≤ maxAttempts := by
  have replayed : ((hostSystem plainDigests anySettings).replay leasedAtDispatch
      (System.idle queuedHost) plainSend).any (fun config =>
        decide (config.shared.log.countP (Event.calls .system "notice") = 1)) = true := by
    decide
  obtain ⟨config, reachable, once⟩ :=
    System.exists_reachable_of_replay legal_plainSend replayed
  exact ⟨config, reachable, of_decide_eq_true once,
    calls_le_maxAttempts queuedHost_budgetRest reachable .system "notice"⟩

end TennisAlerts.HostCore
