import TennisAlerts.Concurrent.RelyGuarantee
import TennisAlerts.Properties.SendHistory

/-!
# The protocol of sends

A row that a possibly accepted call included stays in a status that no claim
selects, in every version of it.  What one actor may do to a row is stated
against what the others rely on: their held rows, their own calls, and the rows
they dispatched.
-/

namespace TennisAlerts.HostCore

open TennisAlerts.Concurrent TennisAlerts.Database

/-! ## Statuses -/

/-- Statuses that a send ends in. -/
def Status.final : Status → Bool
  | .submissionUnknown | .submitted | .delivered | .failed | .deliveryUnknown => true
  | _ => false

/-- Statuses that no claim selects once a call was made. -/
def Status.settled (status : Status) : Bool :=
  status.final || status = .dispatching

theorem Status.not_settled_of_open {status : Status} (isOpen : status.open = true) :
    status.settled = false := by
  cases status <;> first | rfl | cases isOpen

theorem Status.not_final_of_open {status : Status} (isOpen : status.open = true) :
    status.final = false := by
  cases status <;> first | rfl | cases isOpen

/-- A possibly accepted call leaves its rows settled. -/
theorem settled_phase {outcome : SendOutcome} {attempts : Nat}
    (accepted : outcome.possiblyAccepted = true) :
    (outcome.phase attempts).settled = true := by
  cases outcome with
  | returned messageId requestId => cases messageId <;> rfl
  | raised error =>
      have final : retryableSendError error = false := by
        simpa [SendOutcome.possiblyAccepted] using accepted
      simp [SendOutcome.phase, final]
      rfl

/-- A row that the worker dispatched: still dispatching, or recovered. -/
def Flying (worker : String) (row : OutboxRow) : Prop :=
  (row.status = .dispatching ∧ row.leaseOwner = some worker) ∨
    (row.status = .submissionUnknown ∧ row.leaseOwner = none)

/-! ## The protocol -/

section

variable (host : Host)

/-- The cell of an outbox row. -/
def Host.row (channel : Channel) (id : String) : Cell Tx OutboxRow :=
  (host.outbox channel).cell id

/-- The worker was the last to dispatch the row, and every version shows it. -/
structure InFlight (worker : String) (channel : Channel) (id : String) : Prop where
  last : lastDispatch host.log channel id = some worker
  stored : (host.row channel id).base.isSome = true
  flying : ∀ row, (host.row channel id).Version row → Flying worker row

structure SendInvariant : Prop where
  present : ∀ channel id tx, (host.row channel id).held ≠ some (tx, none)
  released : ∀ channel id row, (host.row channel id).Version row →
    row.status.final = true → row.leaseOwner = none
  settled : ∀ channel id row, Spent host.log channel id →
    (host.row channel id).Version row → row.status.settled = true
  owned : ∀ channel id row worker, Spent host.log channel id →
    (host.row channel id).Version row → row.leaseOwner = some worker →
    SpentBy host.log worker channel id
  dispatched : ∀ channel id worker, Spent host.log channel id →
    lastDispatch host.log channel id = some worker → SpentBy host.log worker channel id
  stored : ∀ channel id, Spent host.log channel id →
    (host.row channel id).base.isSome = true
  once : SentOnce host.log

end

/-- What an actor relies on: its own held rows, its own calls and its own rows in
flight are left alone. -/
structure SendRely (actor : Actor) (before after : Host) : Prop where
  held : ∀ channel id row, (before.row channel id).held = some (.work actor, row) →
    after.row channel id = before.row channel id
  spent : ∀ worker channel id, actor = .worker worker →
    (SpentBy after.log worker channel id ↔ SpentBy before.log worker channel id)
  flight : ∀ worker channel id, actor = .worker worker →
    InFlight before worker channel id → InFlight after worker channel id

def sendProtocol : Protocol Host Actor where
  invariant := SendInvariant
  rely := SendRely
  resting _ _ := True

/-- The `dispatching` update finds every row it names leased to its worker. -/
def leasedAtDispatch (_ : Actor) (label : Label) (host : Host) (_ : Input) : Prop :=
  match label with
  | .dispatchUpdate channel worker ids =>
      ∀ id ∈ ids, ((host.row channel id).view (.work (.worker worker))).any
        (fun row => row.leaseOwner = some worker) = true
  | _ => True

instance : ∀ actor label host input, Decidable (leasedAtDispatch actor label host input)
  | _, .dispatchUpdate _ _ _, _, _ => inferInstanceAs (Decidable (∀ _ ∈ _, _))
  | _, .plain, _, _ | _, .countReserved _ _ _ _, _, _ | _, .beginCall _, _, _
  | _, .outcome _, _, _ | _, .completeUpdate _ _ _ _, _, _ | _, .answer _, _, _
  | _, .evidence _ _, _, _ => isTrue trivial

/-- A step keeps the invariant and what the other actors rely on. -/
def SendStep (actor : Actor) (before after : Host) : Prop :=
  SendInvariant after ∧ sendProtocol.Guarantees actor before after

/-! ## Steps that put no new version -/

/-- A change of a cell that puts no new version and deletes no row: nothing, a
commit, a rollback. -/
structure Narrows (actor : Actor) (cell narrowed : Cell Tx OutboxRow) : Prop where
  versions : ∀ row, narrowed.Version row → cell.Version row
  present : (∀ tx, cell.held ≠ some (tx, none)) → ∀ tx, narrowed.held ≠ some (tx, none)
  stored : (∀ tx, cell.held ≠ some (tx, none)) → cell.base.isSome = true →
    narrowed.base.isSome = true
  foreign : ∀ tx row, tx.actor ≠ actor → cell.held = some (tx, row) → narrowed = cell

theorem Narrows.refl {actor : Actor} {cell : Cell Tx OutboxRow} : Narrows actor cell cell where
  versions _ version := version
  present nonempty := nonempty
  stored _ stored := stored
  foreign _ _ _ _ := rfl

theorem Narrows.trans {actor : Actor} {first second third : Cell Tx OutboxRow}
    (left : Narrows actor first second) (right : Narrows actor second third) :
    Narrows actor first third where
  versions row version := left.versions row (right.versions row version)
  present nonempty := right.present (left.present nonempty)
  stored nonempty stored := right.stored (left.present nonempty) (left.stored nonempty stored)
  foreign tx row different held := by
    have same := left.foreign tx row different held
    subst same
    exact right.foreign tx row different held

theorem narrows_commit {tx : Tx} {cell : Cell Tx OutboxRow} :
    Narrows tx.actor cell (cell.commit tx) where
  versions _ version := Cell.version_of_commit version
  present nonempty other held := nonempty other (Cell.held_commit held)
  stored nonempty stored := by
    have published : (cell.commit tx).base = cell.base ∨
        cell.held = some (tx, (cell.commit tx).base) := Cell.base_commit
    rcases published with same | held
    · rw [same]
      exact stored
    · rw [Option.isSome_iff_ne_none]
      intro missing
      rw [missing] at held
      exact nonempty tx held
  foreign other row different held := by
    apply Cell.commit_of_held_ne held
    rintro rfl
    exact different rfl

theorem narrows_rollback {tx : Tx} {cell : Cell Tx OutboxRow} :
    Narrows tx.actor cell (cell.rollback tx) where
  versions _ version := Cell.version_of_rollback version
  present nonempty other held := nonempty other (Cell.held_rollback held)
  stored _ stored := by simpa using stored
  foreign other row different held := by
    apply Cell.rollback_of_held_ne held
    rintro rfl
    exact different rfl

/-- The history says the same about sends. -/
structure SameSends (log later : List Event) : Prop where
  spentBy : ∀ worker channel id, SpentBy later worker channel id ↔
    SpentBy log worker channel id
  last : ∀ channel id, lastDispatch later channel id = lastDispatch log channel id
  once : SentOnce log → SentOnce later

theorem SameSends.refl {log : List Event} : SameSends log log :=
  ⟨fun _ _ _ => Iff.rfl, fun _ _ => rfl, fun once => once⟩

theorem SameSends.spent {log later : List Event} (same : SameSends log later)
    {channel : Channel} {id : String} : Spent later channel id ↔ Spent log channel id :=
  exists_congr fun _ => same.spentBy _ _ _

theorem sameSends_cons {log : List Event} {event : Event} (quiet : event.offRecord = true) :
    SameSends log (event :: log) where
  spentBy worker channel id := by
    apply spentBy_cons_iff
    rintro call outcome rfl
    cases quiet
  last channel id := by
    apply lastDispatch_cons
    rintro worker channel ids rfl
    cases quiet
  once once := by
    apply once.cons
    rintro call rfl
    cases quiet

theorem sendStep_of_narrows {actor : Actor} {before after : Host}
    (invariant : SendInvariant before)
    (cells : ∀ channel id, Narrows actor (before.row channel id) (after.row channel id))
    (same : SameSends before.log after.log) : SendStep actor before after := by
  constructor
  · constructor
    · intro channel id
      exact (cells channel id).present (invariant.present channel id)
    · intro channel id row version
      exact invariant.released channel id row ((cells channel id).versions row version)
    · intro channel id row spent version
      exact invariant.settled channel id row (same.spent.mp spent)
        ((cells channel id).versions row version)
    · intro channel id row worker spent version owner
      exact (same.spentBy _ _ _).mpr (invariant.owned channel id row worker
        (same.spent.mp spent) ((cells channel id).versions row version) owner)
    · intro channel id worker spent last
      rw [same.last] at last
      exact (same.spentBy _ _ _).mpr
        (invariant.dispatched channel id worker (same.spent.mp spent) last)
    · intro channel id spent
      exact (cells channel id).stored (invariant.present channel id)
        (invariant.stored channel id (same.spent.mp spent))
    · exact same.once invariant.once
  · intro other different
    constructor
    · intro channel id row held
      exact (cells channel id).foreign (.work other) row different held
    · intro worker channel id _
      exact same.spentBy worker channel id
    · rintro worker channel id _ ⟨last, stored, flying⟩
      constructor
      · rw [same.last]
        exact last
      · exact (cells channel id).stored (invariant.present channel id) stored
      · intro row version
        exact flying row ((cells channel id).versions row version)

/-! ## Steps that put new versions -/

/-- A version that an actor may put under `channel` and `id`. -/
structure NewVersion (actor : Actor) (host : Host) (channel : Channel) (id : String)
    (new : OutboxRow) : Prop where
  released : new.status.final = true → new.leaseOwner = none
  settled : Spent host.log channel id → new.status.settled = true
  owned : Spent host.log channel id → ∀ worker, new.leaseOwner = some worker →
    SpentBy host.log worker channel id
  flying : ∀ worker, Actor.worker worker ≠ actor → InFlight host worker channel id →
    Flying worker new

/-- The cell is left alone, or its lock is taken for a permitted version. -/
def Puts (actor : Actor) (host : Host) (channel : Channel) (id : String)
    (changed : Cell Tx OutboxRow) : Prop :=
  changed = host.row channel id ∨
    ∃ new, (host.row channel id).free (.work actor) = true ∧
      changed = (host.row channel id).hold (.work actor) (some new) ∧
      NewVersion actor host channel id new

theorem sendStep_of_puts {actor : Actor} {before after : Host}
    (invariant : SendInvariant before) (history : after.log = before.log)
    (cells : ∀ channel id, Puts actor before channel id (after.row channel id)) :
    SendStep actor before after := by
  -- every version is an old one or the permitted one
  have versions : ∀ channel id row, (after.row channel id).Version row →
      (before.row channel id).Version row ∨ NewVersion actor before channel id row := by
    intro channel id row version
    rcases cells channel id with same | ⟨new, _, changed, permitted⟩
    · rw [same] at version
      exact Or.inl version
    · rw [changed, Cell.version_hold_iff] at version
      rcases version with stored | put
      · exact Or.inl (Or.inl stored)
      · cases put
        exact Or.inr permitted
  have base : ∀ channel id, (after.row channel id).base = (before.row channel id).base := by
    intro channel id
    rcases cells channel id with same | ⟨new, _, changed, _⟩
    · rw [same]
    · rw [changed, Cell.base_hold]
  constructor
  · constructor
    · intro channel id tx
      rcases cells channel id with same | ⟨new, _, changed, _⟩
      · rw [same]
        exact invariant.present channel id tx
      · rw [changed, Cell.held_hold]
        simp
    · intro channel id row version final
      rcases versions channel id row version with old | new
      · exact invariant.released channel id row old final
      · exact new.released final
    · intro channel id row spent version
      rw [history] at spent
      rcases versions channel id row version with old | new
      · exact invariant.settled channel id row spent old
      · exact new.settled spent
    · intro channel id row worker spent version owner
      rw [history] at spent ⊢
      rcases versions channel id row version with old | new
      · exact invariant.owned channel id row worker spent old owner
      · exact new.owned spent worker owner
    · rw [history]
      exact invariant.dispatched
    · intro channel id spent
      rw [history] at spent
      rw [base]
      exact invariant.stored channel id spent
    · rw [history]
      exact invariant.once
  · intro other different
    constructor
    · intro channel id row held
      rcases cells channel id with same | ⟨new, free, _, _⟩
      · exact same
      · have foreign : Tx.work other ≠ Tx.work actor := by
          rintro ⟨⟩
          exact different rfl
        rw [Cell.not_free_of_held_ne held foreign] at free
        cases free
    · intro worker channel id _
      rw [history]
    · rintro worker channel id rfl flight
      constructor
      · rw [history]
        exact flight.last
      · rw [base]
        exact flight.stored
      · intro row version
        rcases versions channel id row version with old | new
        · exact flight.flying row old
        · exact new.flying worker different flight

/-- A permitted change of a row that is there. -/
structure RowStep (actor : Actor) (host : Host) (channel : Channel) (id : String)
    (row new : OutboxRow) : Prop where
  released : new.status.final = true → new.leaseOwner = none
  settled : Spent host.log channel id → new.status.settled = true
  owned : ∀ worker, new.leaseOwner = some worker → Spent host.log channel id →
    row.leaseOwner = some worker
  flying : ∀ worker, Actor.worker worker ≠ actor → Flying worker row → Flying worker new

theorem RowStep.newVersion {actor : Actor} {host : Host} {channel : Channel} {id : String}
    {row new : OutboxRow} (step : RowStep actor host channel id row new)
    (invariant : SendInvariant host) (version : (host.row channel id).Version row) :
    NewVersion actor host channel id new where
  released := step.released
  settled := step.settled
  owned spent worker owner :=
    invariant.owned channel id row worker spent version (step.owned worker owner spent)
  flying worker different flight := step.flying worker different (flight.flying row version)

@[simp]
theorem row_put_self {host : Host} {channel : Channel} {id : String}
    {table : VersionedTable Tx String OutboxRow} :
    ((TableRef.outbox channel).put table host).row channel id = table.cell id := by
  simp [Host.row, TableRef.outbox]

theorem row_put_of_ne {host : Host} {channel other : Channel} {id : String}
    {table : VersionedTable Tx String OutboxRow} (different : other ≠ channel) :
    ((TableRef.outbox channel).put table host).row other id = host.row other id := by
  simp [Host.row, TableRef.outbox, different]

theorem sendStep_write {actor : Actor} {before : Host} (invariant : SendInvariant before)
    {channel : Channel} {statement : String → OutboxRow → Option OutboxRow}
    (writable : (before.outbox channel).writable (.work actor)
      (fun id row => (statement id row).map some) = true)
    (steps : ∀ id row new, (before.row channel id).view (.work actor) = some row →
      statement id row = some new → RowStep actor before channel id row new) :
    SendStep actor before ((TableRef.outbox channel).put
      ((before.outbox channel).write (.work actor)
        fun id row => (statement id row).map some) before) := by
  refine sendStep_of_puts invariant rfl ?_
  intro other id
  by_cases same : other = channel
  · subst same
    rw [row_put_self]
    rcases VersionedTable.cell_write_cases writable id with
      ⟨unchanged, _⟩ | ⟨row, new, seen, chosen, free, changed⟩
    · exact Or.inl unchanged
    · obtain ⟨moved, selected, rfl⟩ := Option.map_eq_some_iff.mp chosen
      have step := steps id row moved seen selected
      exact Or.inr ⟨moved, free, changed,
        step.newVersion invariant (Cell.version_of_view seen)⟩
  · exact Or.inl (row_put_of_ne same)

/-- A row that is stored is read by every transaction. -/
theorem SendInvariant.view_ne_none {host : Host} (invariant : SendInvariant host)
    {channel : Channel} {id : String} {tx : Tx}
    (stored : (host.row channel id).base.isSome = true) :
    (host.row channel id).view tx ≠ none := by
  intro missing
  unfold Cell.view at missing
  split at missing
  · rename_i holder row held
    split at missing
    · subst missing
      exact invariant.present channel id holder held
    · rw [missing] at stored
      cases stored
  · rw [missing] at stored
    cases stored

/-- A new row is spent by no call and in nobody's flight. -/
theorem sendStep_insert {actor : Actor} {before : Host} (invariant : SendInvariant before)
    {channel : Channel} {id : String} {row : OutboxRow}
    (absent : (before.row channel id).view (.work actor) = none)
    (free : (before.row channel id).free (.work actor) = true)
    (isOpen : row.status.open = true) :
    SendStep actor before ((TableRef.outbox channel).put
      ((before.outbox channel).insert (.work actor) id row) before) := by
  have unspent : ¬Spent before.log channel id := fun spent =>
    invariant.view_ne_none (invariant.stored channel id spent) absent
  have permitted : NewVersion actor before channel id row := by
    constructor
    · intro final
      rw [Status.not_final_of_open isOpen] at final
      cases final
    · exact fun spent => absurd spent unspent
    · exact fun spent => absurd spent unspent
    · exact fun worker _ flight => absurd absent (invariant.view_ne_none flight.stored)
  refine sendStep_of_puts invariant rfl ?_
  intro other key
  by_cases same : other = channel
  · subst same
    rw [row_put_self]
    by_cases sameKey : key = id
    · subst sameKey
      exact Or.inr ⟨row, free, VersionedTable.cell_insert_self, permitted⟩
    · exact Or.inl (VersionedTable.cell_insert_of_ne sameKey)
  · exact Or.inl (row_put_of_ne same)

/-! ## Background work -/

theorem OutboxMove.rowStep {actor : Actor} {host : Host} {channel : Channel} {id : String}
    {row new : OutboxRow} (move : OutboxMove row new) (invariant : SendInvariant host)
    (version : (host.row channel id).Version row) : RowStep actor host channel id row new := by
  have settled : Spent host.log channel id → row.status.settled = true :=
    fun spent => invariant.settled channel id row spent version
  rcases move with ⟨_, change⟩
  cases change with
  | interrupted was is released _ =>
      constructor
      · exact fun _ => released
      · intro _
        rw [is]
        rfl
      · intro worker owner
        rw [released] at owner
        cases owner
      · exact fun worker _ _ => Or.inr ⟨is, released⟩
  | stopped was is owner _ =>
      have unspent : ¬Spent host.log channel id := by
        intro spent
        have impossible := settled spent
        rw [Status.not_settled_of_open was] at impossible
        cases impossible
      constructor
      · rcases is with is | is | is <;> rw [is] <;> exact fun final => nomatch final
      · exact fun spent => absurd spent unspent
      · exact fun _ _ spent => absurd spent unspent
      · rintro worker _ (⟨dispatching, _⟩ | ⟨unknown, _⟩)
        · rw [dispatching] at was
          cases was
        · rw [unknown] at was
          cases was
  | restored was is released _ =>
      have unspent : ¬Spent host.log channel id := by
        intro spent
        have impossible := settled spent
        rw [was] at impossible
        cases impossible
      constructor
      · exact fun _ => released
      · exact fun spent => absurd spent unspent
      · exact fun _ _ spent => absurd spent unspent
      · rintro worker _ (⟨dispatching, _⟩ | ⟨unknown, _⟩)
        · rw [was] at dispatching
          cases dispatching
        · rw [was] at unknown
          cases unknown
  | reported was is owner _ =>
      have unowned : row.leaseOwner = none :=
        invariant.released channel id row version (by rw [was]; rfl)
      constructor
      · intro _
        rw [owner, unowned]
      · intro _
        rcases is with is | is | is | is <;> rw [is] <;> rfl
      · intro worker new_owner
        rw [owner, unowned] at new_owner
        cases new_owner
      · rintro worker _ (⟨dispatching, _⟩ | ⟨unknown, _⟩)
        · rw [was] at dispatching
          cases dispatching
        · rw [was] at unknown
          cases unknown

theorem sendStep_commit (tx : Tx) {before : Host} (invariant : SendInvariant before) :
    SendStep tx.actor before (before.commit tx) :=
  sendStep_of_narrows invariant (fun _ _ => narrows_commit) .refl

/-- Nothing that sends look at changes. -/
theorem sendStep_of_same {actor : Actor} {before after : Host} (invariant : SendInvariant before)
    (rows : after.outbox = before.outbox) (history : after.log = before.log) :
    SendStep actor before after := by
  apply sendStep_of_narrows invariant
  · intro channel id
    rw [Host.row, Host.row, rows]
    exact Narrows.refl
  · rw [history]
    exact SameSends.refl

/-- A commit that records nothing about sends. -/
theorem sendStep_commitRecording {actor : Actor} {before : Host} {event : Event}
    (invariant : SendInvariant before) (quiet : event.offRecord = true) :
    SendStep actor before ((before.commit (.work actor)).record event) := by
  apply sendStep_of_narrows invariant
  · exact fun _ _ => (narrows_commit : Narrows (Tx.work actor).actor _ _)
  · exact sameSends_cons quiet

theorem BackgroundStep.sendStep {actor : Actor} {before after : Host}
    (step : BackgroundStep actor before after) (invariant : SendInvariant before) :
    SendStep actor before after := by
  cases step with
  | outbox channel statement writable moves =>
      apply sendStep_write invariant writable
      intro id row new seen changed
      exact (moves id row new changed).rowStep invariant (Cell.version_of_view seen)
  | commit => exact sendStep_commit (.work actor) invariant
  | redeemed email => exact sendStep_commitRecording invariant rfl
  | _ => exact sendStep_of_same invariant rfl rfl

theorem IngestStep.sendStep {actor : Actor} {before after : Host}
    (step : IngestStep actor before after) (invariant : SendInvariant before) :
    SendStep actor before after := by
  cases step with
  | background step => exact step.sendStep invariant
  | notification channel id row absent free pending _ _ _ =>
      apply sendStep_insert invariant absent free
      rw [pending]
      rfl
  | commit observation => exact sendStep_commitRecording invariant rfl
  | _ => exact sendStep_of_same invariant rfl rfl

theorem FenceStep.sendStep {actor : Actor} {before after : Host}
    (step : FenceStep actor before after) (invariant : SendInvariant before) :
    SendStep actor before after := by
  cases step with
  | background step => exact step.sendStep invariant
  | commit event fence =>
      apply sendStep_commitRecording invariant
      cases event <;> first | rfl | cases fence
  | _ => exact sendStep_of_same invariant rfl rfl

theorem WechatStep.sendStep {actor : Actor} {before after : Host}
    (step : WechatStep actor before after) (invariant : SendInvariant before) :
    SendStep actor before after := by
  cases step with
  | commit => exact sendStep_commit (.work actor) invariant
  | _ => exact sendStep_of_same invariant rfl rfl

theorem ConsumerStep.sendStep {worker : String} {before after : Host}
    (step : ConsumerStep worker before after) (invariant : SendInvariant before) :
    SendStep (.wechat worker) before after := by
  cases step with
  | wechat step => exact step.sendStep invariant
  | lock held own => exact sendStep_of_same invariant rfl rfl
  | commit tx own =>
      rw [← own]
      exact sendStep_commit tx invariant
  | record event post =>
      apply sendStep_of_narrows invariant
      · exact fun _ _ => Narrows.refl
      · apply sameSends_cons
        cases event <;> first | rfl | cases post

end TennisAlerts.HostCore
