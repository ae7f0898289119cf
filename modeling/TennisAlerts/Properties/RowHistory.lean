import TennisAlerts.Properties.RowSweeps

/-!
# What a worker knows of its rows

Every step of every run is one of the listed changes.  A worker keeps what it
read of the rows it claimed, whatever the other processes do: their content and
date do not change, a lease that is still its own counts its own attempt, and
nobody else dispatches under it.
-/

namespace TennisAlerts.HostCore

open TennisAlerts.Concurrent TennisAlerts.Database

/-- The other actors make listed changes. -/
def rowProtocol (leased : Prop) : Protocol Host Actor where
  invariant := RowsKept
  rely actor before after := ∃ other, other ≠ actor ∧ HostMove leased other before after
  resting _ _ := True

section

variable {leased : Prop} {actor judge other : Actor} {worker : String} {before after : Host}

/-- A listed change keeps the protocol. -/
theorem RowsKept.guarantees (kept : RowsKept before) (move : HostMove leased actor before after) :
    RowsKept after ∧ (rowProtocol leased).Guarantees actor before after :=
  ⟨kept.move move, fun _ different => ⟨actor, different.symm, move⟩⟩

/-! ## What other processes leave alone -/

theorem HostMove.held (move : HostMove leased other before after) (kept : RowsKept before)
    (different : other ≠ .worker worker) {channel : Channel} {id : String}
    {row : Option OutboxRow}
    (held : (before.row channel id).held = some (.work (.worker worker), row)) :
    after.row channel id = before.row channel id := by
  apply (move.row_change kept channel id).foreign held
  intro own
  exact different own.symm

theorem StoredContent.follows {channel : Channel} {id : String} {content : RowContent}
    (stored : StoredContent before channel id content)
    (follows : Follows (before.row channel id).base (after.row channel id).base) :
    StoredContent after channel id content := by
  obtain ⟨row, base, same⟩ := stored
  rw [base] at follows
  cases found : (after.row channel id).base with
  | none =>
      rw [found] at follows
      exact follows.elim
  | some new =>
      rw [found] at follows
      exact ⟨new, found, follows.content.trans same⟩

theorem Dated.move {eventKey : String} {date : Int} (dated : Dated before eventKey date)
    (kept : RowsKept before) (move : HostMove leased actor before after) :
    Dated after eventKey date := by
  obtain ⟨slot, stored, same⟩ := dated
  obtain ⟨new, found, kept⟩ := (kept.slots eventKey).base_change (move.slot_change eventKey) stored
  exact ⟨new, found, kept.trans same⟩

/-- A version that the worker leases was leased to it before, for the same
attempt, unless it made the change itself. -/
theorem lease_of_change {channel : Channel} {id : String}
    (change : (before.row channel id).Change (ownTx actor) (putsRow judge) (after.row channel id))
    (different : judge ≠ .worker worker) {version : OutboxRow}
    (seen : (after.row channel id).Version version) (owner : version.leaseOwner = some worker) :
    ∃ previous, (before.row channel id).Version previous ∧ previous.leaseOwner = some worker ∧
      version.attemptCount = previous.attemptCount ∧
      (version.status = .dispatching → previous.status = .dispatching) := by
  rcases change.version seen with old | ⟨writer, _, put⟩
  · exact ⟨version, old, owner, rfl, fun flying => flying⟩
  · obtain ⟨row, same, permitted⟩ := put
    cases same
    cases read : (before.row channel id).view writer with
    | none =>
        rw [read] at permitted
        have unleased := FreshRow.unleased permitted
        rw [owner] at unleased
        cases unleased
    | some previous =>
        rw [read] at permitted
        have kept := RowChange.foreign permitted worker (Ne.symm different) owner
        exact ⟨previous, Cell.version_of_view read, kept⟩

end

/-! ## Assertions of a worker -/

/-- The outboxes, the slots and the history stay as they are. -/
structure AsideStep (before after : Host) : Prop where
  rows : after.outbox = before.outbox
  slots : after.slots = before.slots
  history : after.log = before.log

theorem AsideStep.refl (host : Host) : AsideStep host host :=
  ⟨rfl, rfl, rfl⟩

theorem AsideStep.row {before after : Host} (step : AsideStep before after) (channel : Channel)
    (id : String) : after.row channel id = before.row channel id := by
  rw [Host.row, Host.row, step.rows]

/-- The worker's assertion survives the other processes, and its own steps that
are not about rows. -/
structure Robust (leased : Prop) (worker : String) (assertion : Host → Prop) : Prop where
  others : (rowProtocol leased).Stable (.worker worker) assertion
  aside : ∀ before after, AsideStep before after → assertion before → assertion after

section

variable (worker : String) (channel : Channel)

/-- The worker holds the rows of a claim, in the versions that it has put; the rows
of a subscriber claim are those of its target. -/
structure LockedRows (aim : Option Target) (version : OutboxRow → OutboxRow)
    (entries : List (String × OutboxRow)) (host : Host) : Prop where
  held : ∀ entry ∈ entries, Holds (.outbox channel) (.work (.worker worker)) [entry.1]
    (fun row => row = version entry.2) host
  opens : ∀ entry ∈ entries, (version entry.2).status.open = true
  aimed : ∀ target, aim = some target → ∀ entry ∈ entries,
    entry.2.email = target.email ∧ Dated host entry.2.eventKey target.bookingDate

/-- The row is stored as it was claimed. -/
def Recorded (row : ClaimedRow) (host : Host) : Prop :=
  ∃ content, StoredContent host channel row.id content ∧ content.email = row.email ∧
    content.subject = row.subject ∧ content.body = row.body ∧
    (channel = .subscriber → Dated host content.eventKey row.bookingDate)

/-- A lease of the row that is still the worker's is that of its own attempt. -/
def Tried (row : ClaimedRow) (host : Host) : Prop :=
  ∀ version, (host.row channel row.id).Version version → version.leaseOwner = some worker →
    version.attemptCount = row.attemptCount

/-- The row is not dispatched under the worker's lease. -/
def Grounded (id : String) (host : Host) : Prop :=
  ∀ version, (host.row channel id).Version version → version.leaseOwner = some worker →
    version.status ≠ .dispatching

/-- What a worker knows of the rows that it claimed. -/
structure Known (rows : List ClaimedRow) (host : Host) : Prop where
  recorded : ∀ row ∈ rows, Recorded channel row host
  tried : ∀ row ∈ rows, Tried worker channel row host

/-- What a worker knows of its rows before it dispatches them. -/
structure Prepared (rows : List ClaimedRow) (host : Host) : Prop where
  known : Known worker channel rows host
  grounded : ∀ row ∈ rows, Grounded worker channel row.id host

/-- The worker's latest entry dispatches the rows. -/
def Primed (ids : List String) (host : Host) : Prop :=
  lastOwn worker host.log = some (.dispatched worker channel ids)

end

/-- A system email is claimed alone, the rows of a digest are about one email and
one booking date. -/
def OneTarget : Channel → List ClaimedRow → Prop
  | .system, rows => rows.length ≤ 1
  | .subscriber, rows => ∃ email date, ∀ row ∈ rows, row.email = email ∧ row.bookingDate = date

section

variable {leased : Prop} {actor other : Actor} {worker : String} {channel : Channel}
  {before after : Host}

/-- A change of another process, or of the worker's own script without sends. -/
theorem Tried.change {row : ClaimedRow} (tried : Tried worker channel row before) {judge : Actor}
    (change : (before.row channel row.id).Change (ownTx actor) (putsRow judge)
      (after.row channel row.id)) (different : judge ≠ .worker worker) :
    Tried worker channel row after := by
  intro version seen owner
  obtain ⟨previous, old, leased, same, _⟩ := lease_of_change change different seen owner
  exact same.trans (tried previous old leased)

theorem Grounded.change {id : String} (grounded : Grounded worker channel id before)
    {judge : Actor} (change : (before.row channel id).Change (ownTx actor) (putsRow judge)
      (after.row channel id)) (different : judge ≠ .worker worker) :
    Grounded worker channel id after := by
  intro version seen owner dispatching
  obtain ⟨previous, old, leased, _, flew⟩ := lease_of_change change different seen owner
  exact grounded previous old leased (flew dispatching)

theorem Recorded.move {row : ClaimedRow} (recorded : Recorded channel row before)
    (kept : RowsKept before) (move : HostMove leased actor before after) :
    Recorded channel row after := by
  obtain ⟨content, stored, email, subject, body, dated⟩ := recorded
  exact ⟨content, stored.follows (move.follows kept channel row.id), email, subject, body,
    fun subscriber => (dated subscriber).move kept move⟩

/-! ### Robustness -/

theorem robust_true : Robust leased worker fun _ => True where
  others _ _ _ _ _ _ := trivial
  aside _ _ _ _ := trivial

theorem Robust.and {first second : Host → Prop} (left : Robust leased worker first)
    (right : Robust leased worker second) :
    Robust leased worker fun host => first host ∧ second host where
  others := left.others.and right.others
  aside before after step holds :=
    ⟨left.aside before after step holds.1, right.aside before after step holds.2⟩

theorem robust_lockedRows {aim : Option Target} {version : OutboxRow → OutboxRow}
    {entries : List (String × OutboxRow)} :
    Robust leased worker (LockedRows worker channel aim version entries) where
  others := by
    rintro before after kept _ ⟨other, different, move⟩ locked
    refine ⟨fun entry member => ?_, locked.opens, fun target isAim entry member => ?_⟩
    · apply (locked.held entry member).of_unchanged
      intro key row held
      exact move.held kept different held
    · obtain ⟨email, dated⟩ := locked.aimed target isAim entry member
      exact ⟨email, dated.move kept move⟩
  aside := by
    intro before after step locked
    refine ⟨fun entry member => ?_, locked.opens, fun target isAim entry member => ?_⟩
    · apply (locked.held entry member).of_unchanged
      exact fun key _ _ => step.row channel key
    · rw [Dated, step.slots]
      exact locked.aimed target isAim entry member

theorem Recorded.aside {row : ClaimedRow} (recorded : Recorded channel row before)
    (step : AsideStep before after) : Recorded channel row after := by
  unfold Recorded StoredContent Dated at recorded ⊢
  rwa [step.row, step.slots]

theorem robust_known {rows : List ClaimedRow} :
    Robust leased worker (Known worker channel rows) where
  others := by
    rintro before after kept _ ⟨other, different, move⟩ known
    constructor
    · exact fun row member => (known.recorded row member).move kept move
    · intro row member
      exact (known.tried row member).change (move.row_change kept channel row.id) different
  aside := by
    intro before after step known
    constructor
    · exact fun row member => (known.recorded row member).aside step
    · intro row member
      rw [Tried, step.row]
      exact known.tried row member

theorem robust_prepared {rows : List ClaimedRow} :
    Robust leased worker (Prepared worker channel rows) where
  others := by
    rintro before after kept afterKept relied prepared
    refine ⟨robust_known.others kept afterKept relied prepared.known, fun row member => ?_⟩
    obtain ⟨other, different, move⟩ := relied
    exact (prepared.grounded row member).change (move.row_change kept channel row.id) different
  aside := by
    intro before after step prepared
    have known : Robust leased worker (Known worker channel rows) := robust_known
    refine ⟨known.aside before after step prepared.known, fun row member => ?_⟩
    rw [Grounded, step.row]
    exact prepared.grounded row member

theorem robust_aloft {ids : List String} :
    Robust leased worker fun host => leased → HeldAloft worker channel ids host where
  others := by
    rintro before after kept _ ⟨other, different, move⟩ aloft isLeased
    apply (aloft isLeased).of_unchanged
    intro key row held
    exact move.held kept different held
  aside := by
    intro before after step aloft isLeased
    apply (aloft isLeased).of_unchanged
    exact fun key _ _ => step.row channel key

/-- The history gains at most an entry of the process itself. -/
theorem HostMove.lastOwn_eq (move : HostMove leased other before after)
    (different : other ≠ .worker worker) :
    lastOwn worker after.log = lastOwn worker before.log := by
  have foreign : ∀ event : Event, event.sender ≠ some worker →
      lastOwn worker (event :: before.log) = lastOwn worker before.log := by
    intro event silent
    simp [lastOwn, silent]
  have quiet : ∀ event : Event, event.offRecord = true →
      lastOwn worker (event :: before.log) = lastOwn worker before.log := by
    intro event off
    apply foreign
    cases event <;> simp_all [Event.offRecord, Event.sender]
  cases move with
  | sweep step =>
      cases step with
      | aside rows slots history => rw [history]
      | committed event off => exact quiet event off
      | recorded event off => exact quiet event off
      | _ => rfl
  | send name is step =>
      have stranger : some name ≠ some worker := by
        rintro ⟨⟩
        exact different is
      cases step with
      | dispatched channel ids held => exact foreign (.dispatched name channel ids) stranger
      | began call caller primed composed =>
          apply foreign (.began call)
          rwa [Event.sender, caller]
      | ended call outcome caller =>
          apply foreign (.ended call outcome)
          rwa [Event.sender, caller]
      | _ => rfl
  | crash => exact quiet (.crashed other) rfl

theorem robust_primed {ids : List String} : Robust leased worker (Primed worker channel ids) where
  others := by
    rintro before after _ _ ⟨other, different, move⟩ primed
    rw [Primed, move.lastOwn_eq different]
    exact primed
  aside := by
    intro before after step primed
    rw [Primed, step.history]
    exact primed

end

end TennisAlerts.HostCore
