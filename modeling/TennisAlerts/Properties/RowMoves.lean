import TennisAlerts.Database.Ascent
import TennisAlerts.Properties.FenceProtocol
import TennisAlerts.Properties.RowLifecycle
import TennisAlerts.Properties.SendProtocol

/-!
# What a process does to outbox rows

Each change that a process makes to an outbox row, to an observed slot or to the
history of calls is one of a list.  `SweepStep` lists the changes of scripts that
send nothing, `SendMove` those of a worker between its claim and the end of its
call, with what the worker knows when it makes them.
-/

namespace TennisAlerts.HostCore

open TennisAlerts.Concurrent TennisAlerts.Database

/-! ## Changes -/

/-- One change that a script without sends makes. -/
inductive SweepStep (actor : Actor) (before : Host) : Host → Prop
  | aside {after : Host} (rows : after.outbox = before.outbox)
      (slots : after.slots = before.slots) (history : after.log = before.log) :
      SweepStep actor before after
  | swept (channel : Channel) (statement : String → OutboxRow → Option OutboxRow)
      (writable : (before.outbox channel).writable (.work actor)
        (fun id row => (statement id row).map some) = true)
      (moves : ∀ id row new, statement id row = some new → Swept row new) :
      SweepStep actor before ((TableRef.outbox channel).put
        ((before.outbox channel).write (.work actor)
          fun id row => (statement id row).map some) before)
  | inserted (channel : Channel) (id : String) (row : OutboxRow)
      (absent : (before.row channel id).view (.work actor) = none)
      (free : (before.row channel id).free (.work actor) = true) (fresh : FreshRow row) :
      SweepStep actor before ((TableRef.outbox channel).put
        ((before.outbox channel).insert (.work actor) id row) before)
  | slot (number : Nat) (request : actor = .request number) (observation : Observation)
      (slot : Slot) (eventKey : String) (now : Int)
      (free : (before.slots.cell eventKey).free (.work actor) = true) :
      SweepStep actor before { before with
        slots := before.slots.insert (.work actor) eventKey
          (upsertedSlot observation slot now ((before.slots.cell eventKey).view (.work actor))) }
  | commit (tx : Tx) (own : tx.actor = actor) : SweepStep actor before (before.commit tx)
  | committed (event : Event) (quiet : event.offRecord = true) :
      SweepStep actor before ((before.commit (.work actor)).record event)
  | recorded (event : Event) (quiet : event.offRecord = true) :
      SweepStep actor before (before.record event)

/-- Changes of rows that a claim makes under its locks. -/
inductive Marks (worker : String) : (OutboxRow → OutboxRow) → Prop
  | claimed (now : Int) : Marks worker (markProcessing worker now)
  | linked (claimId : String) : Marks worker (linkClaim claimId)
  | suppressed (reason : String) (now : Int) : Marks worker (suppress reason now)

/-- The worker's transaction holds the rows, dispatching and leased to it. -/
def HeldAloft (worker : String) (channel : Channel) (ids : List String) (host : Host) : Prop :=
  Holds (.outbox channel) (.work (.worker worker)) ids
    (fun row => row.status = .dispatching ∧ row.leaseOwner = some worker) host

/-- The committed row has the content. -/
def StoredContent (host : Host) (channel : Channel) (id : String) (content : RowContent) : Prop :=
  ∃ row, (host.row channel id).base = some row ∧ row.content = content

/-- The committed slot of an event key is on the date. -/
def Dated (host : Host) (eventKey : String) (date : Int) : Prop :=
  ∃ slot, (host.slots.cell eventKey).base = some slot ∧ slot.bookingDate = date

/-- The call sends what the rows it names store: a system email its own row, a
digest the rows of one email and one booking date. -/
inductive Composed (host : Host) (call : Call) : Prop
  | system (id : String) (content : RowContent) (channel : call.channel = .system)
      (ids : call.rowIds = [id]) (stored : StoredContent host .system id content)
      (recipient : call.recipient = content.email) (subject : call.subject = content.subject)
      (body : call.body = content.body)
  | digest (contents : List RowContent) (date : Int) (text : String)
      (channel : call.channel = .subscriber)
      (stored : List.Forall₂ (StoredContent host .subscriber) call.rowIds contents)
      (recipient : ∀ content ∈ contents, call.recipient = content.email)
      (dated : ∀ content ∈ contents, Dated host content.eventKey date)
      (composed : formatDigest (contents.map RowContent.body) = some (call.subject, text))
      (body : call.body = subscriberBody text date)

/-- The worker whose send an entry is part of. -/
def Event.sender : Event → Option String
  | .dispatched worker _ _ => some worker
  | .began call => some call.worker
  | .ended call _ => some call.worker
  | _ => none

/-- The latest entry about the worker's sends. -/
def lastOwn (worker : String) (log : List Event) : Option Event :=
  log.find? fun event => event.sender = some worker

/-- One change of a worker between its claim and the end of its call.  Where
`leased` holds, its dispatches find their rows leased. -/
inductive SendMove (leased : Prop) (worker : String) (before : Host) : Host → Prop
  | locked (channel : Channel) (ids : List String)
      (writable : (before.outbox channel).writable (.work (.worker worker))
        (fun id row => (lockKeys ids id row).map some) = true)
      (opens : ∀ id ∈ ids, ∀ row, (before.row channel id).view (.work (.worker worker)) = some row →
        row.status.open = true) :
      SendMove leased worker before ((TableRef.outbox channel).put
        ((before.outbox channel).write (.work (.worker worker))
          fun id row => (lockKeys ids id row).map some) before)
  | marked (channel : Channel) (ids : List String) (change : OutboxRow → OutboxRow)
      (marks : Marks worker change)
      (held : Holds (.outbox channel) (.work (.worker worker)) ids
        (fun row => row.status.open = true) before)
      (writable : (before.outbox channel).writable (.work (.worker worker)) (fun id row =>
        (onIds ids change (before.view (.work (.worker worker))) id row).map some) = true) :
      SendMove leased worker before ((TableRef.outbox channel).put
        ((before.outbox channel).write (.work (.worker worker)) fun id row =>
          (onIds ids change (before.view (.work (.worker worker))) id row).map some) before)
  | dispatching (channel : Channel) (now : Int) (ids : List String)
      (writable : (before.outbox channel).writable (.work (.worker worker))
        (fun id row => (markDispatching worker now ids id row).map some) = true)
      (grounded : ∀ id ∈ ids, ∀ row, (before.row channel id).Version row →
        row.leaseOwner = some worker → row.status ≠ .dispatching) :
      SendMove leased worker before ((TableRef.outbox channel).put
        ((before.outbox channel).write (.work (.worker worker))
          fun id row => (markDispatching worker now ids id row).map some) before)
  | dispatched (channel : Channel) (ids : List String)
      (held : leased → HeldAloft worker channel ids before) :
      SendMove leased worker before
        ((before.commit (.work (.worker worker))).record (.dispatched worker channel ids))
  | began (call : Call) (caller : call.worker = worker)
      (primed : lastOwn worker before.log = some (.dispatched worker call.channel call.rowIds))
      (composed : Composed before call) :
      SendMove leased worker before (before.record (.began call))
  | ended (call : Call) (outcome : SendOutcome) (caller : call.worker = worker) :
      SendMove leased worker before (before.record (.ended call outcome))
  | completed (channel : Channel) (outcome : SendOutcome) (attempts : Nat) (begun next : Int)
      (ids : List String)
      (writable : (before.outbox channel).writable (.work (.worker worker)) (fun id row =>
        (completeRow outcome attempts worker begun next ids id row).map some) = true)
      (tried : ∀ id ∈ ids, ∀ row, (before.row channel id).Version row →
        row.leaseOwner = some worker → row.attemptCount ≤ attempts) :
      SendMove leased worker before ((TableRef.outbox channel).put
        ((before.outbox channel).write (.work (.worker worker)) fun id row =>
          (completeRow outcome attempts worker begun next ids id row).map some) before)

/-- One change of a process. -/
inductive HostMove (leased : Prop) (actor : Actor) (before : Host) : Host → Prop
  | sweep {after : Host} (step : SweepStep actor before after) : HostMove leased actor before after
  | send {after : Host} (worker : String) (is : actor = .worker worker)
      (step : SendMove leased worker before after) : HostMove leased actor before after
  | crash : HostMove leased actor before (before.crash actor)

/-- The transaction reads the versions that it holds. -/
theorem Holds.of_view {κ ρ : Type} {table : TableRef κ ρ} {tx : Tx} {keys : List κ}
    {property : ρ → Prop} {host : Host} (holds : Holds table tx keys property host) {key : κ}
    {row : ρ} (member : key ∈ keys) (seen : ((table.get host).cell key).view tx = some row) :
    property row := by
  obtain ⟨version, view, satisfied⟩ := holds.view member
  have read : version = row := Option.some.inj (view.symm.trans seen)
  exact read ▸ satisfied

/-! ## Rows and slots -/

/-- A row is never deleted, and its versions follow its life. -/
def Follows : Option OutboxRow → Option OutboxRow → Prop
  | none, _ => True
  | some _, none => False
  | some row, some new => Succession row new

instance : Std.Refl Follows where
  refl row := by
    cases row with
    | none => trivial
    | some row => exact Succession.refl

instance : IsTrans (Option OutboxRow) Follows where
  trans first second third below above := by
    cases first with
    | none => trivial
    | some first =>
        cases second with
        | none => exact below.elim
        | some second =>
            cases third with
            | none => exact above.elim
            | some third => exact Succession.trans below above

/-- The version that an actor may put in place of what it reads. -/
def putsRow (actor : Actor) (_ : Tx) (old new : Option OutboxRow) : Prop :=
  ∃ row, new = some row ∧
    match old with
    | some previous => RowChange actor previous row
    | none => FreshRow row

theorem follows_of_putsRow {actor : Actor} {tx : Tx} {old new : Option OutboxRow}
    (puts : putsRow actor tx old new) : Follows old new := by
  obtain ⟨row, rfl, change⟩ := puts
  cases old with
  | none => trivial
  | some previous => exact change.succession

/-- The rows are sound and follow their life, the slots stay on their dates. -/
structure RowsKept (host : Host) : Prop where
  ascending : ∀ channel id, (host.row channel id).Ascending Follows
  sound : ∀ channel id, (host.row channel id).Everywhere SoundRow
  slots : ∀ key, (host.slots.cell key).Lasting SlotRow.bookingDate Tx.isRequest

section

variable {leased : Prop} {actor judge : Actor} {worker : String} {before after : Host}

section

variable {puts : Tx → Option OutboxRow → Option OutboxRow → Prop}

/-- A write of one outbox changes the cells of that outbox. -/
theorem row_change_write {channel other : Channel} {id : String}
    {statement : String → OutboxRow → Option OutboxRow}
    (writable : (before.outbox channel).writable (.work actor)
      (fun id row => (statement id row).map some) = true)
    (changes : ∀ row new, (before.row channel id).view (.work actor) = some row →
      statement id row = some new → other = channel → puts (.work actor) (some row) (some new)) :
    (before.row other id).Change (ownTx actor) puts
      (((TableRef.outbox channel).put ((before.outbox channel).write (.work actor)
        fun id row => (statement id row).map some) before).row other id) := by
  by_cases same : other = channel
  · subst same
    rw [row_put_self]
    apply VersionedTable.change_write (show ownTx actor (.work actor) from rfl) writable
    intro row new seen chosen
    obtain ⟨moved, selected, rfl⟩ := Option.map_eq_some_iff.mp chosen
    exact changes row moved seen selected rfl
  · rw [row_put_of_ne same]
    exact .same

theorem row_change_insert {channel other : Channel} {key id : String} {row : OutboxRow}
    (free : (before.row channel key).free (.work actor) = true)
    (permitted : other = channel → id = key →
      puts (.work actor) ((before.row channel key).view (.work actor)) (some row)) :
    (before.row other id).Change (ownTx actor) puts
      (((TableRef.outbox channel).put ((before.outbox channel).insert (.work actor) key row)
        before).row other id) := by
  by_cases same : other = channel
  · subst same
    rw [row_put_self]
    by_cases inserted : id = key
    · subst inserted
      exact VersionedTable.change_insert (show ownTx actor (.work actor) from rfl) free
        (permitted rfl rfl) id
    · rw [VersionedTable.cell_insert_of_ne inserted]
      exact .same
  · rw [row_put_of_ne same]
    exact .same

theorem row_change_commit {tx : Tx} (own : tx.actor = actor) (channel : Channel) (id : String) :
    (before.row channel id).Change (ownTx actor) puts ((before.commit tx).row channel id) :=
  .of_commit (show ownTx actor tx from own)

end

/-- A script without sends changes rows as any actor may. -/
theorem SweepStep.row_change (step : SweepStep actor before after) (kept : RowsKept before)
    (channel : Channel) (id : String) :
    (before.row channel id).Change (ownTx actor) (putsRow judge) (after.row channel id) := by
  cases step with
  | aside rows slots history =>
      rw [Host.row, Host.row, rows]
      exact .same
  | swept target statement writable moves =>
      apply row_change_write writable
      rintro row new seen chosen rfl
      exact ⟨new, rfl,
        (moves id row new chosen).change (kept.sound channel id row (Cell.version_of_view seen))⟩
  | inserted target key row absent free fresh =>
      apply row_change_insert free
      intro _ _
      rw [absent]
      exact ⟨row, rfl, fresh⟩
  | slot => exact .same
  | commit tx own => exact row_change_commit own channel id
  | committed event quiet =>
      exact row_change_commit (show (Tx.work actor).actor = actor from rfl) channel id
  | recorded event quiet => exact .same

theorem Marks.change {change : OutboxRow → OutboxRow} (marks : Marks worker change)
    {row : OutboxRow} (sound : SoundRow row) (isOpen : row.status.open = true) :
    RowChange (.worker worker) row (change row) := by
  cases marks with
  | claimed now => exact markProcessing_change sound isOpen
  | linked claimId => exact linkClaim_change sound isOpen
  | suppressed reason now => exact suppress_change sound isOpen

theorem SendMove.row_change (move : SendMove leased worker before after) (kept : RowsKept before)
    (channel : Channel) (id : String) :
    (before.row channel id).Change (ownTx (.worker worker)) (putsRow (.worker worker))
      (after.row channel id) := by
  cases move with
  | locked target ids writable opens =>
      apply row_change_write writable
      rintro row new seen chosen rfl
      rw [eq_of_lockKeys chosen]
      exact ⟨row, rfl, .refl (kept.sound channel id row (Cell.version_of_view seen))⟩
  | marked target ids change marks held writable =>
      apply row_change_write writable
      rintro row new seen selected rfl
      simp only [onIds, Option.ite_none_right_eq_some, Option.some.injEq] at selected
      obtain ⟨member, rfl⟩ := selected
      have isOpen := held.of_view member seen
      exact ⟨_, rfl, marks.change (kept.sound channel id row (Cell.version_of_view seen)) isOpen⟩
  | dispatching target now ids writable grounded =>
      apply row_change_write writable
      rintro row new seen chosen rfl
      exact ⟨new, rfl,
        markDispatching_change (kept.sound channel id row (Cell.version_of_view seen)) chosen⟩
  | dispatched target ids held =>
      exact row_change_commit (show (Tx.work (.worker worker)).actor = .worker worker from rfl)
        channel id
  | began call caller primed composed => exact .same
  | ended call outcome caller => exact .same
  | completed target outcome attempts begun next ids writable tried =>
      apply row_change_write writable
      rintro row new seen chosen rfl
      exact ⟨new, rfl,
        completeRow_change (kept.sound channel id row (Cell.version_of_view seen)) chosen⟩

theorem HostMove.row_change (move : HostMove leased actor before after) (kept : RowsKept before)
    (channel : Channel) (id : String) :
    (before.row channel id).Change (ownTx actor) (putsRow actor) (after.row channel id) := by
  cases move with
  | sweep step => exact step.row_change kept channel id
  | send worker is step =>
      subst is
      exact step.row_change kept channel id
  | crash => exact .of_rollbackAll own_of_mem_connections

/-- Slots are put by requests, and an upsert leaves them on their date. -/
theorem SweepStep.slot_change (step : SweepStep actor before after) (key : String) :
    (before.slots.cell key).Change (ownTx actor)
      (Cell.putsLasting SlotRow.bookingDate Tx.isRequest) (after.slots.cell key) := by
  cases step with
  | aside rows slots history =>
      rw [slots]
      exact .same
  | slot number request observation slot eventKey now free =>
      apply VersionedTable.change_insert (show ownTx actor (.work actor) from rfl) free
      refine ⟨_, rfl, ?_⟩
      cases (before.slots.cell eventKey).view (.work actor) with
      | none => exact ⟨number, request⟩
      | some row => rfl
  | commit tx own => exact .of_commit (show ownTx actor tx from own)
  | committed event quiet => exact .of_commit (show ownTx actor (.work actor) from rfl)
  | swept => exact .same
  | inserted => exact .same
  | recorded => exact .same

theorem HostMove.slot_change (move : HostMove leased actor before after) (key : String) :
    (before.slots.cell key).Change (ownTx actor)
      (Cell.putsLasting SlotRow.bookingDate Tx.isRequest) (after.slots.cell key) := by
  cases move with
  | sweep step => exact step.slot_change key
  | send worker is step =>
      cases step with
      | dispatched channel ids held =>
          exact .of_commit (show ownTx actor (.work (.worker worker)) from is.symm)
      | _ => exact .same
  | crash => exact .of_rollbackAll own_of_mem_connections

theorem RowsKept.move (kept : RowsKept before) (move : HostMove leased actor before after) :
    RowsKept after where
  ascending channel id :=
    (kept.ascending channel id).change (move.row_change kept channel id)
      fun _ _ _ puts => follows_of_putsRow puts
  sound channel id := by
    apply (kept.sound channel id).change (move.row_change kept channel id)
    rintro tx old row _ before ⟨put, ⟨⟩, change⟩
    cases old with
    | none => exact FreshRow.sound change
    | some previous => exact change.sound
  slots key := (kept.slots key).change (move.slot_change key)

/-- A committed row stays and follows its life. -/
theorem HostMove.follows (move : HostMove leased actor before after) (kept : RowsKept before)
    (channel : Channel) (id : String) :
    Follows (before.row channel id).base (after.row channel id).base :=
  (kept.ascending channel id).base (move.row_change kept channel id)

end

end TennisAlerts.HostCore
