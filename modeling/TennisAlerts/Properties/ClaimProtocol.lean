import TennisAlerts.Concurrent.RelyGuarantee
import TennisAlerts.Database.Reading
import TennisAlerts.HostCore.System

/-!
# The protocol of delivery claims

A claim is reserved by one worker, which makes at most one call under it.  When
a reader sees the claim sent, it sees every row of that call with the message of
the claim.  A row that is once in this state is selected by no later statement
but the provider's reports, which keep it there.
-/

namespace TennisAlerts.HostCore

open TennisAlerts.Concurrent TennisAlerts.Database

/-- Statuses of a row that the provider accepted. -/
def Status.reported : Status → Bool
  | .submitted | .delivered | .failed | .deliveryUnknown => true
  | _ => false

theorem Status.not_reported_of_open {status : Status} (isOpen : status.open = true) :
    status.reported = false := by
  cases status <;> first | rfl | cases isOpen

/-- The call was made under the claim. -/
def Call.Under (call : Call) (claimId : String) : Prop :=
  call.channel = .subscriber ∧ call.claimId = some claimId

/-- The row carries the claim of the call and the message it was accepted with. -/
structure Settled (call : Call) (messageId : String) (row : OutboxRow) : Prop where
  claim : row.deliveryClaimId = call.claimId
  message : row.messageId = some messageId
  submitted : ∃ time, row.submittedAt = some time ∧ call.startedAt ≤ time
  released : row.leaseOwner = none
  reported : row.status.reported = true

/-- The cell of a subscriber row. -/
def Host.notification (host : Host) (id : String) : Cell Tx OutboxRow :=
  (host.outbox .subscriber).cell id

structure ClaimInvariant (host : Host) : Prop where
  rows : ∀ id call messageId, (host.notification id).Firm (Settled call messageId)
  claims : ∀ id tx, (host.claims.cell id).held ≠ some (tx, none)
  stored : ∀ worker id claim, Event.reserved worker id claim ∈ host.log →
    (host.claims.cell id).base.isSome = true
  reserver : ∀ id worker claim other reserved, Event.reserved worker id claim ∈ host.log →
    Event.reserved other id reserved ∈ host.log → other = worker
  calls : ∀ id call, Event.began call ∈ host.log → call.Under id →
    call.rowIds ≠ [] ∧ ∃ claim, Event.reserved call.worker id claim ∈ host.log
  single : ∀ id call other, Event.began call ∈ host.log → call.Under id →
    Event.began other ∈ host.log → other.Under id → other = call
  called : ∀ id claim, (host.claims.cell id).Version claim → claim.status = .sent →
    ∃ call, Event.began call ∈ host.log ∧ call.Under id
  coherent : ∀ reader id claim messageId call, (host.claims.cell id).read reader = some claim →
    claim.status = .sent → claim.messageId = some messageId → Event.began call ∈ host.log →
    call.Under id → ∀ rowId ∈ call.rowIds,
      (host.notification rowId).Reads (Settled call messageId) reader

/-- What the others leave of a worker's leases and calls. -/
structure ClaimFrame (worker : String) (before after : Host) : Prop where
  owners : ∀ id row, (after.notification id).Version row → row.leaseOwner = some worker →
    ∃ old, (before.notification id).Version old ∧ old.leaseOwner = some worker ∧
      old.deliveryClaimId = row.deliveryClaimId
  log : ∀ event ∈ before.log, event ∈ after.log
  began : ∀ call, call.worker = worker → Event.began call ∈ after.log →
    Event.began call ∈ before.log
  clock : before.clock ≤ after.clock

structure ClaimRely (actor : Actor) (before after : Host) : Prop where
  rows : ∀ id row, (before.notification id).held = some (.work actor, row) →
    after.notification id = before.notification id
  claims : ∀ id row, (before.claims.cell id).held = some (.work actor, row) →
    after.claims.cell id = before.claims.cell id
  frame : ∀ worker, actor = .worker worker → ClaimFrame worker before after

def claimProtocol : Protocol Host Actor where
  invariant := ClaimInvariant
  rely := ClaimRely
  resting _ _ := True

/-- A step keeps the invariant and what the other processes rely on. -/
def ClaimKept (actor : Actor) (before after : Host) : Prop :=
  ClaimInvariant after ∧ claimProtocol.Guarantees actor before after

theorem ClaimFrame.trans {worker : String} {before middle after : Host}
    (first : ClaimFrame worker before middle) (second : ClaimFrame worker middle after) :
    ClaimFrame worker before after where
  owners id row version owner := by
    obtain ⟨old, version', owner', same⟩ := second.owners id row version owner
    obtain ⟨oldest, version'', owner'', same'⟩ := first.owners id old version' owner'
    exact ⟨oldest, version'', owner'', same'.trans same⟩
  log event member := second.log event (first.log event member)
  began call mine member := first.began call mine (second.began call mine member)
  clock := first.clock.trans second.clock

theorem ClaimRely.trans {actor : Actor} {before middle after : Host}
    (first : ClaimRely actor before middle) (second : ClaimRely actor middle after) :
    ClaimRely actor before after where
  rows id row held := by
    have same := first.rows id row held
    rw [← same] at held
    exact (second.rows id row held).trans same
  claims id row held := by
    have same := first.claims id row held
    rw [← same] at held
    exact (second.claims id row held).trans same
  frame worker mine := (first.frame worker mine).trans (second.frame worker mine)

theorem ClaimKept.trans {actor : Actor} {before middle after : Host}
    (first : ClaimKept actor before middle) (second : ClaimKept actor middle after) :
    ClaimKept actor before after :=
  ⟨second.1, fun _ different => (first.2 different).trans (second.2 different)⟩

/-! ## Statements -/

/-- A version of a subscriber row that a statement may put: it keeps settled rows
settled, and leases the row only to the workers in `assigns`. -/
structure RowPut (assigns : String → Prop) (old : Option OutboxRow) (new : OutboxRow) : Prop where
  settled : ∀ row call messageId, old = some row → Settled call messageId row →
    Settled call messageId new
  owner : ∀ worker, new.leaseOwner = some worker → assigns worker ∨
    ∃ row, old = some row ∧ row.leaseOwner = some worker ∧
      row.deliveryClaimId = new.deliveryClaimId

/-- A call was made under the claim, and the transaction has settled its rows. -/
def Backed (host : Host) (tx : Tx) (id : String) (new : ClaimRow) : Prop :=
  (∃ call, Event.began call ∈ host.log ∧ call.Under id) ∧
    ∀ messageId call, new.messageId = some messageId → Event.began call ∈ host.log →
      call.Under id → ∀ rowId ∈ call.rowIds,
        (host.notification rowId).Reads (Settled call messageId) (some tx)

/-- A version of a claim that a statement may put: it is sent only if it was, or
if its rows are settled. -/
def ClaimPut (host : Host) (tx : Tx) (id : String) (old : Option ClaimRow) (new : ClaimRow) :
    Prop :=
  new.status = .sent → (∃ claim, old = some claim ∧ claim.status = .sent ∧
    claim.messageId = new.messageId) ∨ Backed host tx id new

/-- One statement of a process. -/
structure ClaimStatement (actor : Actor) (assigns : String → Prop) (before after : Host) :
    Prop where
  rows : ∀ id, (before.notification id).Put (.work actor) (RowPut assigns) (after.notification id)
  claims : ∀ id, (before.claims.cell id).Put (.work actor) (ClaimPut before (.work actor) id)
    (after.claims.cell id)
  log : after.log = before.log
  clock : after.clock = before.clock

section

variable {actor : Actor} {assigns : String → Prop} {before after : Host}

theorem ClaimStatement.frame (statement : ClaimStatement actor assigns before after)
    {worker : String} (foreign : ¬assigns worker) : ClaimFrame worker before after where
  owners id row version owner := by
    rcases (statement.rows id).version version with old | permitted
    · exact ⟨row, old, owner, rfl⟩
    · rcases permitted.owner worker owner with assigned | ⟨old, seen, owner', same⟩
      · exact absurd assigned foreign
      · exact ⟨old, Cell.version_of_view seen, owner', same⟩
  log event member := by
    rw [statement.log]
    exact member
  began call _ member := by
    rw [statement.log] at member
    exact member
  clock := statement.clock.ge

theorem ClaimStatement.guarantees (statement : ClaimStatement actor assigns before after)
    (own : ∀ worker, assigns worker → actor = .worker worker) :
    claimProtocol.Guarantees actor before after := by
  intro other different
  have foreign : ∀ tx, tx = Tx.work other → tx ≠ Tx.work actor := by
    rintro _ rfl ⟨⟩
    exact different rfl
  constructor
  · intro id row held
    exact (statement.rows id).foreign held (foreign _ rfl)
  · intro id row held
    exact (statement.claims id).foreign held (foreign _ rfl)
  · rintro worker rfl
    apply statement.frame
    intro assigned
    exact different (own worker assigned).symm

theorem ClaimStatement.invariant (statement : ClaimStatement actor assigns before after)
    (invariant : ClaimInvariant before) : ClaimInvariant after := by
  have keeps : ∀ call messageId previous row, Settled call messageId previous →
      RowPut assigns (some previous) row → Settled call messageId row :=
    fun call messageId previous row settled permitted =>
      permitted.settled previous call messageId rfl settled
  constructor
  · intro id call messageId
    exact (invariant.rows id call messageId).put (statement.rows id)
      fun previous row _ => keeps call messageId previous row
  · intro id tx held
    generalize cell : after.claims.cell id = later at held
    have put := statement.claims id
    rw [cell] at put
    cases put with
    | same => exact invariant.claims id tx held
    | hold row free permitted => cases held
  · intro worker id claim member
    rw [statement.log] at member
    rw [(statement.claims id).base_eq]
    exact invariant.stored worker id claim member
  · rw [statement.log]
    exact invariant.reserver
  · rw [statement.log]
    exact invariant.calls
  · rw [statement.log]
    exact invariant.single
  · intro id claim version sent
    rw [statement.log]
    rcases (statement.claims id).version version with old | permitted
    · exact invariant.called id claim old sent
    · rcases permitted sent with ⟨old, seen, wasSent, _⟩ | backed
      · exact invariant.called id old (Cell.version_of_view seen) wasSent
      · exact backed.1
  · intro reader id claim messageId call seen sent message member under rowId included
    rw [statement.log] at member
    apply Cell.reads_put (statement.rows rowId) _ (keeps call messageId)
    rcases (statement.claims id).read reader with same | ⟨new, rfl, put, permitted⟩
    · rw [same] at seen
      exact invariant.coherent reader id claim messageId call seen sent message member under
        rowId included
    · rw [seen] at put
      cases put
      rcases permitted sent with ⟨old, wasSeen, wasSent, sameMessage⟩ | backed
      · exact invariant.coherent _ id old messageId call wasSeen wasSent
          (sameMessage.trans message) member under rowId included
      · exact backed.2 messageId call message member under rowId included

theorem ClaimStatement.kept (statement : ClaimStatement actor assigns before after)
    (own : ∀ worker, assigns worker → actor = .worker worker)
    (invariant : ClaimInvariant before) : ClaimKept actor before after :=
  ⟨statement.invariant invariant, statement.guarantees own⟩

end

/-! ## Commits, rollbacks and entries -/

section

variable {tx : Tx} {host : Host}

theorem claimFrame_commit {worker : String} : ClaimFrame worker host (host.commit tx) where
  owners _ row version owner := ⟨row, Cell.version_of_commit version, owner, rfl⟩
  log _ member := member
  began _ _ member := member
  clock := le_rfl

theorem claimKept_commit (invariant : ClaimInvariant host) :
    ClaimKept tx.actor host (host.commit tx) := by
  constructor
  · constructor
    · exact fun id call messageId => (invariant.rows id call messageId).commit
    · exact fun id other held => invariant.claims id other (Cell.held_commit held)
    · intro worker id claim member
      have stored := invariant.stored worker id claim member
      have published : ((host.claims.cell id).commit tx).base = (host.claims.cell id).base ∨
          (host.claims.cell id).held = some (tx, ((host.claims.cell id).commit tx).base) :=
        Cell.base_commit
      rcases published with same | held
      · change ((host.claims.cell id).commit tx).base.isSome = true
        rw [same]
        exact stored
      · change ((host.claims.cell id).commit tx).base.isSome = true
        rw [Option.isSome_iff_ne_none]
        intro missing
        rw [missing] at held
        exact invariant.claims id tx held
    · exact invariant.reserver
    · exact invariant.calls
    · exact invariant.single
    · exact fun id claim version => invariant.called id claim (Cell.version_of_commit version)
    · intro reader id claim messageId call seen sent message member under rowId included
      have firm := invariant.rows rowId call messageId
      -- the claim is read as before, or as the committing transaction read it
      rcases Cell.read_commit_cases tx reader (host.claims.cell id) with same | published
      · exact firm.reads_commit (invariant.coherent reader id claim messageId call
          (same.symm.trans seen) sent message member under rowId included)
      · exact firm.reads_commit_of_writer (invariant.coherent (some tx) id claim messageId call
          (published.symm.trans seen) sent message member under rowId included) reader
  · intro other different
    have foreign : Tx.work other ≠ tx := by
      rintro rfl
      exact different rfl
    constructor
    · exact fun id row held => Cell.commit_of_held_ne held foreign
    · exact fun id row held => Cell.commit_of_held_ne held foreign
    · exact fun worker _ => claimFrame_commit

theorem claimKept_rollback (invariant : ClaimInvariant host) :
    ClaimKept tx.actor host (host.rollback tx) := by
  constructor
  · constructor
    · exact fun id call messageId => (invariant.rows id call messageId).rollback
    · exact fun id other held => invariant.claims id other (Cell.held_rollback held)
    · intro worker id claim member
      change ((host.claims.cell id).rollback tx).base.isSome = true
      rw [Cell.base_rollback]
      exact invariant.stored worker id claim member
    · exact invariant.reserver
    · exact invariant.calls
    · exact invariant.single
    · exact fun id claim version => invariant.called id claim (Cell.version_of_rollback version)
    · intro reader id claim messageId call seen sent message member under rowId included
      change ((host.claims.cell id).rollback tx).read reader = some claim at seen
      rw [Cell.read_rollback] at seen
      obtain ⟨row, view, settled⟩ := invariant.coherent _ id claim messageId call seen sent
        message member under rowId included
      exact ⟨row, Cell.read_rollback.trans view, settled⟩
  · intro other different
    have foreign : Tx.work other ≠ tx := by
      rintro rfl
      exact different rfl
    constructor
    · exact fun id row held => Cell.rollback_of_held_ne held foreign
    · exact fun id row held => Cell.rollback_of_held_ne held foreign
    · intro worker _
      constructor
      · exact fun id row version owner => ⟨row, Cell.version_of_rollback version, owner, rfl⟩
      · exact fun _ member => member
      · exact fun _ _ member => member
      · exact le_rfl

/-- What entitles a process to an entry about claims. -/
def ClaimEntry (actor : Actor) (host : Host) : Event → Prop
  | .reserved worker id _ => actor = .worker worker ∧
      (host.claims.cell id).base.isSome = true ∧
      ∀ other claim, Event.reserved other id claim ∉ host.log
  | .began call => actor = .worker call.worker ∧ ∀ id, call.Under id → call.rowIds ≠ [] ∧
      (∃ claim, Event.reserved call.worker id claim ∈ host.log) ∧
      ∀ other, Event.began other ∈ host.log → ¬other.Under id
  | _ => True

theorem claimFrame_record {worker : String} {event : Event}
    (foreign : ∀ call, call.worker = worker → event ≠ .began call) :
    ClaimFrame worker host (host.record event) where
  owners _ row version owner := ⟨row, version, owner, rfl⟩
  log _ member := List.mem_cons_of_mem _ member
  began call mine member := by
    rcases List.mem_cons.mp member with rfl | older
    · exact absurd rfl (foreign call mine)
    · exact older
  clock := le_rfl

theorem claimKept_record {actor : Actor} {event : Event} (invariant : ClaimInvariant host)
    (entry : ClaimEntry actor host event) : ClaimKept actor host (host.record event) := by
  constructor
  · constructor
    · exact invariant.rows
    · exact invariant.claims
    · intro worker id claim member
      rcases List.mem_cons.mp member with rfl | older
      · exact entry.2.1
      · exact invariant.stored worker id claim older
    · intro id worker claim other reserved first second
      rcases List.mem_cons.mp first with rfl | older
      · rcases List.mem_cons.mp second with same | older
        · cases same
          rfl
        · exact absurd older (entry.2.2 other reserved)
      · rcases List.mem_cons.mp second with rfl | older'
        · exact absurd older (entry.2.2 worker claim)
        · exact invariant.reserver id worker claim other reserved older older'
    · intro id call member under
      rcases List.mem_cons.mp member with rfl | older
      · obtain ⟨nonempty, ⟨claim, reserved⟩, _⟩ := entry.2 id under
        exact ⟨nonempty, claim, List.mem_cons_of_mem _ reserved⟩
      · obtain ⟨nonempty, claim, reserved⟩ := invariant.calls id call older under
        exact ⟨nonempty, claim, List.mem_cons_of_mem _ reserved⟩
    · intro id call other first under second under'
      rcases List.mem_cons.mp first with rfl | older
      · rcases List.mem_cons.mp second with same | older
        · cases same
          rfl
        · exact absurd under' ((entry.2 id under).2.2 other older)
      · rcases List.mem_cons.mp second with rfl | older'
        · exact absurd under ((entry.2 id under').2.2 call older)
        · exact invariant.single id call other older under older' under'
    · intro id claim version sent
      obtain ⟨call, member, under⟩ := invariant.called id claim version sent
      exact ⟨call, List.mem_cons_of_mem _ member, under⟩
    · intro reader id claim messageId call seen sent message member under rowId included
      rcases List.mem_cons.mp member with rfl | older
      · -- a sent claim has been called already
        obtain ⟨earlier, called, under'⟩ := invariant.called id claim
          (Cell.version_of_read seen) sent
        exact absurd under' ((entry.2 id under).2.2 earlier called)
      · exact invariant.coherent reader id claim messageId call seen sent message older under
          rowId included
  · intro other different
    constructor
    · exact fun _ _ _ => rfl
    · exact fun _ _ _ => rfl
    · rintro worker rfl
      apply claimFrame_record
      rintro call rfl rfl
      exact different entry.1.symm

theorem claimKept_crash {actor : Actor} (invariant : ClaimInvariant host) :
    ClaimKept actor host (host.crash actor) := by
  have work : ClaimKept actor host (host.rollback (.work actor)) := claimKept_rollback invariant
  have guard : ClaimKept actor _ ((host.rollback (.work actor)).rollback (.guard actor)) :=
    claimKept_rollback work.1
  have session : ClaimKept actor _
      (((host.rollback (.work actor)).rollback (.guard actor)).rollback (.session actor)) :=
    claimKept_rollback guard.1
  exact ((work.trans guard).trans session).trans (claimKept_record session.1 trivial)

end

end TennisAlerts.HostCore
