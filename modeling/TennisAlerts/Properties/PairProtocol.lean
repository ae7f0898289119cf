import TennisAlerts.Properties.Bystanders
import TennisAlerts.Properties.ClaimProtocol

/-!
# The protocol of events and notification rows

A subscription event and the notification row of the same subscription and event key
become visible with one commit.  A process that has put an event holds it until its row
is there, so nobody else can put a row of that pair meanwhile.
-/

namespace TennisAlerts.HostCore

open TennisAlerts.Concurrent TennisAlerts.Database

/-- The subscription and the event key that a notification row is about. -/
def OutboxRow.pair (row : OutboxRow) : String × String :=
  (row.subscriptionId, row.eventKey)

theorem SameSubject.pair_eq {row new : OutboxRow} (same : SameSubject row new) :
    new.pair = row.pair := by
  rw [OutboxRow.pair, same.subscriptionId, same.eventKey, OutboxRow.pair]

/-- A row of the pair that the transaction has put and not committed. -/
def Notified (tx : Tx) (pair : String × String) (host : Host) : Prop :=
  ∃ id row, (host.notification id).held = some (tx, some row) ∧ row.pair = pair

/-- Events and notification rows come in pairs: what is committed is paired, a row that
is still to be committed has its event in the same transaction, and no two rows are
about the same pair. -/
structure PairInvariant (host : Host) : Prop where
  rows : ∀ id, (host.notification id).Lasting OutboxRow.pair Tx.isRequest
  events : ∀ pair tx time, (host.events.cell pair).held = some (tx, time) →
    (host.events.cell pair).base = none ∧ time.isSome = true
  unique : ∀ id id' row row', (host.notification id).Version row →
    (host.notification id').Version row' → row'.pair = row.pair → id' = id
  created : ∀ id tx row, (host.notification id).base = none →
    (host.notification id).held = some (tx, some row) →
    ∃ time, (host.events.cell row.pair).held = some (tx, time)
  stored : ∀ pair, (host.events.cell pair).base.isSome = true ↔
    ∃ id row, (host.notification id).base = some row ∧ row.pair = pair

/-- What a process relies on: nobody else changes what it holds. -/
structure PairRely (actor : Actor) (before after : Host) : Prop where
  events : ∀ pair tx time, tx.actor = actor → ((after.events.cell pair).held = some (tx, time) ↔
    (before.events.cell pair).held = some (tx, time))
  rows : ∀ id tx row, tx.actor = actor → ((after.notification id).held = some (tx, row) ↔
    (before.notification id).held = some (tx, row))

/-- Every event that the process has put has its row. -/
def Complete (actor : Actor) (host : Host) : Prop :=
  ∀ pair tx time, tx.actor = actor → (host.events.cell pair).held = some (tx, time) →
    Notified tx pair host

/-- The process has put the event of one pair, and its row is missing. -/
structure Owing (actor : Actor) (pair : String × String) (host : Host) : Prop where
  held : ∃ time, (host.events.cell pair).held = some (.work actor, time)
  others : ∀ other tx time, tx.actor = actor → other ≠ pair →
    (host.events.cell other).held = some (tx, time) → Notified tx other host
  unwritten : ¬Notified (.work actor) pair host

def pairProtocol : Protocol Host Actor where
  invariant := PairInvariant
  rely := PairRely
  resting := Complete

section

variable {actor : Actor} {before after : Host} {pair : String × String}

theorem PairRely.notified_iff (relied : PairRely actor before after) {tx : Tx}
    (own : tx.actor = actor) : Notified tx pair after ↔ Notified tx pair before := by
  constructor
  · rintro ⟨id, row, held, same⟩
    exact ⟨id, row, (relied.rows id tx _ own).mp held, same⟩
  · rintro ⟨id, row, held, same⟩
    exact ⟨id, row, (relied.rows id tx _ own).mpr held, same⟩

theorem stable_complete : pairProtocol.Stable actor (Complete actor) := by
  intro before after _ _ relied complete pair tx time own held
  apply (PairRely.notified_iff relied own).mpr
  exact complete pair tx time own ((relied.events pair tx time own).mp held)

theorem stable_owing : pairProtocol.Stable actor (Owing actor pair) := by
  intro before after _ _ relied owing
  constructor
  · rcases owing.held with ⟨time, held⟩
    exact ⟨time, (relied.events pair _ _ rfl).mpr held⟩
  · intro other tx time own different held
    apply (PairRely.notified_iff relied own).mpr
    exact owing.others other tx time own different ((relied.events other tx time own).mp held)
  · intro notified
    exact owing.unwritten ((PairRely.notified_iff relied rfl).mp notified)

/-! ## Moves -/

/-- A change of one process: events appear, rows appear or keep their pair. -/
structure PairMove (actor : Actor) (before after : Host) : Prop where
  events : ∀ pair, (before.events.cell pair).Change (ownTx actor)
    (fun _ old new => old = none ∧ new.isSome = true) (after.events.cell pair)
  rows : ∀ id, (before.notification id).Change (ownTx actor)
    (Cell.putsLasting OutboxRow.pair Tx.isRequest) (after.notification id)

theorem held_iff_of_foreign {ρ : Type} {puts : Tx → Option ρ → Option ρ → Prop}
    {cell later : Cell Tx ρ} (change : cell.Change (ownTx actor) puts later) {tx : Tx}
    {row : Option ρ} (foreign : tx.actor ≠ actor) :
    later.held = some (tx, row) ↔ cell.held = some (tx, row) := by
  constructor
  · exact fun held => change.held_of_foreign held foreign
  · intro held
    rw [change.foreign held foreign]
    exact held

theorem PairMove.guarantees (move : PairMove actor before after) :
    pairProtocol.Guarantees actor before after := by
  intro other different
  constructor
  · rintro pair tx time rfl
    exact held_iff_of_foreign (move.events pair) different
  · rintro id tx row rfl
    exact held_iff_of_foreign (move.rows id) different

/-- An event that is not there yet is written by nobody. -/
theorem PairInvariant.unheld (invariant : PairInvariant before) {tx : Tx}
    (free : (before.events.cell pair).free tx = true)
    (absent : (before.events.cell pair).view tx = none) :
    before.events.cell pair = Cell.empty := by
  cases held : (before.events.cell pair).held with
  | some version =>
      rcases version with ⟨holder, time⟩
      rw [Cell.view_of_free_of_held free held] at absent
      rcases invariant.events pair holder time held with ⟨_, present⟩
      rw [absent] at present
      cases present
  | none => exact eq_empty held absent

theorem PairMove.kept (move : PairMove actor before after) (invariant : PairInvariant before)
    (unique : ∀ id id' row row', (after.notification id).Version row →
      (after.notification id').Version row' → row'.pair = row.pair → id' = id)
    (created : ∀ id tx row, (after.notification id).base = none →
      (after.notification id).held = some (tx, some row) →
      ∃ time, (after.events.cell row.pair).held = some (tx, time))
    (stored : ∀ pair, (after.events.cell pair).base.isSome = true ↔
      ∃ id row, (after.notification id).base = some row ∧ row.pair = pair) :
    PairInvariant after ∧ pairProtocol.Guarantees actor before after := by
  have rows : ∀ id, (after.notification id).Lasting OutboxRow.pair Tx.isRequest :=
    fun id => (invariant.rows id).change (move.rows id)
  have events : ∀ pair tx time, (after.events.cell pair).held = some (tx, time) →
      (after.events.cell pair).base = none ∧ time.isSome = true := by
    intro pair tx time held
    have change := move.events pair
    generalize after.events.cell pair = later at change held
    cases change with
    | same => exact invariant.events pair tx time held
    | publish => cases held
    | drop => cases held
    | hold writer new mine free permitted =>
        cases held
        rw [Cell.base_hold, invariant.unheld free permitted.1]
        exact ⟨rfl, permitted.2⟩
  exact ⟨⟨rows, events, unique, created, stored⟩, move.guarantees⟩

/-! ### Statements on other tables -/

/-- The events and the notification rows are the same. -/
structure SamePairs (before after : Host) : Prop where
  events : ∀ pair, after.events.cell pair = before.events.cell pair
  rows : ∀ id, after.notification id = before.notification id

theorem SamePairs.move (same : SamePairs before after) : PairMove actor before after := by
  constructor
  · intro pair
    rw [same.events pair]
    exact .same
  · intro id
    rw [same.rows id]
    exact .same

theorem SamePairs.invariant (same : SamePairs before after) (invariant : PairInvariant before) :
    PairInvariant after := by
  constructor
  · intro id
    rw [same.rows id]
    exact invariant.rows id
  · intro pair
    rw [same.events pair]
    exact invariant.events pair
  · intro id id'
    rw [same.rows id, same.rows id']
    exact invariant.unique id id'
  · intro id tx row
    rw [same.rows id, same.events row.pair]
    exact invariant.created id tx row
  · intro pair
    simp only [same.events pair, same.rows]
    exact invariant.stored pair

theorem SamePairs.notified_iff (same : SamePairs before after) {tx : Tx} :
    Notified tx pair after ↔ Notified tx pair before := by
  simp only [Notified, same.rows]

theorem SamePairs.complete (same : SamePairs before after) (complete : Complete actor before) :
    Complete actor after := by
  intro pair tx time own held
  rw [same.events pair] at held
  exact same.notified_iff.mpr (complete pair tx time own held)

theorem SamePairs.owing (same : SamePairs before after) (owing : Owing actor pair before) :
    Owing actor pair after := by
  constructor
  · rw [same.events pair]
    exact owing.held
  · intro other tx time own different held
    rw [same.events other] at held
    exact same.notified_iff.mpr (owing.others other tx time own different held)
  · rw [same.notified_iff]
    exact owing.unwritten

theorem SamePairs.kept (same : SamePairs before after) (invariant : PairInvariant before) :
    PairInvariant after ∧ pairProtocol.Guarantees actor before after :=
  ⟨same.invariant invariant, same.move.guarantees⟩

/-! ### Updates of notification rows -/

/-- The rows after a statement that changes no pair. -/
structure Rewritten (actor : Actor) (cell later : Cell Tx OutboxRow) : Prop where
  change : later = cell ∨ ∃ row new, cell.view (.work actor) = some row ∧
    cell.free (.work actor) = true ∧ new.pair = row.pair ∧
    later = cell.hold (.work actor) (some new)

theorem Rewritten.base {cell later : Cell Tx OutboxRow} (rewritten : Rewritten actor cell later) :
    later.base = cell.base := by
  rcases rewritten.change with rfl | ⟨_, _, _, _, _, rfl⟩ <;> rfl

theorem Rewritten.version {cell later : Cell Tx OutboxRow} (rewritten : Rewritten actor cell later)
    {row : OutboxRow} (version : later.Version row) :
    ∃ old, cell.Version old ∧ old.pair = row.pair := by
  rcases rewritten.change with rfl | ⟨old, new, seen, _, same, rfl⟩
  · exact ⟨row, version, rfl⟩
  · rw [Cell.version_hold_iff] at version
    rcases version with stored | put
    · exact ⟨row, .inl stored, rfl⟩
    · cases put
      exact ⟨old, Cell.version_of_view seen, same.symm⟩

/-- Who holds a row holds a row of the same pair afterwards. -/
theorem Rewritten.held {cell later : Cell Tx OutboxRow} (rewritten : Rewritten actor cell later)
    {tx : Tx} {row : OutboxRow} (held : cell.held = some (tx, some row)) :
    ∃ new, later.held = some (tx, some new) ∧ new.pair = row.pair := by
  rcases rewritten.change with rfl | ⟨old, new, seen, free, same, rfl⟩
  · exact ⟨row, held, rfl⟩
  · have mine : tx = .work actor := by simpa [Cell.free, held] using free
    subst mine
    rw [Cell.view_of_free_of_held free held] at seen
    cases seen
    exact ⟨new, rfl, same⟩

/-- Who holds a row that is not committed has put a row of the same pair before. -/
theorem Rewritten.wasHeld {cell later : Cell Tx OutboxRow} (rewritten : Rewritten actor cell later)
    (missing : cell.base = none) {tx : Tx} {row : OutboxRow}
    (held : later.held = some (tx, some row)) :
    ∃ old, cell.held = some (tx, some old) ∧ old.pair = row.pair := by
  rcases rewritten.change with rfl | ⟨old, new, seen, _, same, rfl⟩
  · exact ⟨row, held, rfl⟩
  · cases held
    exact ⟨old, held_of_view missing seen, same.symm⟩

theorem rewritten_write {statement : String → OutboxRow → Option OutboxRow}
    {table : VersionedTable Tx String OutboxRow}
    (writable : table.writable (.work actor) (fun id row => (statement id row).map some) = true)
    (same : ∀ id row new, statement id row = some new → SameSubject row new) (id : String) :
    Rewritten actor (table.cell id)
      ((table.write (.work actor) fun id row => (statement id row).map some).cell id) := by
  constructor
  rcases VersionedTable.cell_write_cases writable id with
    ⟨unchanged, _⟩ | ⟨row, put, seen, chosen, free, changed⟩
  · exact .inl unchanged
  · rcases Option.map_eq_some_iff.mp chosen with ⟨new, written, rfl⟩
    exact .inr ⟨row, new, seen, free, (same id row new written).pair_eq, changed⟩

theorem Rewritten.cellChange {cell later : Cell Tx OutboxRow}
    (rewritten : Rewritten actor cell later) :
    cell.Change (ownTx actor) (Cell.putsLasting OutboxRow.pair Tx.isRequest) later := by
  rcases rewritten.change with rfl | ⟨old, new, seen, free, same, rfl⟩
  · exact .same
  · have own : ownTx actor (Tx.work actor) := rfl
    apply Cell.Change.hold (Tx.work actor) (some new) own free
    rw [seen]
    exact ⟨new, rfl, same⟩

/-- An update of notification rows that changes no pair. -/
structure RowsRewritten (actor : Actor) (before after : Host) : Prop where
  events : ∀ pair, after.events.cell pair = before.events.cell pair
  rows : ∀ id, Rewritten actor (before.notification id) (after.notification id)

theorem RowsRewritten.kept (step : RowsRewritten actor before after)
    (invariant : PairInvariant before) :
    PairInvariant after ∧ pairProtocol.Guarantees actor before after := by
  have move : PairMove actor before after := by
    constructor
    · intro pair
      rw [step.events pair]
      exact .same
    · exact fun id => (step.rows id).cellChange
  apply move.kept invariant
  · intro id id' row row' version version' same
    rcases (step.rows id).version version with ⟨old, oldVersion, oldPair⟩
    rcases (step.rows id').version version' with ⟨old', oldVersion', oldPair'⟩
    apply invariant.unique id id' old old' oldVersion oldVersion'
    rw [oldPair, oldPair', same]
  · intro id tx row missing held
    rw [(step.rows id).base] at missing
    rcases (step.rows id).wasHeld missing held with ⟨old, wasHeld, same⟩
    rw [step.events row.pair, ← same]
    exact invariant.created id tx old missing wasHeld
  · intro pair
    simp only [step.events pair, (step.rows _).base]
    exact invariant.stored pair

theorem RowsRewritten.complete (step : RowsRewritten actor before after)
    (complete : Complete actor before) : Complete actor after := by
  intro pair tx time own held
  rw [step.events pair] at held
  rcases complete pair tx time own held with ⟨id, row, heldRow, same⟩
  rcases (step.rows id).held heldRow with ⟨new, heldNew, sameNew⟩
  exact ⟨id, new, heldNew, sameNew.trans same⟩

/-! ### Commits and crashes -/

/-- What is committed stays committed. -/
theorem PairInvariant.event_commit (invariant : PairInvariant before) (tx : Tx)
    (stored : (before.events.cell pair).base.isSome = true) :
    ((before.events.cell pair).commit tx).base.isSome = true := by
  rcases base_commit_cases (before.events.cell pair) tx with same | held
  · rw [same]
    exact stored
  · exact (invariant.events pair tx _ held).2

/-- The transaction ended and published what it held. -/
structure PairsCommitted (tx : Tx) (before after : Host) : Prop where
  events : ∀ pair, after.events.cell pair = (before.events.cell pair).commit tx
  rows : ∀ id, after.notification id = (before.notification id).commit tx

theorem PairsCommitted.move {tx : Tx} (step : PairsCommitted tx before after)
    (own : tx.actor = actor) : PairMove actor before after := by
  constructor
  · intro pair
    rw [step.events pair]
    exact .of_commit own
  · intro id
    rw [step.rows id]
    exact .of_commit own

/-- A published row has its event. -/
theorem PairsCommitted.event_of_row {tx : Tx} (step : PairsCommitted tx before after)
    (invariant : PairInvariant before) {id : String} {row : OutboxRow}
    (published : (after.notification id).base = some row) :
    (after.events.cell row.pair).base.isSome = true := by
  have stays : ∀ {pair}, (before.events.cell pair).base.isSome = true →
      (after.events.cell pair).base.isSome = true := by
    intro pair stored
    rw [step.events pair]
    exact invariant.event_commit tx stored
  rw [step.rows id] at published
  rcases base_commit_cases (before.notification id) tx with same | held
  · rw [same] at published
    exact stays ((invariant.stored row.pair).mpr ⟨id, row, published, rfl⟩)
  · rw [published] at held
    cases missing : (before.notification id).base with
    | none =>
        rcases invariant.created id tx row missing held with ⟨time, heldEvent⟩
        rw [step.events row.pair, Cell.commit_of_held heldEvent]
        exact (invariant.events row.pair tx time heldEvent).2
    | some old =>
        have samePair := (invariant.rows id).same row old (.inr ⟨tx, held⟩) (.inl missing)
        exact stays ((invariant.stored row.pair).mpr ⟨id, old, missing, samePair⟩)

/-- A published event has its row. -/
theorem PairsCommitted.row_of_event {tx : Tx} (step : PairsCommitted tx before after)
    (own : tx.actor = actor) (invariant : PairInvariant before) (complete : Complete actor before)
    (published : (after.events.cell pair).base.isSome = true) :
    ∃ id row, (after.notification id).base = some row ∧ row.pair = pair := by
  rw [step.events pair] at published
  rcases base_commit_cases (before.events.cell pair) tx with same | held
  · rw [same] at published
    rcases (invariant.stored pair).mp published with ⟨id, row, stored, isPair⟩
    rcases (invariant.rows id).base_change ((step.move own).rows id) stored with
      ⟨new, kept, samePair⟩
    exact ⟨id, new, kept, samePair.trans isPair⟩
  · rcases complete pair tx _ own held with ⟨id, row, heldRow, isPair⟩
    refine ⟨id, row, ?_, isPair⟩
    rw [step.rows id, Cell.commit_of_held heldRow]

/-- A commit publishes events together with their rows. -/
theorem PairsCommitted.kept {tx : Tx} (step : PairsCommitted tx before after)
    (own : tx.actor = actor) (invariant : PairInvariant before) (complete : Complete actor before) :
    PairInvariant after ∧ pairProtocol.Guarantees actor before after := by
  apply (step.move own).kept invariant
  · intro id id' row row' version version' same
    rw [step.rows id] at version
    rw [step.rows id'] at version'
    exact invariant.unique id id' row row' (Cell.version_of_commit version)
      (Cell.version_of_commit version') same
  · intro id other row missing held
    rw [step.rows id] at missing held
    rcases commit_of_held_foreign held with ⟨unchanged, different⟩
    rw [unchanged] at missing held
    rcases invariant.created id other row missing held with ⟨time, heldEvent⟩
    refine ⟨time, ?_⟩
    rw [step.events row.pair, Cell.commit_of_held_ne heldEvent different]
    exact heldEvent
  · intro pair
    constructor
    · exact step.row_of_event own invariant complete
    · rintro ⟨id, row, published, rfl⟩
      exact step.event_of_row invariant published

theorem PairsCommitted.complete {tx : Tx} (step : PairsCommitted tx before after)
    (complete : Complete actor before) : Complete actor after := by
  intro pair other time own held
  rw [step.events pair] at held
  rcases commit_of_held_foreign held with ⟨unchanged, different⟩
  rw [unchanged] at held
  rcases complete pair other time own held with ⟨id, row, heldRow, isPair⟩
  refine ⟨id, row, ?_, isPair⟩
  rw [step.rows id, Cell.commit_of_held_ne heldRow different]
  exact heldRow

/-- The process was rolled back. -/
structure PairsDropped (actor : Actor) (before after : Host) : Prop where
  events : ∀ pair, after.events.cell pair =
    (before.events.cell pair).rollbackAll (connections actor)
  rows : ∀ id, after.notification id = (before.notification id).rollbackAll (connections actor)

theorem PairsDropped.kept (step : PairsDropped actor before after)
    (invariant : PairInvariant before) :
    PairInvariant after ∧ pairProtocol.Guarantees actor before after := by
  have move : PairMove actor before after := by
    constructor
    · intro pair
      rw [step.events pair]
      exact .of_rollbackAll own_of_mem_connections
    · intro id
      rw [step.rows id]
      exact .of_rollbackAll own_of_mem_connections
  have version : ∀ {id row}, (after.notification id).Version row →
      (before.notification id).Version row := by
    intro id row version
    rw [step.rows id] at version
    rcases rollback_process_cases (before.notification id) actor with dropped | ⟨same, _⟩
    · rw [dropped] at version
      rcases version with stored | ⟨_, impossible⟩
      · exact .inl stored
      · cases impossible
    · rw [same] at version
      exact version
  apply move.kept invariant
  · intro id id' row row' first second same
    exact invariant.unique id id' row row' (version first) (version second) same
  · intro id tx row missing held
    rw [step.rows id] at missing held
    rcases rollback_process_cases (before.notification id) actor with dropped | ⟨same, unheld⟩
    · rw [dropped] at held
      cases held
    · rw [same] at missing held
      rcases invariant.created id tx row missing held with ⟨time, heldEvent⟩
      refine ⟨time, ?_⟩
      rw [step.events row.pair, rollback_foreign heldEvent (unheld tx _ held)]
      exact heldEvent
  · intro pair
    simp only [step.events pair, step.rows, base_rollback_process]
    exact invariant.stored pair

theorem PairsDropped.complete (step : PairsDropped actor before after) : Complete actor after := by
  intro pair tx time own held
  rw [step.events pair] at held
  rcases rollback_process_cases (before.events.cell pair) actor with dropped | ⟨same, unheld⟩
  · rw [dropped] at held
    cases held
  · rw [same] at held
    exact absurd own (unheld tx _ held)

/-! ### New events and new rows -/

/-- Nobody has a row of a pair whose event is missing. -/
theorem PairInvariant.no_version (invariant : PairInvariant before)
    (missing : (before.events.cell pair).base = none)
    (unnotified : ∀ tx time, (before.events.cell pair).held = some (tx, time) →
      ¬Notified tx pair before) {id : String} {row : OutboxRow}
    (version : (before.notification id).Version row) : row.pair ≠ pair := by
  rintro rfl
  have absent : ∀ stored, (before.notification id).base = some stored →
      stored.pair ≠ row.pair := by
    intro stored base same
    have present := (invariant.stored row.pair).mpr ⟨id, stored, base, same⟩
    rw [missing] at present
    cases present
  rcases version with stored | ⟨tx, held⟩
  · exact absent row stored rfl
  · cases base : (before.notification id).base with
    | some stored =>
        exact absent stored base ((invariant.rows id).same row stored (.inr ⟨tx, held⟩) (.inl base))
    | none =>
        rcases invariant.created id tx row base held with ⟨time, heldEvent⟩
        exact unnotified tx time heldEvent ⟨id, row, held, rfl⟩

/-- A new event. -/
structure EventPut (actor : Actor) (pair : String × String) (before after : Host) : Prop where
  absent : before.events.cell pair = Cell.empty
  put : ∃ time, after.events.cell pair = (before.events.cell pair).hold (.work actor) (some time)
  events : ∀ other, other ≠ pair → after.events.cell other = before.events.cell other
  rows : ∀ id, after.notification id = before.notification id

theorem EventPut.kept (step : EventPut actor pair before after) (invariant : PairInvariant before) :
    PairInvariant after ∧ pairProtocol.Guarantees actor before after := by
  rcases step.put with ⟨time, put⟩
  have move : PairMove actor before after := by
    constructor
    · intro other
      by_cases same : other = pair
      · subst same
        rw [put, step.absent]
        have own : ownTx actor (Tx.work actor) := rfl
        exact .hold (Tx.work actor) (some time) own rfl ⟨rfl, rfl⟩
      · rw [step.events other same]
        exact .same
    · intro id
      rw [step.rows id]
      exact .same
  apply move.kept invariant
  · intro id id'
    rw [step.rows id, step.rows id']
    exact invariant.unique id id'
  · intro id tx row missing held
    rw [step.rows id] at missing held
    rcases invariant.created id tx row missing held with ⟨time, heldEvent⟩
    by_cases same : row.pair = pair
    · rw [same, step.absent] at heldEvent
      cases heldEvent
    · rw [step.events row.pair same]
      exact ⟨time, heldEvent⟩
  · intro other
    have base : (after.events.cell other).base = (before.events.cell other).base := by
      by_cases same : other = pair
      · subst same
        rw [put]
        rfl
      · rw [step.events other same]
    simp only [base, step.rows]
    exact invariant.stored other

theorem EventPut.owing (step : EventPut actor pair before after) (invariant : PairInvariant before)
    (complete : Complete actor before) : Owing actor pair after := by
  rcases step.put with ⟨time, put⟩
  constructor
  · exact ⟨some time, by rw [put]; rfl⟩
  · intro other tx time own different held
    rw [step.events other different] at held
    simp only [Notified, step.rows]
    exact complete other tx time own held
  · rintro ⟨id, row, held, isPair⟩
    rw [step.rows id] at held
    have missing : (before.events.cell pair).base = none := by rw [step.absent]; rfl
    have unnotified : ∀ tx time, (before.events.cell pair).held = some (tx, time) →
        ¬Notified tx pair before := by
      intro tx time heldEvent
      rw [step.absent] at heldEvent
      cases heldEvent
    exact invariant.no_version missing unnotified (.inr ⟨_, held⟩) isPair

/-- A new row of the pair. -/
structure NotificationPut (actor : Actor) (id : String) (row : OutboxRow) (before after : Host) :
    Prop where
  absent : (before.notification id).view (.work actor) = none
  free : (before.notification id).free (.work actor) = true
  put : after.notification id = (before.notification id).hold (.work actor) (some row)
  rows : ∀ other, other ≠ id → after.notification other = before.notification other
  events : ∀ pair, after.events.cell pair = before.events.cell pair

/-- A row that its writer can put and does not see is nowhere. -/
theorem NotificationPut.unwritten {id : String} {row : OutboxRow}
    (step : NotificationPut actor id row before after)
    (invariant : PairInvariant before) : before.notification id = Cell.empty := by
  have absent := step.absent
  cases held : (before.notification id).held with
  | some version =>
      rcases version with ⟨holder, stored⟩
      rw [Cell.view_of_free_of_held step.free held] at absent
      subst absent
      exact absurd held ((invariant.rows id).present holder)
  | none => exact eq_empty held absent

theorem Owing.no_version (owing : Owing actor pair before) (invariant : PairInvariant before)
    {id : String} {row : OutboxRow} (version : (before.notification id).Version row) :
    row.pair ≠ pair := by
  rcases owing.held with ⟨time, held⟩
  apply invariant.no_version (invariant.events pair _ time held).1 _ version
  intro tx other heldByTx
  rw [held] at heldByTx
  cases heldByTx
  exact owing.unwritten

theorem NotificationPut.kept {id : String} {row : OutboxRow}
    (step : NotificationPut actor id row before after)
    (request : Tx.isRequest (.work actor)) (owing : Owing actor row.pair before)
    (invariant : PairInvariant before) :
    PairInvariant after ∧ pairProtocol.Guarantees actor before after := by
  have unwritten := step.unwritten invariant
  have move : PairMove actor before after := by
    constructor
    · intro pair
      rw [step.events pair]
      exact .same
    · intro other
      by_cases same : other = id
      · subst same
        rw [step.put]
        have own : ownTx actor (Tx.work actor) := rfl
        apply Cell.Change.hold (Tx.work actor) (some row) own step.free
        rw [step.absent]
        exact ⟨row, rfl, request⟩
      · rw [step.rows other same]
        exact .same
  have version : ∀ {other new}, (after.notification other).Version new →
      other = id ∧ new = row ∨
        other ≠ id ∧ (before.notification other).Version new ∧ new.pair ≠ row.pair := by
    intro other new version
    by_cases same : other = id
    · subst same
      rw [step.put, unwritten, Cell.version_hold_iff] at version
      rcases version with stored | put
      · cases stored
      · cases put
        exact .inl ⟨rfl, rfl⟩
    · rw [step.rows other same] at version
      exact .inr ⟨same, version, owing.no_version invariant version⟩
  have base : ∀ other, (after.notification other).base = (before.notification other).base := by
    intro other
    by_cases same : other = id
    · subst same
      rw [step.put]
      rfl
    · rw [step.rows other same]
  apply move.kept invariant
  · intro first second new new' versionFirst versionSecond same
    rcases version versionFirst with ⟨rfl, rfl⟩ | ⟨_, old, different⟩
    · rcases version versionSecond with ⟨rfl, _⟩ | ⟨_, _, different⟩
      · rfl
      · exact absurd same different
    · rcases version versionSecond with ⟨_, rfl⟩ | ⟨_, old', _⟩
      · exact absurd same.symm different
      · exact invariant.unique first second new new' old old' same
  · intro other tx new missing held
    rw [base other] at missing
    by_cases same : other = id
    · subst same
      rw [step.put] at held
      cases held
      rw [step.events row.pair]
      exact owing.held
    · rw [step.rows other same] at held
      rw [step.events new.pair]
      exact invariant.created other tx new missing held
  · intro pair
    simp only [step.events pair, base]
    exact invariant.stored pair

theorem NotificationPut.complete {id : String} {row : OutboxRow}
    (step : NotificationPut actor id row before after)
    (owing : Owing actor row.pair before) (invariant : PairInvariant before) :
    Complete actor after := by
  intro pair tx time own held
  rw [step.events pair] at held
  by_cases same : pair = row.pair
  · subst same
    rcases owing.held with ⟨put, heldByActor⟩
    rw [heldByActor] at held
    cases held
    exact ⟨id, row, by rw [step.put]; rfl, rfl⟩
  · rcases owing.others pair tx time own same held with ⟨other, new, heldRow, isPair⟩
    refine ⟨other, new, ?_, isPair⟩
    have different : other ≠ id := by
      rintro rfl
      rw [step.unwritten invariant] at heldRow
      cases heldRow
    rw [step.rows other different]
    exact heldRow

end

end TennisAlerts.HostCore
