import TennisAlerts.Database.Discipline
import TennisAlerts.Text.Delimited

/-!
# Import and activation

`import_snapshot` of `migration.py` and `set_delivery_enabled` of `control.py`.  The
rows that the `_insert_*` functions write are inputs: an import may write any rows of
the exported tables before it is reconciled.
-/

namespace TennisAlerts.HostCore.Migration

open TennisAlerts.Database TennisAlerts.Concurrent TennisAlerts.Text

/-! ## Data -/

/-- `EXPORT_TABLES`. -/
inductive ExportTable
  | verifiedReceipts
  | userProfiles
  | userRoles
  | userDeliveryTiers
  | priorityInviteCodes
  | priorityInviteAttempts
  | coffeeInviteSessions
  | coffeeInviteClaims
  | subscriptions
  | venueStatus
  | observedSlots
  | subscriptionEvents
  | notificationOutbox
  | systemEmailOutbox
  | emailDeliveryClaims
  deriving DecidableEq

/-- The tables in the order of the source. -/
def exportTables : List ExportTable :=
  [.verifiedReceipts, .userProfiles, .userRoles, .userDeliveryTiers, .priorityInviteCodes,
    .priorityInviteAttempts, .coffeeInviteSessions, .coffeeInviteClaims, .subscriptions,
    .venueStatus, .observedSlots, .subscriptionEvents, .notificationOutbox, .systemEmailOutbox,
    .emailDeliveryClaims]

theorem mem_exportTables (table : ExportTable) : table ∈ exportTables := by
  cases table <;> decide

/-- `RECONCILIATION_KEYS`. -/
def reconciliationKeys : ExportTable → List String
  | .verifiedReceipts => ["token_hash"]
  | .userProfiles => ["email"]
  | .userRoles => ["email", "role"]
  | .userDeliveryTiers => ["email"]
  | .priorityInviteCodes => ["id"]
  | .priorityInviteAttempts => ["id"]
  | .coffeeInviteSessions => ["id"]
  | .coffeeInviteClaims => ["email"]
  | .subscriptions => ["id"]
  | .venueStatus => ["venue_id"]
  | .observedSlots => ["event_key"]
  | .subscriptionEvents => ["subscription_id", "event_key"]
  | .notificationOutbox => ["subscription_id", "event_key"]
  | .systemEmailOutbox => ["dedupe_key"]
  | .emailDeliveryClaims => ["id"]

/-- A row of the source: a column may be missing or null. -/
abbrev SourceRow := String → Option (Option String)

/-- `str(row.get(column) or "")`. -/
def field (row : SourceRow) (column : String) : String :=
  (row column).join.getD ""

/-- A snapshot of the source. -/
abbrev SourceSnapshot := ExportTable → List SourceRow

/-- The set of the keys of a source table, each once. -/
def sourceKeys (snapshot : SourceSnapshot) (table : ExportTable) : List (List String) :=
  ((snapshot table).map fun row => (reconciliationKeys table).map (field row)).dedup

/-- The proof for one table. -/
structure TableProof where
  sourceCount : Nat
  matchedCount : Nat
  keysSha256 : String
  deriving DecidableEq

/-- The proof that `reconcile_snapshot` returns. -/
structure Reconciliation where
  tables : ExportTable → Option TableProof
  providerIdentityPreserved : Bool

/-- The `details` of a migration. -/
structure Details where
  counts : ExportTable → Nat
  reconciliation : Reconciliation

/-- The row of `runtime_control`. -/
structure ControlRow where
  deliveryEnabled : Bool
  activatedAt : Option Int
  deploymentCommit : String
  phase : String
  updatedAt : Int
  deriving DecidableEq

/-- A row of `migration_state`. -/
structure MigrationRow where
  sourceRevision : String
  importedAt : Option Int
  details : Details
  updatedAt : Int

/-- The columns of an exported row that the reconciliation looks at. -/
structure ExportedRow where
  messageId : Option String
  status : String
  deriving DecidableEq

inductive TableName
  | control
  | state
  | exported
  deriving DecidableEq

/-- Exported rows are keyed by their table and its reconciliation columns. -/
abbrev migration : Schema where
  Table := TableName
  Key
    | .control => Unit
    | .state => String
    | .exported => ExportTable × List String
  Row
    | .control => ControlRow
    | .state => MigrationRow
    | .exported => ExportedRow
  decideTable := inferInstance
  decideKey
    | .control => inferInstanceAs (DecidableEq Unit)
    | .state => inferInstanceAs (DecidableEq String)
    | .exported => inferInstanceAs (DecidableEq (ExportTable × List String))

inductive LockKey
  | delivery
  | d1Import
  deriving DecidableEq

/-- What the history records, at the commit that makes it so: an import with the
destination keys it saw, and an activation with its instant. -/
inductive Event
  | imported (snapshot : SourceSnapshot) (destination : ExportTable → List (List String))
      (proof : Reconciliation)
  | activated (now : Int)

/-- The rows that a batch writes. -/
inductive Input
  | none
  | batch (rows : List ((ExportTable × List String) × ExportedRow))

abbrev MigrationServer := Server migration LockKey Event

abbrev MigrationScript := ServerScript migration LockKey Event Input Unit

open ServerScript

/-! ## Reconciliation -/

/-- The keys of a table that a statement reads. -/
def destinationKeys (table : ExportTable) (snapshot : Database.Snapshot migration) :
    List (List String) :=
  (snapshot .exported).rows.filterMap fun entry =>
    if entry.1.1 = table then some entry.1.2 else none

/-- Texts are ordered by their code points. -/
def textBefore : List Nat → List Nat → Bool
  | [], _ => true
  | _ :: _, [] => false
  | first :: firsts, second :: seconds =>
      if first = second then textBefore firsts seconds else Nat.blt first second

/-- Tuples are ordered by their first difference. -/
def keyBefore : List String → List String → Bool
  | [], _ => true
  | _ :: _, [] => false
  | first :: firsts, second :: seconds =>
      if first = second then keyBefore firsts seconds
      else textBefore (first.toList.map Char.toNat) (second.toList.map Char.toNat)

/-- `sorted(source_keys)`. -/
def sortKeys : List (List String) → List (List String)
  | [] => []
  | key :: keys =>
      (sortKeys keys).takeWhile (fun other => !keyBefore key other) ++
        key :: (sortKeys keys).dropWhile fun other => !keyBefore key other

/-- `json.dumps(sorted(source_keys), ensure_ascii=False, separators=(",", ":"))`. -/
def canonicalKeys (keys : List (List String)) : String :=
  String.ofList (jsonArray (jsonArray jsonString) (sortKeys keys))

/-- The proof for a table whose keys are all there. -/
def tableProof (sha256 : String → String) (keys : List (List String)) : TableProof :=
  ⟨keys.length, keys.length, sha256 (canonicalKeys keys)⟩

/-- The loop of `reconcile_snapshot` over the tables. -/
def reconcileTables (sha256 : String → String) (tx : Nat) (snapshot : SourceSnapshot)
    (tables : List ExportTable) (destination : ExportTable → List (List String))
    (proofs : ExportTable → Option TableProof)
    (rest : (ExportTable → List (List String)) → (ExportTable → Option TableProof) →
      MigrationScript Unit) : MigrationScript Unit :=
  match tables with
  | [] => rest destination proofs
  | table :: tables => do
      let keys ← select tx (destinationKeys table)
      require ((sourceKeys snapshot table).all fun key => keys.contains key) tx
        (reconcileTables sha256 tx snapshot tables (Function.update destination table keys)
          (Function.update proofs table (some (tableProof sha256 (sourceKeys snapshot table))))
          rest)

/-- The status that the import gives a notification. -/
def expectedStatus (row : SourceRow) : String :=
  match (row "status").join with
  | some "processing" => "submission_unknown"
  | some "" => "pending"
  | some status => status
  | none => "pending"

/-- `value or None`. -/
def orNone (value : Option String) : Option String :=
  value.filter (· ≠ "")

/-- `str(row[column])`, or `none` where it raises. -/
def requiredField (row : SourceRow) (column : String) : Option String :=
  (row column).map fun value => value.getD "None"

/-- The notification keeps the message and the status of its source row. -/
def notificationKept (snapshot : Database.Snapshot migration) (row : SourceRow) : Bool :=
  match requiredField row "subscription_id", requiredField row "event_key" with
  | some subscriptionId, some eventKey =>
      match (snapshot .exported).row (.notificationOutbox, [subscriptionId, eventKey]) with
      | some target => orNone (row "message_id").join = orNone target.messageId &&
          target.status = expectedStatus row
      | none => false
  | _, _ => false

/-- `reconcile_snapshot`. -/
def reconcileSnapshot (sha256 : String → String) (tx : Nat) (snapshot : SourceSnapshot)
    (rest : (ExportTable → List (List String)) → Reconciliation → MigrationScript Unit) :
    MigrationScript Unit :=
  reconcileTables sha256 tx snapshot exportTables (fun _ => []) (fun _ => none)
    fun destination proofs => do
      let kept ← select tx fun view =>
        (snapshot .notificationOutbox).all (notificationKept view)
      require kept tx (rest destination ⟨proofs, true⟩)

/-! ## Import -/

/-- The rows that the `_insert_*` functions write. -/
def writeBatch (tx : Nat) : List ((ExportTable × List String) × ExportedRow) →
    MigrationScript Unit → MigrationScript Unit
  | [], rest => rest
  | (key, row) :: rows, rest => do
      @upsert migration LockKey Event Input Unit _ tx .exported key fun _ => row
      writeBatch tx rows rest

def source : String :=
  "cloudflare-d1"

/-- `import_snapshot` behind `ensure_schema`. -/
def importSnapshot (sha256 : String → String) (tx : Nat) (snapshot : SourceSnapshot)
    (sourceRevision : String) : MigrationScript Unit := do
  let now ← utcNow
  lock tx .d1Import
  match ← @changeRow migration LockKey Event Input Unit _ tx .control () some with
  | none => rollback tx
  | some state =>
      require (state.activatedAt.isNone && !state.deliveryEnabled) tx do
        let batch ← await (fun | .batch rows => some rows | .none => none) []
        writeBatch tx batch
          (reconcileSnapshot sha256 tx snapshot fun destination proof => do
            @upsert migration LockKey Event Input Unit _ tx .state source fun _ =>
              ⟨sourceRevision, some now, ⟨fun table => (snapshot table).length, proof⟩, now⟩
            commit tx [.imported snapshot destination proof])

/-! ## Activation -/

/-- The check of `set_delivery_enabled` on a stored proof. -/
def verifiedProof (proof : Reconciliation) : Bool :=
  proof.providerIdentityPreserved && exportTables.all fun table =>
    match proof.tables table with
    | some entry => entry.sourceCount = entry.matchedCount && entry.keysSha256.length = 64
    | none => false

/-- There is an import with a verified proof. -/
def verifiedImport (snapshot : Database.Snapshot migration) : Bool :=
  (((snapshot .state).row source).filter fun row => row.importedAt.isSome).any fun row =>
    verifiedProof row.details.reconciliation

/-- The `UPDATE` of `set_delivery_enabled`. -/
def switchDelivery (enabled : Bool) (deploymentCommit : String) (now : Int) (row : ControlRow) :
    ControlRow where
  deliveryEnabled := enabled
  activatedAt := if enabled then row.activatedAt.or (some now) else row.activatedAt
  deploymentCommit := deploymentCommit
  phase := if enabled then "active" else "paused"
  updatedAt := now

/-- The end of `set_delivery_enabled`; `UPDATE` does not look at its row count. -/
def updateControl (tx : Nat) (enabled : Bool) (deploymentCommit : String) (now : Int) :
    MigrationScript Unit := do
  let _ ← @changeRow migration LockKey Event Input Unit _ tx .control () fun row =>
    some (switchDelivery enabled deploymentCommit now row)
  commit tx (if enabled then [.activated now] else [])

/-- `set_delivery_enabled`; `now()` is the start of its transaction. -/
def setDeliveryEnabled (tx : Nat) (enabled : Bool) (deploymentCommit : String) :
    MigrationScript Unit := do
  let now ← utcNow
  lock tx .delivery
  if enabled then do
    let verified ← select tx verifiedImport
    require verified tx (updateControl tx enabled deploymentCommit now)
  else updateControl tx enabled deploymentCommit now

/-! ## The system -/

inductive MigrationOperation (sha256 : String → String) (tx : Nat) : MigrationScript Unit → Prop
  | importSnapshot (snapshot : SourceSnapshot) (sourceRevision : String) :
      MigrationOperation sha256 tx (importSnapshot sha256 tx snapshot sourceRevision)
  | setDeliveryEnabled (enabled : Bool) (deploymentCommit : String) :
      MigrationOperation sha256 tx (setDeliveryEnabled tx enabled deploymentCommit)

/-- Any number of imports and switches over one server. -/
def migrationSystem (sha256 : String → String) : System MigrationServer Input Unit Nat :=
  Discipline.serverSystem (MigrationOperation sha256)

end TennisAlerts.HostCore.Migration
