import TennisAlerts.Concurrent.Program
import TennisAlerts.Database.Table

/-!
# A database server and its transactions

A server has the tables of a schema, exclusive advisory locks, a clock and a
history.  Each process has one connection, and its open transaction is named by
the process.  A script is a program whose actions are single statements; a
statement that would violate a key waits like one that meets a row lock, so that
only the end of its transaction leaves this point.

What a transaction has written and not yet committed is its write set.  A commit
lays the write set over the committed rows.
-/

namespace TennisAlerts.Database

open TennisAlerts.Concurrent

/-- Tables with their keys and rows. -/
structure Schema where
  Table : Type
  Key : Table → Type
  Row : Table → Type
  decideTable : DecidableEq Table
  decideKey : ∀ table, DecidableEq (Key table)

attribute [instance] Schema.decideTable Schema.decideKey

variable {schema : Schema} {κ ε : Type}

/-- The rows of all tables. -/
abbrev Rows (schema : Schema) : Type :=
  (table : schema.Table) → schema.Key table → Option (schema.Row table)

/-- The versions that a transaction has put; `some none` is a deleted row. -/
abbrev WriteSet (schema : Schema) : Type :=
  (table : schema.Table) → schema.Key table → Option (Option (schema.Row table))

namespace WriteSet

/-- Nothing was written. -/
def empty : WriteSet schema :=
  fun _ _ => none

/-- Put a version of one row. -/
def put (writes : WriteSet schema) (table : schema.Table) (key : schema.Key table)
    (row : schema.Row table) : WriteSet schema :=
  Function.update writes table (Function.update (writes table) key (some (some row)))

@[simp]
theorem put_self (writes : WriteSet schema) (table : schema.Table) (key : schema.Key table)
    (row : schema.Row table) : writes.put table key row table key = some (some row) := by
  simp [put]

theorem put_of_key_ne {writes : WriteSet schema} {table : schema.Table}
    {key other : schema.Key table} {row : schema.Row table} (different : other ≠ key) :
    writes.put table key row table other = writes table other := by
  simp [put, different]

theorem put_of_table_ne {writes : WriteSet schema} {table other : schema.Table}
    {key : schema.Key table} {row : schema.Row table} (different : other ≠ table) :
    writes.put table key row other = writes other := by
  simp [put, different]

/-- The rows with the writes laid over them. -/
def apply (writes : WriteSet schema) (rows : Rows schema) : Rows schema :=
  fun table key => (writes table key).getD (rows table key)

@[simp]
theorem apply_empty (rows : Rows schema) : empty.apply rows = rows :=
  rfl

@[simp]
theorem apply_put_self (writes : WriteSet schema) (rows : Rows schema) (table : schema.Table)
    (key : schema.Key table) (row : schema.Row table) :
    (writes.put table key row).apply rows table key = some row := by
  simp [apply]

theorem apply_put_of_key_ne {writes : WriteSet schema} {rows : Rows schema} {table : schema.Table}
    {key other : schema.Key table} {row : schema.Row table} (different : other ≠ key) :
    (writes.put table key row).apply rows table other = writes.apply rows table other := by
  simp [apply, put_of_key_ne different]

theorem apply_put_of_table_ne {writes : WriteSet schema} {rows : Rows schema}
    {table other : schema.Table} {key : schema.Key table} {row : schema.Row table}
    (different : other ≠ table) :
    (writes.put table key row).apply rows other = writes.apply rows other := by
  funext key'
  simp [apply, put_of_table_ne different]

theorem apply_of_none {writes : WriteSet schema} {rows : Rows schema} {table : schema.Table}
    {key : schema.Key table} (unwritten : writes table key = none) :
    writes.apply rows table key = rows table key := by
  simp [apply, unwritten]

end WriteSet

/-- What a statement reads: the keys and rows of every table. -/
abbrev Snapshot (schema : Schema) : Type :=
  (table : schema.Table) → Table (schema.Key table) (schema.Row table)

/-- The state of a server.  The newest history entry comes first. -/
structure Server (schema : Schema) (κ ε : Type) where
  clock : Int
  tables : (table : schema.Table) →
    VersionedTable Nat (schema.Key table) (schema.Row table)
  locks : List (κ × Nat)
  log : List ε

namespace Server

/-- A server with empty tables. -/
def new (clock : Int) : Server schema κ ε where
  clock := clock
  tables _ := VersionedTable.empty
  locks := []
  log := []

/-- The committed rows. -/
def base (server : Server schema κ ε) : Rows schema :=
  fun table key => ((server.tables table).cell key).base

/-- The write set of a transaction. -/
def writes (tx : Nat) (server : Server schema κ ε) : WriteSet schema :=
  fun table key => ((server.tables table).cell key).pending tx

/-- What a statement of the transaction reads. -/
def view (tx : Nat) (server : Server schema κ ε) : Snapshot schema :=
  fun table => (server.tables table).view tx

/-- The transaction holds the advisory lock. -/
def Locked (server : Server schema κ ε) (key : κ) (tx : Nat) : Prop :=
  (key, tx) ∈ server.locks

/-- An advisory lock has one holder. -/
def Exclusive (server : Server schema κ ε) : Prop :=
  ∀ key first second, server.Locked key first → server.Locked key second → first = second

def put (table : schema.Table) (rows : VersionedTable Nat (schema.Key table) (schema.Row table))
    (server : Server schema κ ε) : Server schema κ ε :=
  { server with tables := Function.update server.tables table rows }

/-- End a transaction successfully and record what its process reports. -/
def commit (tx : Nat) (events : List ε) (server : Server schema κ ε) : Server schema κ ε :=
  { server with
    tables := fun table => (server.tables table).commit tx
    locks := server.locks.filter fun lock => lock.2 ≠ tx
    log := events ++ server.log }

/-- End a transaction unsuccessfully. -/
def rollback (tx : Nat) (server : Server schema κ ε) : Server schema κ ε :=
  { server with
    tables := fun table => (server.tables table).rollback tx
    locks := server.locks.filter fun lock => lock.2 ≠ tx }

/-- Write the selected rows, where none of them is held by another transaction. -/
def execute (tx : Nat) (table : schema.Table)
    (statement : schema.Key table → schema.Row table → Option (schema.Row table))
    (server : Server schema κ ε) : Option (Server schema κ ε) :=
  if (server.tables table).writable tx (fun key row => (statement key row).map some) then
    some (server.put table
      ((server.tables table).write tx fun key row => (statement key row).map some))
  else none

/-- Put a row under a key whose slot is available. -/
def insertRow (tx : Nat) (table : schema.Table) (key : schema.Key table) (row : schema.Row table)
    (server : Server schema κ ε) : Option (Server schema κ ε) :=
  if ((server.tables table).cell key).free tx then
    some (server.put table ((server.tables table).insert tx key row))
  else none

/-- Take an advisory lock that no other transaction holds. -/
def acquire [DecidableEq κ] (tx : Nat) (key : κ) (server : Server schema κ ε) :
    Option (Server schema κ ε) :=
  if server.locks.all fun held => held.1 ≠ key || held.2 = tx then
    some { server with locks := (key, tx) :: server.locks }
  else none

theorem row_view (tx : Nat) (server : Server schema κ ε) (table : schema.Table)
    (key : schema.Key table) :
    (server.view tx table).row key = (server.writes tx).apply server.base table key :=
  Cell.view_eq_pending tx ((server.tables table).cell key)

end Server

/-- A row that a transaction reads is listed. -/
theorem mem_rows_view {server : Server schema κ ε} {tx : Nat} {table : schema.Table}
    {key : schema.Key table} {row : schema.Row table}
    (seen : (server.writes tx).apply server.base table key = some row) :
    (key, row) ∈ (server.view tx table).rows := by
  rw [← Server.row_view] at seen
  refine Table.mem_rows_iff.mpr ⟨?_, seen⟩
  by_contra unknown
  change key ∉ (server.tables table).keys at unknown
  change ((server.tables table).cell key).view tx = some row at seen
  rw [(server.tables table).complete key unknown] at seen
  cases seen

/-! ## Scripts -/

/-- A script of the processes of a server; statements that nobody speaks about have
the default label. -/
abbrev ServerScript (schema : Schema) (κ ε ι l : Type) :=
  Program (Server schema κ ε) ι l

namespace ServerScript

variable {ι l α : Type} [Inhabited l]

/-- One action without a result. -/
def perform (action : Server schema κ ε → Option (Server schema κ ε)) :
    ServerScript schema κ ε ι l Unit :=
  .act default (fun server _ => action server) fun _ _ => .ret ()

/-- Read a value of the shared state without changing it. -/
def observe (value : Server schema κ ε → α) : ServerScript schema κ ε ι l α :=
  .act default (fun server _ => some server) fun server _ => .ret (value server)

/-- A value from outside the server. -/
def await (accepts : ι → Option α) (otherwise : α) : ServerScript schema κ ε ι l α :=
  .act default (fun server input => (accepts input).map fun _ => server)
    fun _ input => .ret ((accepts input).getD otherwise)

/-- `utc_now()`, and `now()` when it is read where its transaction starts. -/
def utcNow : ServerScript schema κ ε ι l Int :=
  observe Server.clock

/-- A `SELECT` without locks. -/
def select (tx : Nat) (query : Snapshot schema → α) : ServerScript schema κ ε ι l α :=
  observe fun server => query (server.view tx)

/-- An `UPDATE` or a `SELECT .. FOR UPDATE` of the row with one key: the row it
found, where the change applies to it. -/
def changeRow (tx : Nat) (table : schema.Table) (key : schema.Key table)
    (change : schema.Row table → Option (schema.Row table)) :
    ServerScript schema κ ε ι l (Option (schema.Row table)) :=
  .act default (fun server _ => server.execute tx table fun other row =>
      if other = key then change row else none)
    fun server _ => .ret (((server.view tx table).row key).filter fun row => (change row).isSome)

/-- A `SELECT .. FOR UPDATE` of the rows that satisfy a condition. -/
def selectForUpdate (tx : Nat) (table : schema.Table)
    (condition : schema.Row table → Bool) :
    ServerScript schema κ ε ι l (List (schema.Key table × schema.Row table)) :=
  .act default (fun server _ => server.execute tx table fun _ row =>
      if condition row then some row else none)
    fun server _ => .ret ((server.view tx table).rows.filter fun entry => condition entry.2)

/-- An `INSERT` of a key that no row has. -/
def insert (tx : Nat) (table : schema.Table) (key : schema.Key table) (row : schema.Row table) :
    ServerScript schema κ ε ι l Unit :=
  perform fun server =>
    if ((server.view tx table).row key).isNone then server.insertRow tx table key row else none

/-- An `UPDATE` of the rows that it selects. -/
def updateRows (tx : Nat) (table : schema.Table)
    (statement : Snapshot schema → schema.Key table → schema.Row table →
      Option (schema.Row table)) : ServerScript schema κ ε ι l Unit :=
  perform fun server => server.execute tx table (statement (server.view tx))

/-- An `INSERT` into a table with a unique index: whether the index rejects it. -/
def insertUnique (tx : Nat) (table : schema.Table) (key : schema.Key table)
    (row : schema.Row table) (conflicts : Snapshot schema → Bool) :
    ServerScript schema κ ε ι l Bool :=
  .act default (fun server _ =>
      if conflicts (server.view tx) then some server
      else if ((server.view tx table).row key).isNone then server.insertRow tx table key row
      else none)
    fun server _ => .ret (conflicts (server.view tx))

/-- An `INSERT .. ON CONFLICT (key) DO NOTHING`. -/
def insertIfAbsent (tx : Nat) (table : schema.Table) (key : schema.Key table)
    (row : schema.Row table) : ServerScript schema κ ε ι l Unit :=
  perform fun server =>
    if ((server.view tx table).row key).isNone then server.insertRow tx table key row
    else some server

/-- An `INSERT .. ON CONFLICT (key) DO UPDATE`, from the row that is there. -/
def upsert (tx : Nat) (table : schema.Table) (key : schema.Key table)
    (merge : Option (schema.Row table) → schema.Row table) : ServerScript schema κ ε ι l Unit :=
  perform fun server =>
    server.insertRow tx table key (merge ((server.view tx table).row key))

/-- `pg_advisory_xact_lock`; a unique index entry is waited for in the same way. -/
def lock [DecidableEq κ] (tx : Nat) (key : κ) : ServerScript schema κ ε ι l Unit :=
  perform (Server.acquire tx key)

/-- Name the first statement of a script. -/
def mark (label : l) : ServerScript schema κ ε ι l α → ServerScript schema κ ε ι l α
  | .act _ action next => .act label action next
  | .ret value => .ret value

/-- The successful end of a transaction. -/
def commit (tx : Nat) (events : List ε) : ServerScript schema κ ε ι l Unit :=
  perform fun server => some (server.commit tx events)

/-- An exception that leaves the transaction. -/
def rollback (tx : Nat) : ServerScript schema κ ε ι l Unit :=
  perform fun server => some (server.rollback tx)

/-- A condition that raises where it fails. -/
def require (condition : Bool) (tx : Nat) (rest : ServerScript schema κ ε ι l Unit) :
    ServerScript schema κ ε ι l Unit :=
  if condition then rest else rollback tx

end ServerScript

end TennisAlerts.Database
