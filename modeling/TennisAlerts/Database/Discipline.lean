import TennisAlerts.Concurrent.RelyGuarantee
import TennisAlerts.Database.Server
import Mathlib.Data.Nat.Basic

/-!
# Reasoning about the transactions of a server

Statements of one transaction change neither the committed rows nor what other
transactions hold, so only commits matter to the others.  A discipline says what
holds of the committed rows and the history, and what a commit may do to them
while another transaction holds certain advisory locks.  The rules below reduce
the correctness of a script to its commits.
-/

namespace TennisAlerts.Database

open TennisAlerts.Concurrent

variable {schema : Schema} {κ ε ι l : Type}

/-! ## Steps of a transaction -/

/-- Another process leaves the write set, the locks and the locked rows alone. -/
structure Undisturbed (tx : Nat) (before after : Server schema κ ε) : Prop where
  writes : after.writes tx = before.writes tx
  locks : ∀ key, after.Locked key tx ↔ before.Locked key tx
  rows : ∀ table key version, before.writes tx table key = some version →
    after.base table key = before.base table key

/-- A statement is visible to its own transaction only. -/
structure Statement (tx : Nat) (before after : Server schema κ ε) : Prop where
  base : after.base = before.base
  log : after.log = before.log
  exclusive : before.Exclusive → after.Exclusive
  writes : ∀ other, other ≠ tx → after.writes other = before.writes other
  locks : ∀ other, other ≠ tx → ∀ key, after.Locked key other ↔ before.Locked key other

section

variable {tx other : Nat} {before after server : Server schema κ ε}

theorem Statement.refl (server : Server schema κ ε) : Statement tx server server :=
  ⟨rfl, rfl, id, fun _ _ => rfl, fun _ _ _ => Iff.rfl⟩

theorem Statement.undisturbed (statement : Statement tx before after) (different : other ≠ tx) :
    Undisturbed other before after where
  writes := statement.writes other different
  locks := statement.locks other different
  rows _ _ _ _ := by rw [statement.base]

/-- The table is replaced by one with the same committed rows. -/
theorem statement_put {table : schema.Table}
    {rows : VersionedTable Nat (schema.Key table) (schema.Row table)}
    (base : ∀ key, (rows.cell key).base = ((server.tables table).cell key).base)
    (others : ∀ other, other ≠ tx → ∀ key,
      (rows.cell key).pending other = ((server.tables table).cell key).pending other) :
    Statement tx server (server.put table rows) where
  base := by
    funext name key
    by_cases same : name = table
    · subst name
      simp [Server.base, Server.put, base]
    · simp [Server.base, Server.put, Function.update_of_ne same]
  log := rfl
  exclusive := id
  writes other different := by
    funext name key
    by_cases same : name = table
    · subst name
      simp [Server.writes, Server.put, others other different]
    · simp [Server.writes, Server.put, Function.update_of_ne same]
  locks _ _ _ := Iff.rfl

theorem statement_execute {table : schema.Table}
    {change : schema.Key table → schema.Row table → Option (schema.Row table)}
    (executed : server.execute tx table change = some after) :
    Statement tx server after := by
  unfold Server.execute at executed
  split at executed
  · rename_i writable
    cases executed
    apply statement_put
    · intro key
      rcases VersionedTable.cell_write_cases writable key with ⟨same, _⟩ | ⟨_, _, _, _, _, held⟩
      · rw [same]
      · rw [held, Cell.base_hold]
    · intro other different key
      rcases VersionedTable.cell_write_cases writable key with ⟨same, _⟩ | ⟨_, _, _, _, free, held⟩
      · rw [same]
      · rw [held, Cell.pending_hold_of_ne free different]
  · cases executed

theorem statement_insertRow {table : schema.Table} {key : schema.Key table}
    {row : schema.Row table} (inserted : server.insertRow tx table key row = some after) :
    Statement tx server after := by
  unfold Server.insertRow at inserted
  split at inserted
  · rename_i free
    cases inserted
    apply statement_put
    · intro name
      by_cases same : name = key
      · subst name
        rw [VersionedTable.cell_insert_self, Cell.base_hold]
      · rw [VersionedTable.cell_insert_of_ne same]
    · intro other different name
      by_cases same : name = key
      · subst name
        rw [VersionedTable.cell_insert_self, Cell.pending_hold_of_ne free different]
      · rw [VersionedTable.cell_insert_of_ne same]
  · cases inserted

theorem acquire_eq_some [DecidableEq κ] {key : κ} (acquired : server.acquire tx key = some after) :
    after = { server with locks := (key, tx) :: server.locks } ∧
      ∀ holder, server.Locked key holder → holder = tx := by
  unfold Server.acquire at acquired
  split at acquired
  · rename_i free
    cases acquired
    refine ⟨rfl, ?_⟩
    intro holder member
    simpa using List.all_eq_true.mp free _ member
  · cases acquired

theorem statement_acquire [DecidableEq κ] {key : κ}
    (acquired : server.acquire tx key = some after) : Statement tx server after := by
  obtain ⟨rfl, others⟩ := acquire_eq_some acquired
  refine ⟨rfl, rfl, ?_, fun _ _ => rfl, ?_⟩
  · intro exclusive name first second left right
    have cases : ∀ holder, (name, holder) ∈ (key, tx) :: server.locks →
        (name = key ∧ holder = tx) ∨ (name, holder) ∈ server.locks := by
      intro holder member
      simpa using member
    rcases cases first left with ⟨rfl, rfl⟩ | known
    · rcases cases second right with ⟨_, rfl⟩ | known
      · rfl
      · exact (others second known).symm
    · rcases cases second right with ⟨rfl, rfl⟩ | also
      · exact others first known
      · exact exclusive name first second known also
  · intro other different name
    simp [Server.Locked, different]

end

/-! ### Write sets after a statement -/

section

variable {tx : Nat} {server after : Server schema κ ε}

theorem writes_put {table : schema.Table}
    {rows : VersionedTable Nat (schema.Key table) (schema.Row table)} :
    (server.put table rows).writes tx =
      Function.update (server.writes tx) table fun key => (rows.cell key).pending tx := by
  funext name key
  by_cases same : name = table
  · subst name
    simp [Server.writes, Server.put]
  · simp [Server.writes, Server.put, Function.update_of_ne same]

theorem writes_insertRow {table : schema.Table} {key : schema.Key table} {row : schema.Row table}
    (inserted : server.insertRow tx table key row = some after) :
    after.writes tx = (server.writes tx).put table key row := by
  unfold Server.insertRow at inserted
  split at inserted
  · cases inserted
    rw [writes_put, WriteSet.put]
    congr 1
    funext other
    by_cases same : other = key
    · subst other
      rw [VersionedTable.cell_insert_self, Cell.pending_hold, Function.update_self]
    · rw [VersionedTable.cell_insert_of_ne same, Function.update_of_ne same]
      rfl
  · cases inserted

/-- A statement puts the versions it chooses. -/
theorem writes_execute {table : schema.Table}
    {change : schema.Key table → schema.Row table → Option (schema.Row table)}
    (executed : server.execute tx table change = some after) :
    (∀ key, after.writes tx table key =
      match ((server.view tx table).row key).bind (change key) with
      | some new => some (some new)
      | none => server.writes tx table key) ∧
    ∀ other, other ≠ table → after.writes tx other = server.writes tx other := by
  unfold Server.execute at executed
  split at executed
  · cases executed
    constructor
    · intro key
      rw [writes_put, Function.update_self]
      change (VersionedTable.writeCell tx _ ((server.tables table).cell key)).pending tx = _
      have seen : (server.view tx table).row key = ((server.tables table).cell key).view tx := rfl
      rw [seen]
      unfold VersionedTable.writeCell
      cases ((server.tables table).cell key).view tx with
      | none => rfl
      | some row =>
          simp only [Option.bind_some]
          cases change key row with
          | none => rfl
          | some new => simp
    · intro other different
      rw [writes_put, Function.update_of_ne different]
  · cases executed

theorem locks_execute {table : schema.Table}
    {change : schema.Key table → schema.Row table → Option (schema.Row table)}
    (executed : server.execute tx table change = some after) : after.locks = server.locks := by
  unfold Server.execute at executed
  split at executed
  · cases executed
    rfl
  · cases executed

theorem locks_insertRow {table : schema.Table} {key : schema.Key table} {row : schema.Row table}
    (inserted : server.insertRow tx table key row = some after) : after.locks = server.locks := by
  unfold Server.insertRow at inserted
  split at inserted
  · cases inserted
    rfl
  · cases inserted

/-! ### The end of a transaction -/

theorem base_commit (events : List ε) :
    (server.commit tx events).base = (server.writes tx).apply server.base := by
  funext table key
  exact Cell.base_commit_eq_pending tx ((server.tables table).cell key)

theorem writes_commit (events : List ε) :
    (server.commit tx events).writes tx = WriteSet.empty := by
  funext table key
  exact Cell.pending_commit tx ((server.tables table).cell key)

theorem not_locked_commit (events : List ε) (key : κ) :
    ¬(server.commit tx events).Locked key tx := by
  simp [Server.Locked, Server.commit]

theorem exclusive_filter {server after : Server schema κ ε} (exclusive : server.Exclusive)
    (subset : ∀ lock ∈ after.locks, lock ∈ server.locks) : after.Exclusive :=
  fun key first second left right =>
    exclusive key first second (subset _ left) (subset _ right)

theorem undisturbed_commit {other : Nat} (different : other ≠ tx) (events : List ε) :
    Undisturbed other server (server.commit tx events) where
  writes := by
    funext table key
    exact Cell.pending_commit_of_ne different
  locks key := by simp [Server.Locked, Server.commit, different]
  rows table key version held := by
    rw [base_commit]
    exact WriteSet.apply_of_none (Cell.pending_eq_none_of_ne held different)

theorem statement_rollback : Statement tx server (server.rollback tx) where
  base := by
    funext table key
    exact Cell.base_rollback
  log := rfl
  exclusive exclusive := exclusive_filter exclusive fun _ member => List.mem_of_mem_filter member
  writes other different := by
    funext table key
    exact Cell.pending_rollback_of_ne different
  locks other different key := by simp [Server.Locked, Server.rollback, different]

end

/-! ## Disciplines -/

/-- What holds of the committed rows and the history, and what a commit may do to
them while another transaction holds the given advisory locks. -/
structure Discipline (schema : Schema) (κ ε : Type) where
  holds : Rows schema → List ε → Prop
  allows : (κ → Prop) → Rows schema → List ε → Rows schema → List ε → Prop
  still : ∀ locks rows log, allows locks rows log rows log

namespace Discipline

variable (discipline : Discipline schema κ ε) {tx : Nat}

/-- The protocol that all processes of a server follow. -/
def protocol : Protocol (Server schema κ ε) Nat where
  invariant server := server.Exclusive ∧ discipline.holds server.base server.log
  rely tx before after := Undisturbed tx before after ∧
    discipline.allows (fun key => before.Locked key tx) before.base before.log after.base after.log
  resting tx server := server.writes tx = WriteSet.empty ∧ ∀ key, ¬server.Locked key tx

/-- Where its actions are allowed, the script follows the discipline and ends its
transaction. -/
def RunsUnder (constraint : Nat → l → Server schema κ ε → ι → Prop) (tx : Nat)
    (pre : Server schema κ ε → Prop) (script : ServerScript schema κ ε ι l Unit) : Prop :=
  discipline.protocol.Valid constraint tx pre script fun _ => discipline.protocol.resting tx

/-- The script follows the discipline and ends its transaction. -/
abbrev Runs (tx : Nat) (pre : Server schema κ ε → Prop)
    (script : ServerScript schema κ ε ι l Unit) : Prop :=
  discipline.RunsUnder System.anyAction tx pre script

/-- An assertion that the commits of other transactions do not break. -/
def Stable (tx : Nat) (pre : Server schema κ ε → Prop) : Prop :=
  discipline.protocol.Stable tx pre

variable {discipline} {constraint : Nat → l → Server schema κ ε → ι → Prop}

theorem statement_kept {before after : Server schema κ ε} (statement : Statement tx before after)
    (invariant : discipline.protocol.invariant before) :
    discipline.protocol.invariant after ∧ discipline.protocol.Guarantees tx before after := by
  refine ⟨⟨statement.exclusive invariant.1, ?_⟩, fun other different => ?_⟩
  · rw [statement.base, statement.log]
    exact invariant.2
  · refine ⟨statement.undisturbed different, ?_⟩
    rw [statement.base, statement.log]
    exact discipline.still _ _ _

/-- What a transaction has done so far and knows about the committed rows. -/
structure Holding (tx : Nat) (writes : WriteSet schema) (locks : List κ)
    (fact : Rows schema → List ε → Prop) (server : Server schema κ ε) : Prop where
  writes : server.writes tx = writes
  locks : ∀ key ∈ locks, server.Locked key tx
  fact : fact server.base server.log

/-- The fact survives the commits of others while the locks and the locked rows
are held. -/
def Steady (discipline : Discipline schema κ ε) (writes : WriteSet schema) (locks : List κ)
    (fact : Rows schema → List ε → Prop) : Prop :=
  ∀ held rows log rows' log', (∀ key ∈ locks, held key) →
    (∀ table key version, writes table key = some version → rows' table key = rows table key) →
    discipline.holds rows log → discipline.holds rows' log' →
    discipline.allows held rows log rows' log' → fact rows log → fact rows' log'

theorem Steady.stable {writes : WriteSet schema} {locks : List κ}
    {fact : Rows schema → List ε → Prop} (steady : Steady discipline writes locks fact) :
    discipline.Stable tx (Holding tx writes locks fact) := by
  intro before after beforeInv afterInv relied holding
  obtain ⟨undisturbed, allowed⟩ := relied
  refine ⟨undisturbed.writes.trans holding.writes, ?_, ?_⟩
  · intro key member
    exact (undisturbed.locks key).mpr (holding.locks key member)
  · refine steady _ _ _ _ _ holding.locks ?_ beforeInv.2 afterInv.2 allowed holding.fact
    intro table key version written
    apply undisturbed.rows table key version
    rw [holding.writes]
    exact written

theorem steady_true {writes : WriteSet schema} {locks : List κ} :
    Steady discipline writes locks fun _ _ => True :=
  fun _ _ _ _ _ _ _ _ _ _ _ => trivial

/-- A row that the transaction has locked keeps its committed version. -/
theorem steady_row {writes : WriteSet schema} {locks : List κ} {table : schema.Table}
    {key : schema.Key table} {version : Option (schema.Row table)}
    (locked : writes table key = some version) (property : Option (schema.Row table) → Prop) :
    Steady discipline writes locks fun rows _ => property (rows table key) := by
  intro held rows log rows' log' _ kept _ _ _ holds
  rw [kept table key version locked]
  exact holds

theorem Steady.and {writes : WriteSet schema} {locks : List κ}
    {first second : Rows schema → List ε → Prop} (left : Steady discipline writes locks first)
    (right : Steady discipline writes locks second) :
    Steady discipline writes locks fun rows log => first rows log ∧ second rows log := by
  intro held rows log rows' log' locked kept before after allowed holds
  exact ⟨left held rows log rows' log' locked kept before after allowed holds.1,
    right held rows log rows' log' locked kept before after allowed holds.2⟩

/-- A transaction that writes more rows and takes more locks keeps what it knows. -/
theorem Steady.mono {writes later : WriteSet schema} {locks more : List κ}
    {fact : Rows schema → List ε → Prop} (steady : Steady discipline writes locks fact)
    (written : ∀ table key version, writes table key = some version → later table key ≠ none)
    (locked : ∀ key ∈ locks, key ∈ more) : Steady discipline later more fact := by
  intro held rows log rows' log' holds kept before after allowed known
  refine steady held rows log rows' log' (fun key member => holds key (locked key member)) ?_
    before after allowed known
  intro table key version present
  obtain ⟨newer, found⟩ := Option.ne_none_iff_exists'.mp (written table key version present)
  exact kept table key newer found

/-! ### Rules -/

section

variable {writes : WriteSet schema} {locks : List κ} {fact : Rows schema → List ε → Prop}

/-- A statement after which the rest of the script goes on. -/
theorem runs_act {label : l} {action : Server schema κ ε → ι → Option (Server schema κ ε)}
    {next : Server schema κ ε → ι → ServerScript schema κ ε ι l Unit}
    {pre : Server schema κ ε → Prop} (middle : Server schema κ ε → ι → Server schema κ ε → Prop)
    (stable : discipline.Stable tx pre)
    (step : ∀ before input after, discipline.protocol.invariant before → pre before →
      action before input = some after → Statement tx before after ∧ middle before input after)
    (rest : ∀ before input,
      discipline.RunsUnder constraint tx (middle before input) (next before input)) :
    discipline.RunsUnder constraint tx pre (.act label action next) := by
  refine Protocol.valid_act middle stable ?_ rest
  intro before input after invariant holds _ acted
  obtain ⟨statement, reached⟩ := step before input after invariant holds acted
  obtain ⟨kept, guaranteed⟩ := statement_kept statement invariant
  exact ⟨kept, guaranteed, reached⟩

variable [Inhabited l]

/-- A read: the rest of the script knows what was read. -/
theorem runs_observe {α : Type} {value : Server schema κ ε → α}
    {rest : α → ServerScript schema κ ε ι l Unit} {pre : Server schema κ ε → Prop}
    (middle : α → Server schema κ ε → Prop) (stable : discipline.Stable tx pre)
    (reads : ∀ server, discipline.protocol.invariant server → pre server →
      middle (value server) server)
    (continues : ∀ value, discipline.RunsUnder constraint tx (middle value) (rest value)) :
    discipline.RunsUnder constraint tx pre (ServerScript.observe value >>= rest) := by
  refine runs_act (fun before _ after => middle (value before) after) stable ?_
    fun before _ => continues (value before)
  intro before input after invariant holds acted
  cases acted
  exact ⟨Statement.refl before, reads before invariant holds⟩

/-- A `SELECT` under the assertion of a transaction. -/
theorem runs_select {α : Type} {query : Snapshot schema → α}
    {rest : α → ServerScript schema κ ε ι l Unit} (newer : α → Rows schema → List ε → Prop)
    (steady : Steady discipline writes locks fact)
    (reads : ∀ server, discipline.protocol.invariant server →
      Holding tx writes locks fact server →
      newer (query (server.view tx)) server.base server.log)
    (continues : ∀ value, discipline.RunsUnder constraint tx (Holding tx writes locks (newer value))
      (rest value)) :
    discipline.RunsUnder constraint tx (Holding tx writes locks fact)
      (ServerScript.select tx query >>= rest) :=
  runs_observe (fun value => Holding tx writes locks (newer value)) steady.stable
    (fun server invariant holding =>
      ⟨holding.writes, holding.locks, reads server invariant holding⟩) continues

theorem runs_utcNow {rest : Int → ServerScript schema κ ε ι l Unit} {pre : Server schema κ ε → Prop}
    (stable : discipline.Stable tx pre)
    (continues : ∀ now, discipline.RunsUnder constraint tx pre (rest now)) :
    discipline.RunsUnder constraint tx pre (ServerScript.utcNow >>= rest) :=
  runs_observe (fun _ => pre) stable (fun _ _ holds => holds) continues

/-- A value from outside, which its input explains. -/
theorem runs_awaited {α : Type} {accepts : ι → Option α} {otherwise : α}
    {rest : α → ServerScript schema κ ε ι l Unit} {pre : Server schema κ ε → Prop}
    (stable : discipline.Stable tx pre)
    (continues : ∀ input value, accepts input = some value →
      discipline.RunsUnder constraint tx pre (rest value)) :
    discipline.RunsUnder constraint tx pre (ServerScript.await accepts otherwise >>= rest) := by
  refine runs_act (fun _ input server => (accepts input).isSome ∧ pre server) stable ?_
    fun _ input => ?_
  · intro before input after invariant holds acted
    obtain ⟨value, accepted, rfl⟩ := Option.map_eq_some_iff.mp acted
    exact ⟨Statement.refl before, by simp [accepted], holds⟩
  · intro server invariant holds
    obtain ⟨value, accepted⟩ := Option.isSome_iff_exists.mp holds.1
    change discipline.protocol.Safe constraint tx _ server
      (rest ((accepts input).getD otherwise))
    rw [accepted]
    exact continues input value accepted server invariant holds.2

theorem runs_await {α : Type} {accepts : ι → Option α} {otherwise : α}
    {rest : α → ServerScript schema κ ε ι l Unit} {pre : Server schema κ ε → Prop}
    (stable : discipline.Stable tx pre)
    (continues : ∀ value, discipline.RunsUnder constraint tx pre (rest value)) :
    discipline.RunsUnder constraint tx pre (ServerScript.await accepts otherwise >>= rest) :=
  runs_awaited stable fun _ value _ => continues value

theorem runs_lock [DecidableEq κ] {key : κ} {rest : Unit → ServerScript schema κ ε ι l Unit}
    (steady : Steady discipline writes locks fact)
    (continues :
      discipline.RunsUnder constraint tx (Holding tx writes (key :: locks) fact) (rest ())) :
    discipline.RunsUnder constraint tx (Holding tx writes locks fact)
      (ServerScript.lock tx key >>= rest) := by
  refine runs_act (fun _ _ => Holding tx writes (key :: locks) fact) steady.stable ?_
    fun _ _ => continues
  intro before input after invariant holding acted
  have statement := statement_acquire acted
  obtain ⟨rfl, _⟩ := acquire_eq_some acted
  refine ⟨statement, holding.writes, ?_, holding.fact⟩
  intro name member
  rcases List.mem_cons.mp member with rfl | member
  · exact List.mem_cons_self
  · exact List.mem_cons_of_mem _ (holding.locks name member)

theorem runs_insert {table : schema.Table} {key : schema.Key table} {row : schema.Row table}
    {rest : Unit → ServerScript schema κ ε ι l Unit}
    (newer : Rows schema → List ε → Prop) (steady : Steady discipline writes locks fact)
    (absent : ∀ rows log, discipline.holds rows log → fact rows log →
      writes.apply rows table key = none → newer rows log)
    (continues : discipline.RunsUnder constraint tx
      (Holding tx (writes.put table key row) locks newer) (rest ())) :
    discipline.RunsUnder constraint tx (Holding tx writes locks fact)
      (ServerScript.insert tx table key row >>= rest) := by
  refine runs_act (fun _ _ => Holding tx (writes.put table key row) locks newer) steady.stable ?_
    fun _ _ => continues
  intro before input after invariant holding acted
  dsimp only at acted
  split at acted
  · rename_i missing
    have statement := statement_insertRow acted
    rw [Server.row_view, holding.writes, Option.isNone_iff_eq_none] at missing
    refine ⟨statement, ?_, ?_, ?_⟩
    · rw [writes_insertRow acted, holding.writes]
    · intro name member
      unfold Server.Locked
      rw [locks_insertRow acted]
      exact holding.locks name member
    · rw [statement.base, statement.log]
      exact absent _ _ invariant.2 holding.fact missing
  · cases acted

theorem runs_upsert {table : schema.Table} {key : schema.Key table}
    {merge : Option (schema.Row table) → schema.Row table}
    {rest : Unit → ServerScript schema κ ε ι l Unit}
    (steady : Steady discipline writes locks fact)
    (continues : ∀ old, discipline.RunsUnder constraint tx
      (Holding tx (writes.put table key (merge old)) locks fact) (rest ())) :
    discipline.RunsUnder constraint tx (Holding tx writes locks fact)
      (ServerScript.upsert tx table key merge >>= rest) := by
  refine runs_act (fun before _ => Holding tx
    (writes.put table key (merge ((before.view tx table).row key))) locks fact) steady.stable ?_
    fun before _ => continues _
  intro before input after invariant holding acted
  have statement := statement_insertRow acted
  refine ⟨statement, ?_, ?_, ?_⟩
  · rw [writes_insertRow acted, holding.writes]
  · intro name member
    unfold Server.Locked
    rw [locks_insertRow acted]
    exact holding.locks name member
  · rw [statement.base, statement.log]
    exact holding.fact

theorem runs_insertIfAbsent {table : schema.Table} {key : schema.Key table}
    {row : schema.Row table} {rest : Unit → ServerScript schema κ ε ι l Unit}
    (steady : Steady discipline writes locks fact)
    (inserted : discipline.RunsUnder constraint tx
      (Holding tx (writes.put table key row) locks fact) (rest ()))
    (present : discipline.RunsUnder constraint tx (Holding tx writes locks fact) (rest ())) :
    discipline.RunsUnder constraint tx (Holding tx writes locks fact)
      (ServerScript.insertIfAbsent tx table key row >>= rest) := by
  refine runs_act (fun _ _ server => Holding tx (writes.put table key row) locks fact server ∨
    Holding tx writes locks fact server) steady.stable ?_ fun _ _ => ?_
  · intro before input after invariant holding acted
    dsimp only at acted
    split at acted
    · have statement := statement_insertRow acted
      refine ⟨statement, Or.inl ⟨?_, ?_, ?_⟩⟩
      · rw [writes_insertRow acted, holding.writes]
      · intro name member
        unfold Server.Locked
        rw [locks_insertRow acted]
        exact holding.locks name member
      · rw [statement.base, statement.log]
        exact holding.fact
    · cases acted
      exact ⟨Statement.refl before, Or.inr holding⟩
  · intro server invariant holds
    rcases holds with put | kept
    · exact inserted server invariant put
    · exact present server invariant kept

/-- A row is locked, and possibly changed, where the change applies to it. -/
theorem runs_changeRow {table : schema.Table} {key : schema.Key table}
    {change : schema.Row table → Option (schema.Row table)}
    {rest : Option (schema.Row table) → ServerScript schema κ ε ι l Unit}
    (newer : schema.Row table → Rows schema → List ε → Prop)
    (steady : Steady discipline writes locks fact)
    (found : ∀ rows log row, discipline.holds rows log → fact rows log →
      writes.apply rows table key = some row → newer row rows log)
    (changed : ∀ row new, change row = some new → discipline.RunsUnder constraint tx
      (Holding tx (writes.put table key new) locks (newer row)) (rest (some row)))
    (missed : discipline.RunsUnder constraint tx (Holding tx writes locks fun rows log =>
      fact rows log ∧ (writes.apply rows table key).bind change = none) (rest none)) :
    discipline.RunsUnder constraint tx (Holding tx writes locks fact)
      (ServerScript.changeRow tx table key change >>= rest) := by
  refine runs_act (fun before _ after => match ((before.view tx table).row key).filter
      fun row => (change row).isSome with
    | some row => ∃ new, change row = some new ∧
        Holding tx (writes.put table key new) locks (newer row) after
    | none => Holding tx writes locks (fun rows log =>
        fact rows log ∧ (writes.apply rows table key).bind change = none) after)
    steady.stable ?_ fun before _ => ?_
  · intro before input after invariant holding acted
    have statement := statement_execute acted
    have locked : ∀ name ∈ locks, after.Locked name tx := by
      intro name member
      unfold Server.Locked
      rw [locks_execute acted]
      exact holding.locks name member
    obtain ⟨here, elsewhere⟩ := writes_execute acted
    refine ⟨statement, ?_⟩
    -- Keys other than the named one are not selected.
    have others : ∀ other, other ≠ key → after.writes tx table other = writes table other := by
      intro other different
      have kept := here other
      have unselected : ((before.view tx table).row other).bind
          (fun row => if other = key then change row else none) = none := by
        cases (before.view tx table).row other <;> simp [different]
      rw [unselected] at kept
      rw [kept, holding.writes]
    have own := here key
    simp only [if_true] at own
    split
    · rename_i row selected
      obtain ⟨seen, applies⟩ := Option.filter_eq_some_iff.mp selected
      obtain ⟨new, becomes⟩ := Option.isSome_iff_exists.mp applies
      refine ⟨new, becomes, ?_, locked, ?_⟩
      · rw [seen] at own
        simp only [Option.bind_some, becomes] at own
        funext name other
        by_cases same : name = table
        · subst name
          by_cases mine : other = key
          · subst other
            rw [own, WriteSet.put_self]
          · rw [others other mine, WriteSet.put_of_key_ne mine]
        · rw [elsewhere name same, WriteSet.put_of_table_ne same, holding.writes]
      · rw [statement.base, statement.log]
        rw [Server.row_view, holding.writes] at seen
        exact found _ _ row invariant.2 holding.fact seen
    · rename_i unselected
      have none : ((before.view tx table).row key).bind change = none := by
        cases seen : (before.view tx table).row key with
        | none => rfl
        | some row =>
            rw [seen] at unselected
            simpa [Option.filter] using unselected
      refine ⟨?_, locked, ?_, ?_⟩
      · funext name other
        by_cases same : name = table
        · subst name
          by_cases mine : other = key
          · subst other
            rw [none] at own
            rw [own, holding.writes]
          · exact others other mine
        · rw [elsewhere name same, holding.writes]
      · rw [statement.base, statement.log]
        exact holding.fact
      · rw [statement.base, ← holding.writes, ← Server.row_view]
        exact none
  · change discipline.RunsUnder constraint tx _ (rest (((before.view tx table).row key).filter
      fun row => (change row).isSome))
    cases ((before.view tx table).row key).filter fun row => (change row).isSome with
    | none => exact missed
    | some row =>
        intro server invariant holds
        obtain ⟨new, becomes, holding⟩ := holds
        exact changed row new becomes server invariant holding

/-- The rows of a table are locked as they were read. -/
structure LocksRows (writes : WriteSet schema) (table : schema.Table)
    (entries : List (schema.Key table × schema.Row table)) (later : WriteSet schema) : Prop where
  elsewhere : ∀ other, other ≠ table → later other = writes other
  locked : ∀ key row, (key, row) ∈ entries → later table key = some (some row)
  others : ∀ key, (∀ row, (key, row) ∉ entries) → later table key = writes table key

/-- Rows are locked where they satisfy the condition. -/
theorem runs_selectForUpdate {table : schema.Table} {condition : schema.Row table → Bool}
    {rest : List (schema.Key table × schema.Row table) → ServerScript schema κ ε ι l Unit}
    (steady : Steady discipline writes locks fact)
    (continues : ∀ entries later, LocksRows writes table entries later →
      discipline.RunsUnder constraint tx
      (Holding tx later locks fun rows log => fact rows log ∧ ∀ key row, (key, row) ∈ entries →
        writes.apply rows table key = some row ∧ condition row = true) (rest entries)) :
    discipline.RunsUnder constraint tx (Holding tx writes locks fact)
      (ServerScript.selectForUpdate tx table condition >>= rest) := by
  refine runs_act (fun before _ after => ∃ later,
    LocksRows writes table ((before.view tx table).rows.filter fun entry => condition entry.2)
      later ∧ Holding tx later locks (fun rows log => fact rows log ∧ ∀ key row,
        (key, row) ∈ (before.view tx table).rows.filter (fun entry => condition entry.2) →
        writes.apply rows table key = some row ∧ condition row = true) after) steady.stable ?_ ?_
  · intro before input after invariant holding acted
    have statement := statement_execute acted
    obtain ⟨here, elsewhere⟩ := writes_execute acted
    have listed : ∀ key row,
        (key, row) ∈ (before.view tx table).rows.filter (fun entry => condition entry.2) ↔
        (before.view tx table).row key = some row ∧ condition row = true := by
      intro key row
      rw [List.mem_filter, Table.mem_rows_iff]
      constructor
      · rintro ⟨⟨_, seen⟩, selected⟩
        exact ⟨seen, selected⟩
      · rintro ⟨seen, selected⟩
        refine ⟨Table.mem_rows_iff.mp (mem_rows_view ?_), selected⟩
        rw [← Server.row_view]
        exact seen
    refine ⟨statement, after.writes tx, ⟨?_, ?_, ?_⟩, rfl, ?_, ?_, ?_⟩
    · intro other different
      rw [elsewhere other different, holding.writes]
    · intro key row member
      obtain ⟨seen, selected⟩ := (listed key row).mp member
      rw [here key, seen]
      simp [selected]
    · intro key missing
      have unselected : ((before.view tx table).row key).bind
          (fun row => if condition row then some row else none) = none := by
        cases seen : (before.view tx table).row key with
        | none => rfl
        | some row =>
            have dismissed : ¬condition row = true :=
              fun selected => missing row ((listed key row).mpr ⟨seen, selected⟩)
            simp [dismissed]
      rw [here key, unselected, holding.writes]
    · intro name member
      unfold Server.Locked
      rw [locks_execute acted]
      exact holding.locks name member
    · rw [statement.base, statement.log]
      exact holding.fact
    · intro key row member
      obtain ⟨seen, selected⟩ := (listed key row).mp member
      rw [Server.row_view, holding.writes] at seen
      rw [statement.base]
      exact ⟨seen, selected⟩
  · intro before input server invariant holds
    obtain ⟨later, locked, holding⟩ := holds
    exact continues _ later locked server invariant holding

/-- What an `UPDATE` has put: its new versions over those of the transaction. -/
structure UpdatesRows (writes : WriteSet schema) (rows : Rows schema) (table : schema.Table)
    (statement : schema.Key table → schema.Row table → Option (schema.Row table))
    (later : WriteSet schema) : Prop where
  elsewhere : ∀ other, other ≠ table → later other = writes other
  chosen : ∀ key old new, writes.apply rows table key = some old → statement key old = some new →
    later table key = some (some new)
  others : ∀ key, (writes.apply rows table key).bind (statement key) = none →
    later table key = writes table key

/-- The rows that an `UPDATE` selects are changed. -/
theorem runs_updateRows {table : schema.Table}
    {statement : Snapshot schema → schema.Key table → schema.Row table →
      Option (schema.Row table)}
    {rest : Unit → ServerScript schema κ ε ι l Unit}
    (newer : WriteSet schema → Rows schema → List ε → Prop)
    (steady : Steady discipline writes locks fact)
    (changes : ∀ server later, discipline.protocol.invariant server →
      Holding tx writes locks fact server →
      UpdatesRows writes server.base table (statement (server.view tx)) later →
      newer later server.base server.log)
    (continues : ∀ later, discipline.RunsUnder constraint tx
      (Holding tx later locks (newer later)) (rest ())) :
    discipline.RunsUnder constraint tx (Holding tx writes locks fact)
      (ServerScript.updateRows tx table statement >>= rest) := by
  refine runs_act (fun _ _ after => ∃ later, Holding tx later locks (newer later) after)
    steady.stable ?_ fun _ _ server invariant holds => ?_
  · intro before input after invariant holding acted
    have executed := statement_execute acted
    obtain ⟨here, elsewhere⟩ := writes_execute acted
    have updates : UpdatesRows writes before.base table (statement (before.view tx))
        (after.writes tx) := by
      refine ⟨fun other different => ?_, fun key old new seen becomes => ?_, fun key none => ?_⟩
      · rw [elsewhere other different, holding.writes]
      · rw [here key, Server.row_view, holding.writes, seen]
        simp [becomes]
      · rw [here key, Server.row_view, holding.writes, none]
    refine ⟨executed, after.writes tx, rfl, ?_, ?_⟩
    · intro name member
      unfold Server.Locked
      rw [locks_execute acted]
      exact holding.locks name member
    · rw [executed.base, executed.log]
      exact changes before _ invariant holding updates
  · obtain ⟨later, holding⟩ := holds
    exact continues later server invariant holding

/-- An `INSERT` that the unique index does not reject. -/
theorem runs_insertUnique {table : schema.Table} {key : schema.Key table} {row : schema.Row table}
    {conflicts : Snapshot schema → Bool} {rest : Bool → ServerScript schema κ ε ι l Unit}
    (newer : Rows schema → List ε → Prop) (steady : Steady discipline writes locks fact)
    (accepted : ∀ server, discipline.protocol.invariant server →
      Holding tx writes locks fact server → conflicts (server.view tx) = false)
    (absent : ∀ rows log, discipline.holds rows log → fact rows log →
      writes.apply rows table key = none → newer rows log)
    (continues : discipline.RunsUnder constraint tx
      (Holding tx (writes.put table key row) locks newer) (rest false)) :
    discipline.RunsUnder constraint tx (Holding tx writes locks fact)
      (ServerScript.insertUnique tx table key row conflicts >>= rest) := by
  refine runs_act (fun before _ after => conflicts (before.view tx) = false ∧
    Holding tx (writes.put table key row) locks newer after) steady.stable ?_
    fun before _ server invariant holds => ?_
  · intro before input after invariant holding acted
    have free := accepted before invariant holding
    rw [free] at acted
    simp only [Bool.false_eq_true, if_false] at acted
    split at acted
    · rename_i missing
      have statement := statement_insertRow acted
      rw [Server.row_view, holding.writes, Option.isNone_iff_eq_none] at missing
      refine ⟨statement, free, ?_, ?_, ?_⟩
      · rw [writes_insertRow acted, holding.writes]
      · intro name member
        unfold Server.Locked
        rw [locks_insertRow acted]
        exact holding.locks name member
      · rw [statement.base, statement.log]
        exact absent _ _ invariant.2 holding.fact missing
    · cases acted
  · change discipline.protocol.Safe constraint tx _ server (rest (conflicts (before.view tx)))
    rw [holds.1]
    exact continues server invariant holds.2

/-- An `UPDATE` of a row that is known to be there. -/
theorem runs_change {table : schema.Table} {key : schema.Key table} {row : schema.Row table}
    {becomes : schema.Row table → schema.Row table}
    {rest : Option (schema.Row table) → ServerScript schema κ ε ι l Unit}
    (steady : Steady discipline writes locks fact)
    (present : ∀ rows log, discipline.holds rows log → fact rows log →
      writes.apply rows table key = some row)
    (continues : discipline.RunsUnder constraint tx
      (Holding tx (writes.put table key (becomes row)) locks fact)
      (rest (some row))) :
    discipline.RunsUnder constraint tx (Holding tx writes locks fact)
      (ServerScript.changeRow tx table key (fun row => some (becomes row)) >>= rest) := by
  refine runs_changeRow (fun found rows log => found = row ∧ fact rows log) steady ?_ ?_ ?_
  · intro rows log found holds known seen
    have expected := present rows log holds known
    rw [seen] at expected
    exact ⟨Option.some.inj expected, known⟩
  · intro found new becomes server invariant holding
    obtain ⟨rfl, known⟩ := holding.fact
    cases becomes
    exact continues server invariant ⟨holding.writes, holding.locks, known⟩
  · intro server invariant holding
    obtain ⟨known, missing⟩ := holding.fact
    rw [present _ _ invariant.2 known] at missing
    cases missing

theorem runs_rollback {pre : Server schema κ ε → Prop} (stable : discipline.Stable tx pre) :
    discipline.RunsUnder constraint tx pre
      (ServerScript.rollback tx : ServerScript schema κ ε ι l Unit) := by
  refine runs_act (fun _ _ server => discipline.protocol.resting tx server) stable ?_
    fun _ _ => Protocol.valid_ret fun _ _ holds => holds
  intro before input after invariant holds acted
  cases acted
  refine ⟨statement_rollback, ?_, ?_⟩
  · funext table key
    exact Cell.pending_rollback tx ((before.tables table).cell key)
  · intro key
    simp [Server.Locked, Server.rollback]

/-- The obligations of a commit. -/
theorem runs_commit_bind {events : List ε} {rest : Unit → ServerScript schema κ ε ι l Unit}
    (steady : Steady discipline writes locks fact)
    (kept : ∀ rows log, discipline.holds rows log → fact rows log →
      discipline.holds (writes.apply rows) (events ++ log))
    (allowed : ∀ rows log, discipline.holds rows log → fact rows log → ∀ held : κ → Prop,
      (∀ key ∈ locks, ¬held key) →
      discipline.allows held rows log (writes.apply rows) (events ++ log))
    (continues : discipline.RunsUnder constraint tx (discipline.protocol.resting tx) (rest ())) :
    discipline.RunsUnder constraint tx (Holding tx writes locks fact)
      (ServerScript.commit tx events >>= rest) := by
  refine Protocol.valid_act (fun _ _ server => discipline.protocol.resting tx server)
    steady.stable ?_ fun _ _ => continues
  intro before input after invariant holding _ acted
  cases acted
  have base : (before.commit tx events).base = writes.apply before.base := by
    rw [base_commit, holding.writes]
  refine ⟨⟨?_, ?_⟩, fun other different => ⟨undisturbed_commit different events, ?_⟩, ?_, ?_⟩
  · exact exclusive_filter invariant.1 fun _ member => List.mem_of_mem_filter member
  · rw [base]
    exact kept _ _ invariant.2 holding.fact
  · rw [base]
    refine allowed _ _ invariant.2 holding.fact _ ?_
    intro key member held
    exact different (invariant.1 key other tx held (holding.locks key member))
  · exact writes_commit events
  · exact not_locked_commit events

omit [Inhabited l] in
theorem runs_pure :
    discipline.RunsUnder constraint tx (discipline.protocol.resting tx)
      (pure () : ServerScript schema κ ε ι l Unit) :=
  Protocol.valid_ret fun _ _ holds => holds

theorem runs_commit {events : List ε} (steady : Steady discipline writes locks fact)
    (kept : ∀ rows log, discipline.holds rows log → fact rows log →
      discipline.holds (writes.apply rows) (events ++ log))
    (allowed : ∀ rows log, discipline.holds rows log → fact rows log → ∀ held : κ → Prop,
      (∀ key ∈ locks, ¬held key) →
      discipline.allows held rows log (writes.apply rows) (events ++ log)) :
    discipline.RunsUnder constraint tx (Holding tx writes locks fact)
      (ServerScript.commit tx events : ServerScript schema κ ε ι l Unit) := by
  have ended : discipline.RunsUnder constraint tx (Holding tx writes locks fact)
      (ServerScript.commit tx events >>= fun _ => (pure () : ServerScript schema κ ε ι l Unit)) :=
    runs_commit_bind steady kept allowed runs_pure
  exact ended

/-- The obligations of a commit that a constraint speaks about. -/
theorem runs_marked_commit {label : l} {events : List ε} {pre : Server schema κ ε → Prop}
    (stable : discipline.Stable tx pre)
    (kept : ∀ server input, discipline.protocol.invariant server → pre server →
      constraint tx label server input →
      discipline.holds ((server.writes tx).apply server.base) (events ++ server.log))
    (allowed : ∀ server input other, discipline.protocol.invariant server → pre server →
      constraint tx label server input → other ≠ tx →
      discipline.allows (fun key => server.Locked key other) server.base server.log
        ((server.writes tx).apply server.base) (events ++ server.log)) :
    discipline.RunsUnder constraint tx pre
      (ServerScript.mark label
        (ServerScript.commit tx events : ServerScript schema κ ε ι l Unit)) := by
  refine Protocol.valid_act (fun _ _ server => discipline.protocol.resting tx server)
    stable ?_ fun _ _ => Protocol.valid_ret fun _ _ holds => holds
  intro before input after invariant holds constrained acted
  cases acted
  have base : (before.commit tx events).base = (before.writes tx).apply before.base :=
    base_commit events
  refine ⟨⟨?_, ?_⟩, fun other different => ⟨undisturbed_commit different events, ?_⟩,
    writes_commit events, not_locked_commit events⟩
  · exact exclusive_filter invariant.1 fun _ member => List.mem_of_mem_filter member
  · rw [base]
    exact kept before input invariant holds constrained
  · rw [base]
    exact allowed before input other invariant holds constrained different

/-- A `SELECT` that a constraint speaks about. -/
theorem runs_marked_select {label : l} {α : Type} {query : Snapshot schema → α}
    {rest : α → ServerScript schema κ ε ι l Unit} (newer : α → Rows schema → List ε → Prop)
    (steady : Steady discipline writes locks fact)
    (reads : ∀ server input, discipline.protocol.invariant server →
      Holding tx writes locks fact server → constraint tx label server input →
      newer (query (server.view tx)) server.base server.log)
    (continues : ∀ value, discipline.RunsUnder constraint tx
      (Holding tx writes locks (newer value)) (rest value)) :
    discipline.RunsUnder constraint tx (Holding tx writes locks fact)
      (ServerScript.mark label (ServerScript.select tx query) >>= rest) := by
  refine Protocol.valid_act (fun before _ after =>
    Holding tx writes locks (newer (query (before.view tx))) after) steady.stable ?_
    fun before _ => continues (query (before.view tx))
  intro before input after invariant holding constrained acted
  cases acted
  obtain ⟨kept, guaranteed⟩ := statement_kept (Statement.refl before) invariant
  exact ⟨kept, guaranteed, holding.writes, holding.locks,
    reads before input invariant holding constrained⟩

omit [Inhabited l] in
/-- A script that starts a transaction. -/
theorem runs_of_resting {script : ServerScript schema κ ε ι l Unit}
    (runs :
      discipline.RunsUnder constraint tx (Holding tx WriteSet.empty [] fun _ _ => True) script) :
    discipline.RunsUnder constraint tx (discipline.protocol.resting tx) script :=
  Protocol.Valid.mono runs (fun _ _ resting => ⟨resting.1, by simp, trivial⟩)
    fun _ _ _ holds => holds

omit [Inhabited l] in
/-- The rest of a script needs less. -/
theorem runs_weaken {script : ServerScript schema κ ε ι l Unit}
    {weaker : Rows schema → List ε → Prop}
    (implied : ∀ rows log, discipline.holds rows log → fact rows log → weaker rows log)
    (runs : discipline.RunsUnder constraint tx (Holding tx writes locks weaker) script) :
    discipline.RunsUnder constraint tx (Holding tx writes locks fact) script :=
  Protocol.Valid.mono runs (fun _ invariant holding =>
    ⟨holding.writes, holding.locks, implied _ _ invariant.2 holding.fact⟩) fun _ _ _ holds => holds

end

/-! ### Tame scripts

A script that writes only rows which a discipline does not look at needs no
assertion of its own. -/

section

variable [Inhabited l]
  {permits : (table : schema.Table) → schema.Key table → Option (schema.Row table) →
  schema.Row table → Prop}

/-- Every version that the transaction has put is permitted over the committed row. -/
def Tame (permits : (table : schema.Table) → schema.Key table → Option (schema.Row table) →
    schema.Row table → Prop) (tx : Nat) (server : Server schema κ ε) : Prop :=
  ∀ table key version, server.writes tx table key = some version →
    ∃ row, version = some row ∧ permits table key (server.base table key) row

theorem Tame.stable : discipline.Stable tx (Tame permits tx) := by
  intro before after _ _ relied tame table key version written
  obtain ⟨undisturbed, _⟩ := relied
  rw [undisturbed.writes] at written
  obtain ⟨row, same, permitted⟩ := tame table key version written
  refine ⟨row, same, ?_⟩
  rw [undisturbed.rows table key version written]
  exact permitted

/-- What the transaction reads is committed or permitted. -/
theorem Tame.view {server : Server schema κ ε} (tame : Tame permits tx server)
    {table : schema.Table} {key : schema.Key table} {row : schema.Row table}
    (seen : (server.view tx table).row key = some row) :
    server.base table key = some row ∨ permits table key (server.base table key) row := by
  rw [Server.row_view] at seen
  cases written : server.writes tx table key with
  | none =>
      rw [WriteSet.apply_of_none written] at seen
      exact Or.inl seen
  | some version =>
      obtain ⟨new, rfl, permitted⟩ := tame table key version written
      simp only [WriteSet.apply, written, Option.getD_some, Option.some.injEq] at seen
      subst seen
      exact Or.inr permitted

omit [Inhabited l] in
theorem tame_of_resting {script : ServerScript schema κ ε ι l Unit}
    (runs : discipline.RunsUnder constraint tx (Tame permits tx) script) :
    discipline.RunsUnder constraint tx (discipline.protocol.resting tx) script := by
  refine Protocol.Valid.mono runs (fun server _ resting => ?_) fun _ _ _ holds => holds
  intro table key version written
  rw [resting.1] at written
  cases written

theorem tame_insertRow {server after : Server schema κ ε} {table : schema.Table}
    {key : schema.Key table} {row : schema.Row table} (tame : Tame permits tx server)
    (permitted : permits table key (server.base table key) row)
    (inserted : server.insertRow tx table key row = some after) : Tame permits tx after := by
  have statement := statement_insertRow inserted
  intro name other version written
  rw [writes_insertRow inserted] at written
  rw [statement.base]
  by_cases same : name = table
  · subst name
    by_cases mine : other = key
    · subst other
      rw [WriteSet.put_self] at written
      exact ⟨row, (Option.some.inj written).symm, permitted⟩
    · rw [WriteSet.put_of_key_ne mine] at written
      exact tame table other version written
  · rw [WriteSet.put_of_table_ne same] at written
    exact tame name other version written

theorem tame_execute {server after : Server schema κ ε} {table : schema.Table}
    {change : schema.Key table → schema.Row table → Option (schema.Row table)}
    (tame : Tame permits tx server)
    (permitted : ∀ key base old new, base = some old ∨ permits table key base old →
      change key old = some new → permits table key base new)
    (executed : server.execute tx table change = some after) : Tame permits tx after := by
  have statement := statement_execute executed
  obtain ⟨here, elsewhere⟩ := writes_execute executed
  intro name key version written
  rw [statement.base]
  by_cases same : name = table
  · subst name
    rw [here key] at written
    split at written
    · rename_i new chosen
      obtain ⟨old, seen, becomes⟩ := Option.bind_eq_some_iff.mp chosen
      cases written
      exact ⟨new, rfl, permitted key _ old new (tame.view seen) becomes⟩
    · exact tame table key version written
  · rw [elsewhere name same] at written
    exact tame name key version written

section

variable {table : schema.Table}

theorem tame_insert {key : schema.Key table} {row : schema.Row table}
    {rest : Unit → ServerScript schema κ ε ι l Unit}
    (permitted : ∀ base, permits table key base row)
    (continues : discipline.RunsUnder constraint tx (Tame permits tx) (rest ())) :
    discipline.RunsUnder constraint tx (Tame permits tx)
      (ServerScript.insert tx table key row >>= rest) := by
  refine runs_act (fun _ _ => Tame permits tx) Tame.stable ?_ fun _ _ => continues
  intro before input after _ tame acted
  dsimp only at acted
  split at acted
  · exact ⟨statement_insertRow acted, tame_insertRow tame (permitted _) acted⟩
  · cases acted

theorem tame_insertIfAbsent {key : schema.Key table} {row : schema.Row table}
    {rest : Unit → ServerScript schema κ ε ι l Unit}
    (permitted : ∀ base, permits table key base row)
    (continues : discipline.RunsUnder constraint tx (Tame permits tx) (rest ())) :
    discipline.RunsUnder constraint tx (Tame permits tx)
      (ServerScript.insertIfAbsent tx table key row >>= rest) := by
  refine runs_act (fun _ _ => Tame permits tx) Tame.stable ?_ fun _ _ => continues
  intro before input after _ tame acted
  dsimp only at acted
  split at acted
  · exact ⟨statement_insertRow acted, tame_insertRow tame (permitted _) acted⟩
  · cases acted
    exact ⟨Statement.refl before, tame⟩

theorem tame_upsert {key : schema.Key table} {merge : Option (schema.Row table) → schema.Row table}
    {rest : Unit → ServerScript schema κ ε ι l Unit}
    (permitted : ∀ base old, permits table key base (merge old))
    (continues : discipline.RunsUnder constraint tx (Tame permits tx) (rest ())) :
    discipline.RunsUnder constraint tx (Tame permits tx)
      (ServerScript.upsert tx table key merge >>= rest) := by
  refine runs_act (fun _ _ => Tame permits tx) Tame.stable ?_ fun _ _ => continues
  intro before input after _ tame acted
  exact ⟨statement_insertRow acted, tame_insertRow tame (permitted _ _) acted⟩

theorem tame_changeRow {key : schema.Key table}
    {change : schema.Row table → Option (schema.Row table)}
    {rest : Option (schema.Row table) → ServerScript schema κ ε ι l Unit}
    (permitted : ∀ base old new, base = some old ∨ permits table key base old →
      change old = some new → permits table key base new)
    (continues : ∀ row, discipline.RunsUnder constraint tx (Tame permits tx) (rest row)) :
    discipline.RunsUnder constraint tx (Tame permits tx)
      (ServerScript.changeRow tx table key change >>= rest) := by
  refine runs_act (fun _ _ => Tame permits tx) Tame.stable ?_ fun _ _ => continues _
  intro before input after _ tame acted
  refine ⟨statement_execute acted, tame_execute tame ?_ acted⟩
  intro other base old new known becomes
  split at becomes
  · rename_i same
    subst same
    exact permitted base old new known becomes
  · cases becomes

theorem tame_updateRows
    {statement : Snapshot schema → schema.Key table → schema.Row table →
      Option (schema.Row table)}
    {rest : Unit → ServerScript schema κ ε ι l Unit}
    (permitted : ∀ view key base old new, base = some old ∨ permits table key base old →
      statement view key old = some new → permits table key base new)
    (continues : discipline.RunsUnder constraint tx (Tame permits tx) (rest ())) :
    discipline.RunsUnder constraint tx (Tame permits tx)
      (ServerScript.updateRows tx table statement >>= rest) := by
  refine runs_act (fun _ _ => Tame permits tx) Tame.stable ?_ fun _ _ => continues
  intro before input after _ tame acted
  exact ⟨statement_execute acted, tame_execute tame (permitted _) acted⟩

theorem tame_selectForUpdate {condition : schema.Row table → Bool}
    {rest : List (schema.Key table × schema.Row table) → ServerScript schema κ ε ι l Unit}
    (permitted : ∀ key base old, base = some old ∨ permits table key base old →
      permits table key base old)
    (continues : ∀ rows, discipline.RunsUnder constraint tx (Tame permits tx) (rest rows)) :
    discipline.RunsUnder constraint tx (Tame permits tx)
      (ServerScript.selectForUpdate tx table condition >>= rest) := by
  refine runs_act (fun _ _ => Tame permits tx) Tame.stable ?_ fun _ _ => continues _
  intro before input after _ tame acted
  refine ⟨statement_execute acted, tame_execute tame ?_ acted⟩
  intro key base old new known becomes
  split at becomes
  · cases becomes
    exact permitted key base old known
  · cases becomes

end

theorem tame_observe {α : Type} {value : Server schema κ ε → α}
    {rest : α → ServerScript schema κ ε ι l Unit}
    (continues : ∀ value, discipline.RunsUnder constraint tx (Tame permits tx) (rest value)) :
    discipline.RunsUnder constraint tx (Tame permits tx) (ServerScript.observe value >>= rest) :=
  runs_observe (fun _ => Tame permits tx) Tame.stable (fun _ _ tame => tame) continues

theorem tame_lock [DecidableEq κ] {key : κ} {rest : Unit → ServerScript schema κ ε ι l Unit}
    (continues : discipline.RunsUnder constraint tx (Tame permits tx) (rest ())) :
    discipline.RunsUnder constraint tx (Tame permits tx) (ServerScript.lock tx key >>= rest) := by
  refine runs_act (fun _ _ => Tame permits tx) Tame.stable ?_ fun _ _ => continues
  intro before input after invariant tame acted
  have statement := statement_acquire acted
  obtain ⟨rfl, _⟩ := acquire_eq_some acted
  exact ⟨statement, tame⟩

/-- Commits of tame transactions are harmless. -/
structure Harmless (discipline : Discipline schema κ ε)
    (permits : (table : schema.Table) → schema.Key table → Option (schema.Row table) →
      schema.Row table → Prop) (events : List ε) : Prop where
  kept : ∀ rows writes log, discipline.holds rows log →
    (∀ table key version, writes table key = some version →
      ∃ row, version = some row ∧ permits table key (rows table key) row) →
    discipline.holds (WriteSet.apply writes rows) (events ++ log)
  allowed : ∀ held rows writes log, discipline.holds rows log →
    (∀ table key version, writes table key = some version →
      ∃ row, version = some row ∧ permits table key (rows table key) row) →
    discipline.allows held rows log (WriteSet.apply writes rows) (events ++ log)

theorem Harmless.commit {events : List ε} (harmless : Harmless discipline permits events)
    {server : Server schema κ ε} (invariant : discipline.protocol.invariant server)
    (tame : Tame permits tx server) :
    discipline.protocol.invariant (server.commit tx events) ∧
      discipline.protocol.Guarantees tx server (server.commit tx events) ∧
      discipline.protocol.resting tx (server.commit tx events) := by
  refine ⟨⟨?_, ?_⟩, fun other different => ⟨undisturbed_commit different events, ?_⟩,
    writes_commit events, not_locked_commit events⟩
  · exact exclusive_filter invariant.1 fun _ member => List.mem_of_mem_filter member
  · rw [base_commit]
    exact harmless.kept _ _ _ invariant.2 tame
  · rw [base_commit]
    exact harmless.allowed _ _ _ _ invariant.2 tame

theorem tame_await {α : Type} {accepts : ι → Option α} {otherwise : α}
    {rest : α → ServerScript schema κ ε ι l Unit}
    (continues : ∀ value, discipline.RunsUnder constraint tx (Tame permits tx) (rest value)) :
    discipline.RunsUnder constraint tx (Tame permits tx)
      (ServerScript.await accepts otherwise >>= rest) :=
  runs_await Tame.stable continues

theorem tame_rollback :
    discipline.RunsUnder constraint tx (Tame permits tx)
      (ServerScript.rollback tx : ServerScript schema κ ε ι l Unit) :=
  runs_rollback Tame.stable

theorem tame_require {condition : Bool} {script : ServerScript schema κ ε ι l Unit}
    (continues : discipline.RunsUnder constraint tx (Tame permits tx) script) :
    discipline.RunsUnder constraint tx (Tame permits tx)
      (ServerScript.require condition tx script) := by
  unfold ServerScript.require
  split
  · exact continues
  · exact tame_rollback

theorem tame_commit_bind {events : List ε} {rest : Unit → ServerScript schema κ ε ι l Unit}
    (harmless : Harmless discipline permits events)
    (continues : discipline.RunsUnder constraint tx (discipline.protocol.resting tx) (rest ())) :
    discipline.RunsUnder constraint tx (Tame permits tx)
      (ServerScript.commit tx events >>= rest) := by
  refine Protocol.valid_act (fun _ _ server => discipline.protocol.resting tx server)
    Tame.stable ?_ fun _ _ => continues
  intro before input after invariant tame _ acted
  cases acted
  exact harmless.commit invariant tame

theorem tame_commit {events : List ε} (harmless : Harmless discipline permits events) :
    discipline.RunsUnder constraint tx (Tame permits tx)
      (ServerScript.commit tx events : ServerScript schema κ ε ι l Unit) := by
  refine Protocol.valid_act (fun _ _ server => discipline.protocol.resting tx server)
    Tame.stable ?_ fun _ _ => Protocol.valid_ret fun _ _ holds => holds
  intro before input after invariant tame _ acted
  cases acted
  exact harmless.commit invariant tame

end

/-! ### Systems -/

/-- Time passes. -/
def timePasses (before after : Server schema κ ε) : Prop :=
  ∃ elapsed : Nat, after = { before with clock := before.clock + elapsed }

/-- Processes that run the given operations on a server; a process that crashes
loses its transaction. -/
def serverSystem (operation : Nat → ServerScript schema κ ε ι l Unit → Prop) :
    System (Server schema κ ε) ι l Nat where
  operation := operation
  crash tx server := server.rollback tx
  environment := timePasses

theorem resting_stable : discipline.Stable tx (discipline.protocol.resting tx) := by
  intro before after _ _ relied resting
  obtain ⟨undisturbed, _⟩ := relied
  exact ⟨undisturbed.writes.trans resting.1, fun key =>
    (undisturbed.locks key).not.mpr (resting.2 key)⟩

/-- A system whose operations follow the discipline. -/
theorem follows {operation : Nat → ServerScript schema κ ε ι l Unit → Prop}
    (operations : ∀ tx script, operation tx script →
      discipline.RunsUnder constraint tx (discipline.protocol.resting tx) script) :
    discipline.protocol.Follows (serverSystem operation) constraint where
  restingStable _ := resting_stable
  operations := operations
  crashes tx server invariant := by
    have rolledBack : Statement tx server (server.rollback tx) := statement_rollback
    obtain ⟨kept, guaranteed⟩ := statement_kept rolledBack invariant
    refine ⟨kept, guaranteed, ?_, ?_⟩
    · funext table key
      exact Cell.pending_rollback tx ((server.tables table).cell key)
    · intro key
      simp [serverSystem, Server.Locked, Server.rollback]
  environments before after invariant passed := by
    obtain ⟨elapsed, rfl⟩ := passed
    refine ⟨invariant, fun tx => ⟨⟨rfl, fun _ => Iff.rfl, fun _ _ _ _ => rfl⟩, ?_⟩⟩
    exact discipline.still _ _ _

/-- No transaction is open and no lock is held. -/
def AtRest (server : Server schema κ ε) : Prop :=
  (∀ table key, ((server.tables table).cell key).held = none) ∧ server.locks = []

theorem atRest_new (clock : Int) : AtRest (Server.new clock : Server schema κ ε) :=
  ⟨fun _ _ => rfl, rfl⟩

theorem AtRest.resting {server : Server schema κ ε} (atRest : AtRest server) (tx : Nat) :
    discipline.protocol.resting tx server := by
  refine ⟨?_, ?_⟩
  · funext table key
    simp [Server.writes, Cell.pending, atRest.1, WriteSet.empty]
  · intro key
    simp [Server.Locked, atRest.2]

theorem AtRest.invariant {server : Server schema κ ε} (atRest : AtRest server)
    (holds : discipline.holds server.base server.log) : discipline.protocol.invariant server := by
  refine ⟨?_, holds⟩
  intro key first second left
  simp [Server.Locked, atRest.2] at left

/-- The committed rows and the histories of two states are related. -/
def Committed (related : Rows schema → List ε → Rows schema → List ε → Prop)
    (before after : Server schema κ ε) : Prop :=
  related before.base before.log after.base after.log

section

variable {operation : Nat → ServerScript schema κ ε ι l Unit → Prop}
  (follows : discipline.protocol.Follows (serverSystem operation) constraint)
  {server : Server schema κ ε} (atRest : AtRest server)
  (holds : discipline.holds server.base server.log)
  {config : Config (Server schema κ ε) ι l Nat}
  (reachable : (serverSystem operation).Reachable constraint (System.idle server) config)

include follows atRest holds reachable

/-- Along every run the discipline holds of the committed rows. -/
theorem holds_of_reachable : discipline.holds config.shared.base config.shared.log :=
  (follows.invariant_of_reachable (atRest.invariant holds) atRest.resting reachable).2

/-- Along every run each step is allowed by the discipline. -/
theorem allows_of_step {related : Rows schema → List ε → Rows schema → List ε → Prop}
    (implied : ∀ held rows log later laterLog,
      discipline.allows held rows log later laterLog → related rows log later laterLog)
    {target : Config (Server schema κ ε) ι l Nat}
    (step : (serverSystem operation).Step constraint config target) :
    related config.shared.base config.shared.log target.shared.base target.shared.log := by
  have states : Committed related config.shared target.shared := by
    refine follows.related_of_step (atRest.invariant holds) atRest.resting reachable ?_ ?_ step
    · intro state
      exact implied (fun _ => False) _ _ _ _ (discipline.still _ _ _)
    · intro actor before after relied
      exact implied _ _ _ _ _ relied.2
  exact states

end

end Discipline

end TennisAlerts.Database
