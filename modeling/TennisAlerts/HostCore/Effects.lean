import TennisAlerts.Concurrent.RelyGuarantee
import TennisAlerts.HostCore.Host

/-!
# Effects of scripts

A script does what a relation between hosts allows when each of its actions
does.  The rules below reduce a script to its statements, and a statement to
the change it makes to its table.
-/

namespace TennisAlerts.HostCore

open TennisAlerts.Concurrent TennisAlerts.Database

/-- Every action of the script, when it is taken, is a change of the relation. -/
def Script.Does {α : Type} (step : Host → Host → Prop) (script : Script α) : Prop :=
  Program.Forall (fun _ action => ∀ before input after,
    action before input = some after → step before after) script

namespace Script

variable {α β : Type} {step : Host → Host → Prop}

theorem Does.bind {script : Script α} {rest : α → Script β} (first : Does step script)
    (continues : ∀ value, Does step (rest value)) : Does step (script >>= rest) :=
  Program.Forall.bind first continues

theorem Does.mono {other : Host → Host → Prop} {script : Script α} (does : Does step script)
    (weaker : ∀ before after, step before after → other before after) :
    Does other script :=
  Program.Forall.mono
    (fun _ _ steps before input after acted => weaker _ _ (steps before input after acted)) does

/-- A script whose actions keep a protocol and a stable assertion is valid. -/
theorem Does.valid {protocol : Protocol Host Actor} {allowed : Actor → Label → Host → Input → Prop}
    {actor : Actor} {assertion : Host → Prop} {script : Script α} (does : Does step script)
    (stable : protocol.Stable actor assertion)
    (sound : ∀ before after, protocol.invariant before → assertion before → step before after →
      protocol.invariant after ∧ protocol.Guarantees actor before after ∧ assertion after) :
    protocol.Valid allowed actor assertion script fun _ => assertion := by
  apply Protocol.valid_of_forall stable
  refine Program.Forall.mono ?_ does
  intro label action steps before input after invariant holds _ acted
  exact sound before after invariant holds (steps before input after acted)

theorem does_pure (value : α) : Does step (pure value) :=
  trivial

theorem does_ite {condition : Prop} [Decidable condition] {first second : Script α}
    (yes : condition → Does step first) (no : ¬condition → Does step second) :
    Does step (if condition then first else second) := by
  split
  · exact yes ‹_›
  · exact no ‹_›

theorem does_when {condition : Prop} [Decidable condition] {script : Script Unit}
    (does : condition → Does step script) : Does step (when condition script) :=
  does_ite does fun _ => does_pure _

theorem does_forM {γ : Type} {body : γ → Script PUnit} (items : List γ)
    (each : ∀ item ∈ items, Does step (body item)) : Does step (items.forM body) :=
  Program.forall_forM items each

/-- An action that leaves the host as it is. -/
theorem does_act {label : Label} {action : Host → Input → Option Host}
    {next : Host → Input → Script α}
    (acts : ∀ before input after, action before input = some after → step before after)
    (rest : ∀ before input, Does step (next before input)) :
    Does step (.act label action next : Script α) :=
  ⟨acts, rest⟩

theorem does_observe {label : Label} {value : Host → α} (still : ∀ host, step host host) :
    Does step (observe label value) := by
  apply does_act
  · rintro before input after ⟨⟩
    exact still before
  · exact fun _ _ => does_pure _

theorem does_raise {value : α} : Does step (raise value : Script α) := by
  apply does_act
  · rintro before input after ⟨⟩
  · exact fun _ _ => does_pure _

/-- An input is read and the host stays as it is. -/
theorem does_input {label : Label} {action : Host → Input → Option Host}
    {value : Host → Input → α}
    (same : ∀ host input after, action host input = some after → after = host)
    (still : ∀ host, step host host) :
    Does step (.act label action fun host input => .ret (value host input) : Script α) := by
  apply does_act
  · intro before input after acted
    rw [same before input after acted]
    exact still before
  · exact fun _ _ => does_pure _

theorem does_awaitFlag (still : ∀ host, step host host) : Does step awaitFlag := by
  apply does_input _ still
  intro host input after acted
  cases input <;> cases acted
  rfl

theorem does_awaitWeather (still : ∀ host, step host host) : Does step awaitWeather := by
  apply does_input _ still
  intro host input after acted
  cases input <;> cases acted
  rfl

theorem does_awaitReport (still : ∀ host, step host host) : Does step awaitReport := by
  apply does_input _ still
  intro host input after acted
  cases input <;> cases acted
  rfl

theorem does_freshId {ρ : Type} {table : TableRef String ρ} (still : ∀ host, step host host) :
    Does step (freshId table) := by
  apply does_input _ still
  intro host input after acted
  cases input with
  | fresh id =>
      dsimp only at acted
      split at acted <;> cases acted
      rfl
  | _ => cases acted

variable {κ ρ : Type} {table : TableRef κ ρ} {tx : Tx}

/-- What a writing statement asks of a relation. -/
def Writes (step : Host → Host → Prop) (table : TableRef κ ρ) (tx : Tx)
    (statement : Host → κ → ρ → Option (Option ρ)) : Prop :=
  ∀ before, (table.get before).writable tx (statement before) = true →
    step before (table.put ((table.get before).write tx (statement before)) before)

theorem execute_eq_some {before after : Host} {statement : κ → ρ → Option (Option ρ)}
    (executed : before.execute table tx statement = some after) :
    (table.get before).writable tx statement = true ∧
      after = table.put ((table.get before).write tx statement) before := by
  unfold Host.execute at executed
  split at executed
  · cases executed
    exact ⟨‹_›, rfl⟩
  · cases executed

theorem does_update {statement : Snapshot → κ → ρ → Option ρ} {label : Label}
    (writes : Writes step table tx fun before key row =>
      (statement (before.view tx) key row).map some) :
    Does step (update table tx statement label) := by
  apply does_act
  · intro before input after executed
    obtain ⟨writable, rfl⟩ := execute_eq_some executed
    exact writes before writable
  · exact fun _ _ => does_pure _

theorem does_updateReturning {statement : Snapshot → κ → ρ → Option ρ} {returning : κ → ρ → α}
    (writes : Writes step table tx fun before key row =>
      (statement (before.view tx) key row).map some) :
    Does step (updateReturning table tx statement returning) := by
  apply does_act
  · intro before input after executed
    obtain ⟨writable, rfl⟩ := execute_eq_some executed
    exact writes before writable
  · exact fun _ _ => does_pure _

theorem does_delete {selects : κ → ρ → Bool}
    (writes : Writes step table tx fun _ key row =>
      if selects key row then some none else none) :
    Does step (delete table tx selects) := by
  apply does_act
  · intro before input after executed
    obtain ⟨writable, rfl⟩ := execute_eq_some executed
    exact writes before writable
  · exact fun _ _ => does_pure _

theorem does_lock {key : LockKey} {mode : LockMode}
    (locks : ∀ before, Host.mayLock before tx key mode = true →
      step before { before with locks := ⟨key, mode, tx⟩ :: before.locks }) :
    Does step (lock tx key mode) := by
  apply does_act
  · intro before input after acted
    dsimp only at acted
    split at acted
    · cases acted
      exact locks before ‹_›
    · cases acted
  · exact fun _ _ => does_pure _

theorem does_commit (commits : ∀ before : Host, step before (before.commit tx)) :
    Does step (commit tx) := by
  apply does_act
  · rintro before input after ⟨⟩
    exact commits before
  · exact fun _ _ => does_pure _

theorem does_commitRecording {event : Event} {label : Label}
    (commits : ∀ before : Host, step before ((before.commit tx).record event)) :
    Does step (commitRecording tx event label) := by
  apply does_act
  · rintro before input after ⟨⟩
    exact commits before
  · exact fun _ _ => does_pure _

variable [DecidableEq κ]

theorem insertRow_eq_some {before after : Host} {key : κ} {row : ρ}
    (inserted : before.insertRow table tx key row = some after) :
    ((table.get before).cell key).free tx = true ∧
      after = table.put ((table.get before).insert tx key row) before := by
  unfold Host.insertRow at inserted
  split at inserted
  · cases inserted
    exact ⟨‹_›, rfl⟩
  · cases inserted

theorem does_selectRowForUpdate {key : κ} {condition : ρ → Bool}
    (writes : Writes step table tx fun _ other row =>
      if other = key ∧ condition row then some (some row) else none) :
    Does step (selectRowForUpdate table tx key condition) := by
  apply does_act
  · intro before input after executed
    obtain ⟨writable, rfl⟩ := execute_eq_some executed
    exact writes before writable
  · exact fun _ _ => does_pure _

theorem does_insert {key : κ} {row : ρ}
    (inserts : ∀ before, ((table.get before).cell key).view tx = none →
      ((table.get before).cell key).free tx = true →
      step before (table.put ((table.get before).insert tx key row) before)) :
    Does step (insert table tx key row) := by
  apply does_act
  · intro before input after acted
    dsimp only at acted
    split at acted
    · rename_i absent
      obtain ⟨free, rfl⟩ := insertRow_eq_some acted
      exact inserts before (Option.isNone_iff_eq_none.mp absent) free
    · cases acted
  · exact fun _ _ => does_pure _

theorem does_upsert {key : κ} {merge : Option ρ → ρ}
    (inserts : ∀ before, ((table.get before).cell key).free tx = true →
      step before (table.put ((table.get before).insert tx key
        (merge (((table.get before).cell key).view tx))) before)) :
    Does step (upsert table tx key merge) := by
  apply does_act
  · intro before input after acted
    obtain ⟨free, rfl⟩ := insertRow_eq_some acted
    exact inserts before free
  · exact fun _ _ => does_pure _

theorem does_insertIfAbsent {key : κ} {row : ρ} (still : ∀ host, step host host)
    (inserts : ∀ before, ((table.get before).cell key).view tx = none →
      ((table.get before).cell key).free tx = true →
      step before (table.put ((table.get before).insert tx key row) before)) :
    Does step (insertIfAbsent table tx key row) := by
  apply does_act
  · intro before input after acted
    split at acted
    · split at acted
      · rename_i absent
        obtain ⟨free, rfl⟩ := insertRow_eq_some acted
        exact inserts before (Option.isNone_iff_eq_none.mp absent) free
      · cases acted
        exact still before
    · cases acted
  · exact fun _ _ => does_pure _

end Script

/-! ## Rows that a transaction holds -/

/-- The transaction holds a version with the property of every listed row. -/
def Holds {κ ρ : Type} (table : TableRef κ ρ) (tx : Tx) (keys : List κ) (property : ρ → Prop)
    (host : Host) : Prop :=
  ∀ key ∈ keys, ∃ row, ((table.get host).cell key).held = some (tx, some row) ∧ property row

/-- The version that a row lock puts: the one that is there. -/
def lockKeys {κ ρ : Type} [DecidableEq κ] (keys : List κ) (key : κ) (row : ρ) : Option ρ :=
  if key ∈ keys then some row else none

section

variable {κ ρ : Type} {table : TableRef κ ρ} {tx : Tx} {host : Host}

theorem lockKeys_eq [DecidableEq κ] (keys : List κ) :
    (fun key (row : ρ) => if key ∈ keys then some (some row) else none) =
      fun key row => (lockKeys keys key row).map some := by
  funext key row
  unfold lockKeys
  split <;> rfl

theorem eq_of_lockKeys [DecidableEq κ] {keys : List κ} {key : κ} {row new : ρ}
    (locked : lockKeys keys key row = some new) : new = row := by
  simp only [lockKeys, Option.ite_none_right_eq_some, Option.some.injEq] at locked
  exact locked.2.symm

theorem Holds.mono {keys listed : List κ} {property weaker : ρ → Prop}
    (holds : Holds table tx keys property host) (fewer : ∀ key ∈ listed, key ∈ keys)
    (implied : ∀ row, property row → weaker row) : Holds table tx listed weaker host := by
  intro key member
  obtain ⟨row, held, satisfied⟩ := holds key (fewer key member)
  exact ⟨row, held, implied row satisfied⟩

theorem Holds.of_unchanged {keys : List κ} {property : ρ → Prop} {after : Host}
    (holds : Holds table tx keys property host)
    (same : ∀ key row, ((table.get host).cell key).held = some (tx, row) →
      (table.get after).cell key = (table.get host).cell key) :
    Holds table tx keys property after := by
  intro key member
  obtain ⟨row, held, satisfied⟩ := holds key member
  refine ⟨row, ?_, satisfied⟩
  rw [same key _ held]
  exact held

/-- What a transaction holds it reads. -/
theorem Holds.view {keys : List κ} {property : ρ → Prop} (holds : Holds table tx keys property host)
    {key : κ} (member : key ∈ keys) :
    ∃ row, ((table.get host).cell key).view tx = some row ∧ property row := by
  obtain ⟨row, held, satisfied⟩ := holds key member
  exact ⟨row, by simp [Cell.view, held], satisfied⟩

theorem mem_lockable {table : TableRef String ρ} {order : ρ → Int}
    {condition : Snapshot → ρ → Bool} {limit : Nat} {entry : String × ρ}
    (member : entry ∈ Script.lockable table tx order condition limit host) :
    ((table.get host).cell entry.1).view tx = some entry.2 ∧
      condition (host.view tx) entry.2 = true := by
  have sorted := List.mem_of_mem_take member
  rw [List.mem_insertionSort, List.mem_filter, Bool.and_eq_true] at sorted
  exact ⟨(Table.mem_rows_iff.mp sorted.1).2, sorted.2.1⟩

/-- The rows that a `FOR UPDATE` returns are held as they were read. -/
theorem holds_lockable {table : TableRef String ρ} {order : ρ → Int}
    {condition : Snapshot → ρ → Bool} {limit : Nat} {property : ρ → Prop}
    (selected : ∀ snapshot row, condition snapshot row = true → property row) :
    Holds table tx ((Script.lockable table tx order condition limit host).map Prod.fst) property
      (table.put ((table.get host).write tx fun key row => (lockKeys
        ((Script.lockable table tx order condition limit host).map Prod.fst) key row).map some)
        host) := by
  intro key member
  obtain ⟨entry, locked, rfl⟩ := List.mem_map.mp member
  obtain ⟨seen, accepted⟩ := mem_lockable locked
  refine ⟨entry.2, ?_, selected _ _ accepted⟩
  rw [table.get_put]
  apply VersionedTable.held_write _ seen
  simp [lockKeys, member]

/-- An update of held rows. -/
theorem Holds.write {keys : List κ} {property weaker : ρ → Prop}
    {statement : κ → ρ → Option (Option ρ)} (holds : Holds table tx keys property host)
    (changes : ∀ key ∈ keys, ∀ row, property row →
      ∃ new, statement key row = some (some new) ∧ weaker new) :
    Holds table tx keys weaker (table.put ((table.get host).write tx statement) host) := by
  intro key member
  obtain ⟨row, seen, satisfied⟩ := holds.view member
  obtain ⟨new, chosen, kept⟩ := changes key member row satisfied
  refine ⟨new, ?_, kept⟩
  rw [table.get_put]
  exact VersionedTable.held_write key seen chosen

end

end TennisAlerts.HostCore
