import TennisAlerts.Properties.AvailabilityProtocol
import TennisAlerts.Properties.SingleSend

/-!
# The availability that readers see

An ingest holds the lock of its observation key from before it reads the stored state
until it commits.  So the ingests of one key take turns, and what is committed for the
key is what its latest observation says: an observation that comes late changes
nothing, and the order in which observations arrive does not matter.
-/

namespace TennisAlerts.HostCore

open TennisAlerts.Concurrent TennisAlerts.Database

/-! ## The ingest under its lock -/

/-- The process works on one key. -/
structure Working (actor : Actor) (key : String) (host : Host) : Prop where
  keyed : Keyed key (.work actor) host
  holds : HoldsOnly actor (fun tx other => tx = .work actor ∧ other = key) host

/-- The state row of the key was read for update, and nothing is written yet. -/
structure Reading (actor : Actor) (key : String) (read : Option ObservationRow) (host : Host) :
    Prop where
  working : Working actor key host
  base : (host.observations.cell key).base = read
  state : (host.observations.cell key).view (.work actor) = read
  times : ∀ eventKey, (host.availability.cell (key, eventKey)).view (.work actor) =
    (host.availability.cell (key, eventKey)).base

/-- What the process would commit for its key. -/
structure Draft (actor : Actor) (key : String) (read state : Option ObservationRow)
    (times : String → Option Int) (host : Host) : Prop where
  working : Working actor key host
  base : (host.observations.cell key).base = read
  state : (host.observations.cell key).view (.work actor) = state
  times : ∀ eventKey, (host.availability.cell (key, eventKey)).view (.work actor) = times eventKey

/-- A cell of another key stays as it is; one of the key may be held in a new version. -/
def WrittenFor {ρ : Type} (actor : Actor) (mine : Prop) (cell later : Cell Tx ρ) : Prop :=
  later = cell ∨
    mine ∧ cell.free (.work actor) = true ∧ ∃ row, later = cell.hold (Tx.work actor) row

/-- One statement of the process on the rows of its key. -/
structure DraftStep (actor : Actor) (key : String) (before after : Host) : Prop where
  locks : after.locks = before.locks
  log : after.log = before.log
  availability : ∀ pair, WrittenFor actor (pair.1 = key) (before.availability.cell pair)
    (after.availability.cell pair)
  observations : ∀ other, WrittenFor actor (other = key) (before.observations.cell other)
    (after.observations.cell other)

section

variable {digests : Digests} {actor : Actor} {key : String} {read state : Option ObservationRow}
  {times : String → Option Int} {before after : Host}
  {allowed : Actor → Label → Host → Input → Prop}

theorem WrittenFor.base {ρ : Type} {mine : Prop} {cell later : Cell Tx ρ}
    (written : WrittenFor actor mine cell later) : later.base = cell.base := by
  rcases written with rfl | ⟨_, _, row, rfl⟩ <;> rfl

theorem WrittenFor.change {ρ : Type} {mine : Prop} {puts : Tx → Option ρ → Option ρ → Prop}
    {cell later : Cell Tx ρ} (written : WrittenFor actor mine cell later)
    (permitted : mine → ∀ old new, puts (.work actor) old new) :
    cell.Change (ownTx actor) puts later := by
  rcases written with rfl | ⟨isMine, free, row, rfl⟩
  · exact .same
  · exact .hold (Tx.work actor) row rfl free (permitted isMine _ _)

theorem WrittenFor.held {ρ : Type} {mine : Prop} {cell later : Cell Tx ρ}
    (written : WrittenFor actor mine cell later) {tx : Tx} {row : Option ρ}
    (held : later.held = some (tx, row)) :
    cell.held = some (tx, row) ∨ tx = Tx.work actor ∧ mine := by
  rcases written with rfl | ⟨isMine, _, new, rfl⟩
  · exact .inl held
  · cases held
    exact .inr ⟨rfl, isMine⟩

theorem WrittenFor.of_write {κ ρ : Type} {mine : κ → Prop}
    {statement : κ → ρ → Option (Option ρ)} {table : VersionedTable Tx κ ρ}
    (writable : table.writable (.work actor) statement = true)
    (selects : ∀ other row new, statement other row = some new → mine other) (other : κ) :
    WrittenFor actor (mine other) (table.cell other)
      ((table.write (.work actor) statement).cell other) := by
  rcases VersionedTable.cell_write_cases writable other with
    ⟨same, _⟩ | ⟨row, new, _, chosen, free, held⟩
  · exact .inl same
  · exact .inr ⟨selects other row new chosen, free, new, held⟩

theorem WrittenFor.of_insert {κ ρ : Type} [DecidableEq κ] {mine : κ → Prop} {put : κ}
    {table : VersionedTable Tx κ ρ} (free : (table.cell put).free (.work actor) = true)
    (isMine : mine put) (row : ρ) (other : κ) :
    WrittenFor actor (mine other) (table.cell other)
      ((table.insert (.work actor) put row).cell other) := by
  by_cases same : other = put
  · subst same
    exact .inr ⟨isMine, free, some row, VersionedTable.cell_insert_self⟩
  · exact .inl (VersionedTable.cell_insert_of_ne same)

theorem DraftStep.working (step : DraftStep actor key before after)
    (working : Working actor key before) : Working actor key after := by
  constructor
  · rw [Keyed, step.locks]
    exact working.keyed
  · constructor
    · intro pair tx row own held
      rcases (step.availability pair).held held with held | mine
      · exact working.holds.availability pair tx row own held
      · exact mine
    · intro other tx row own held
      rcases (step.observations other).held held with held | mine
      · exact working.holds.observations other tx row own held
      · exact mine

theorem DraftStep.kept (step : DraftStep actor key before after)
    (invariant : AvailabilityInvariant digests before) (working : Working actor key before) :
    AvailabilityInvariant digests after ∧
      (availabilityProtocol digests).Guarantees actor before after := by
  have move : AvailabilityMove actor before after := by
    constructor
    · rw [step.locks]
      exact .same
    · intro pair
      apply (step.availability pair).change
      intro mine _ _
      rw [mine]
      exact working.keyed
    · intro other
      apply (step.observations other).change
      intro mine _ _
      rw [mine]
      exact working.keyed
  have same : SameCommitted before after := by
    constructor
    · exact fun pair => (step.availability pair).base
    · exact fun other => (step.observations other).base
    · rw [step.log]
  apply move.kept invariant
  · have workingAfter := step.working working
    apply workingAfter.holds.mono
    rintro tx other ⟨rfl, rfl⟩
    exact workingAfter.keyed
  · exact same.mirrors invariant

/-! ### Stability -/

theorem stable_keyed : (availabilityProtocol digests).Stable actor (Keyed key (.work actor)) := by
  intro before after _ _ relied keyed
  exact (relied.locks _ rfl).mpr keyed

theorem stable_working : (availabilityProtocol digests).Stable actor (Working actor key) := by
  intro before after invariant invariantAfter relied working
  constructor
  · exact stable_keyed invariant invariantAfter relied working.keyed
  · exact stable_holdsOnly invariant invariantAfter relied working.holds

theorem stable_reading :
    (availabilityProtocol digests).Stable actor (Reading actor key read) := by
  intro before after invariant invariantAfter relied reading
  have state := relied.observations key reading.working.keyed
  constructor
  · exact stable_working invariant invariantAfter relied reading.working
  · rw [state]
    exact reading.base
  · rw [state]
    exact reading.state
  · intro eventKey
    rw [relied.availability (key, eventKey) reading.working.keyed]
    exact reading.times eventKey

theorem stable_draft :
    (availabilityProtocol digests).Stable actor (Draft actor key read state times) := by
  intro before after invariant invariantAfter relied draft
  have same := relied.observations key draft.working.keyed
  constructor
  · exact stable_working invariant invariantAfter relied draft.working
  · rw [same]
    exact draft.base
  · rw [same]
    exact draft.state
  · intro eventKey
    rw [relied.availability (key, eventKey) draft.working.keyed]
    exact draft.times eventKey

/-! ### The end of the transaction -/

/-- The commit of an ingest publishes what the transaction reads for its key. -/
theorem Working.commit {observation : Observation} (working : Working actor observation.key before)
    (invariant : AvailabilityInvariant digests before)
    (mirrors : Mirrors digests
      (latestOf observation.key (.ingested observation :: before.log))
      ((before.observations.cell observation.key).view (.work actor))
      fun eventKey => (before.availability.cell (observation.key, eventKey)).view (.work actor)) :
    AvailabilityInvariant digests ((before.commit (.work actor)).record (.ingested observation)) ∧
      (availabilityProtocol digests).Guarantees actor before
        ((before.commit (.work actor)).record (.ingested observation)) ∧
      HoldsNothing actor ((before.commit (.work actor)).record (.ingested observation)) := by
  have move : AvailabilityMove actor before
      ((before.commit (.work actor)).record (.ingested observation)) := by
    have own : (Tx.work actor).actor = actor := rfl
    constructor
    · exact (lockChange_commit own before.locks).requests
    · exact fun pair => .of_commit rfl
    · exact fun key => .of_commit rfl
  have nothing : HoldsNothing actor
      ((before.commit (.work actor)).record (.ingested observation)) := by
    constructor
    · intro pair tx row own held
      rcases working.holds.availability pair tx row own (Cell.held_commit held) with ⟨rfl, _⟩
      exact (commit_of_held_foreign held).2 rfl
    · intro key tx row own held
      rcases working.holds.observations key tx row own (Cell.held_commit held) with ⟨rfl, _⟩
      exact (commit_of_held_foreign held).2 rfl
  have empty : HoldsOnly actor
      (fun tx key => Keyed key tx ((before.commit (.work actor)).record (.ingested observation)))
      ((before.commit (.work actor)).record (.ingested observation)) :=
    nothing.mono fun _ _ => False.elim
  have said : ∀ key, Mirrors digests (latestOf key (.ingested observation :: before.log))
      ((before.observations.cell key).commit (.work actor)).base
      fun eventKey => ((before.availability.cell (key, eventKey)).commit (.work actor)).base := by
    intro key
    by_cases mine : observation.key = key
    · subst mine
      simp only [Cell.base_commit_eq_view]
      exact mirrors
    · have unheldState : ∀ row,
          (before.observations.cell key).held ≠ some (Tx.work actor, row) := by
        intro row held
        exact mine (working.holds.observations key _ row rfl held).2.symm
      have unheldTimes : ∀ eventKey row,
          (before.availability.cell (key, eventKey)).held ≠ some (Tx.work actor, row) := by
        intro eventKey row held
        exact mine (working.holds.availability (key, eventKey) _ row rfl held).2.symm
      rw [latestOf_congr (observationsOf_ingested_of_ne mine), commit_eq_self unheldState,
        funext fun eventKey => congrArg Cell.base (commit_eq_self (unheldTimes eventKey))]
      exact invariant.mirrors key
  rcases move.kept invariant empty said with ⟨kept, guarantees⟩
  exact ⟨kept, guarantees, nothing⟩

theorem Mirrors.latest_eq_none {latest : Option Observation} {shown : String → Option Int}
    (mirrors : Mirrors digests latest none shown) : latest = none := by
  cases mirrors
  rfl

theorem Mirrors.exists_latest {latest : Option Observation} {row : ObservationRow}
    {shown : String → Option Int} (mirrors : Mirrors digests latest (some row) shown) :
    ∃ observation, latest = some observation ∧ Records digests observation row := by
  cases mirrors with
  | shown observation row records => exact ⟨observation, rfl, records⟩

/-- An observation that is earlier than the stored state leaves what is committed. -/
theorem Reading.mirrors {observation : Observation} {row : ObservationRow}
    (reading : Reading actor observation.key (some row) before)
    (invariant : AvailabilityInvariant digests before)
    (late : observation.checkedAt < row.lastSeenAt) :
    Mirrors digests (latestOf observation.key (.ingested observation :: before.log))
      ((before.observations.cell observation.key).view (.work actor))
      fun eventKey =>
        (before.availability.cell (observation.key, eventKey)).view (.work actor) := by
  have current := invariant.mirrors observation.key
  rw [reading.base] at current
  rw [reading.state, funext reading.times]
  rcases current.exists_latest with ⟨previous, stored, records⟩
  rw [records.lastSeenAt] at late
  rw [latestOf_ingested_of_late stored late, ← stored]
  exact current

/-- An observation that is no earlier than the stored state replaces it. -/
theorem Draft.mirrors {observation : Observation} {row : ObservationRow}
    (draft : Draft actor observation.key read (some row) (digests.shownAt observation) before)
    (invariant : AvailabilityInvariant digests before) (records : Records digests observation row)
    (timely : ∀ stored, read = some stored → stored.lastSeenAt ≤ observation.checkedAt) :
    Mirrors digests (latestOf observation.key (.ingested observation :: before.log))
      ((before.observations.cell observation.key).view (.work actor))
      fun eventKey =>
        (before.availability.cell (observation.key, eventKey)).view (.work actor) := by
  have current := invariant.mirrors observation.key
  rw [draft.base] at current
  have latest : latestOf observation.key (.ingested observation :: before.log) =
      some observation := by
    apply latestOf_ingested_of_timely
    intro previous stored
    cases read with
    | none =>
        rw [current.latest_eq_none] at stored
        cases stored
    | some kept =>
        rcases current.exists_latest with ⟨other, isLatest, recorded⟩
        rw [isLatest] at stored
        cases stored
        rw [← recorded.lastSeenAt]
        exact timely kept rfl
  rw [latest, draft.state, funext draft.times]
  exact .shown observation row records

/-! ### Statements -/

/-- One statement under the lock. -/
theorem valid_statement {α : Type} {label : Label} {action : Host → Input → Option Host}
    {value : Host → Input → α} {pre : Host → Prop} {post : α → Host → Prop}
    (stable : (availabilityProtocol digests).Stable actor pre)
    (works : ∀ host, pre host → Working actor key host)
    (steps : ∀ before input after, pre before → action before input = some after →
      DraftStep actor key before after ∧ post (value before input) after) :
    (availabilityProtocol digests).Valid allowed actor pre
      (.act label action fun host input => .ret (value host input) : Script α) post := by
  apply Protocol.valid_act (fun before input => post (value before input)) stable
  · intro before input after invariant holds _ acted
    rcases steps before input after holds acted with ⟨step, reached⟩
    rcases step.kept invariant (works before holds) with ⟨kept, guarantees⟩
    exact ⟨kept, guarantees, reached⟩
  · exact fun before input => Protocol.valid_ret fun _ _ reached => reached

theorem Draft.step {newState : Option ObservationRow} {newTimes : String → Option Int}
    (draft : Draft actor key read state times before) (step : DraftStep actor key before after)
    (isState : (after.observations.cell key).view (.work actor) = newState)
    (areTimes : ∀ eventKey,
      (after.availability.cell (key, eventKey)).view (.work actor) = newTimes eventKey) :
    Draft actor key read newState newTimes after := by
  constructor
  · exact step.working draft.working
  · rw [(step.observations key).base]
    exact draft.base
  · exact isState
  · exact areTimes

/-- A statement on the availability of the key. -/
theorem DraftStep.of_availability {table : VersionedTable Tx (String × String) Int}
    (written : ∀ pair, WrittenFor actor (pair.1 = key) (before.availability.cell pair)
      (table.cell pair)) : DraftStep actor key before { before with availability := table } :=
  ⟨rfl, rfl, written, fun _ => .inl rfl⟩

/-- A statement on the state row of the key. -/
theorem DraftStep.of_observations {table : VersionedTable Tx String ObservationRow}
    (written : ∀ other, WrittenFor actor (other = key) (before.observations.cell other)
      (table.cell other)) : DraftStep actor key before { before with observations := table } :=
  ⟨rfl, rfl, fun _ => .inl rfl, written⟩

theorem onKey_eq_some {κ ρ : Type} [DecidableEq κ] {mine other : κ} {change : ρ → ρ}
    {snapshot : Snapshot} {row : ρ} {new : Option ρ}
    (chosen : (onKey mine change snapshot other row).map some = some new) : other = mine := by
  unfold onKey at chosen
  split at chosen
  · assumption
  · cases chosen

/-- The state row of the key is changed. -/
theorem valid_setState {change : ObservationRow → ObservationRow} :
    (availabilityProtocol digests).Valid allowed actor (Draft actor key read state times)
      (Script.update .observations (.work actor) (onKey key change))
      fun _ => Draft actor key read (state.map change) times := by
  apply valid_statement stable_draft fun _ draft => draft.working
  intro before input after draft executed
  rcases Script.execute_eq_some executed with ⟨writable, rfl⟩
  have step := DraftStep.of_observations
    (WrittenFor.of_write writable fun other row new chosen => onKey_eq_some chosen)
  refine ⟨step, draft.step step ?_ draft.times⟩
  change ((before.observations.write _ _).cell key).view _ = _
  rw [VersionedTable.view_write, draft.state]
  cases state <;> simp [onKey]

/-- The state row of the key is put. -/
theorem valid_putState {merge : Option ObservationRow → ObservationRow} :
    (availabilityProtocol digests).Valid allowed actor (Draft actor key read state times)
      (Script.upsert .observations (.work actor) key merge)
      fun _ => Draft actor key read (some (merge state)) times := by
  apply valid_statement stable_draft fun _ draft => draft.working
  intro before input after draft acted
  rcases Script.insertRow_eq_some acted with ⟨free, rfl⟩
  have step : DraftStep actor key before
      { before with
        observations := before.observations.insert (.work actor) key
          (merge ((before.observations.cell key).view (.work actor))) } :=
    .of_observations (WrittenFor.of_insert free (by rfl) _)
  refine ⟨step, draft.step step ?_ draft.times⟩
  change ((before.observations.insert _ _ _).cell key).view _ = _
  rw [VersionedTable.cell_insert_self, Cell.view_hold]
  exact congrArg (fun row => some (merge row)) draft.state

/-- The availability of the key is deleted. -/
theorem valid_clearTimes :
    (availabilityProtocol digests).Valid allowed actor (Draft actor key read state times)
      (Script.delete .availability (.work actor) fun pair _ => pair.1 = key)
      fun _ => Draft actor key read state fun _ => none := by
  apply valid_statement stable_draft fun _ draft => draft.working
  intro before input after draft executed
  rcases Script.execute_eq_some executed with ⟨writable, rfl⟩
  have selects : ∀ (pair : String × String) (row : Int) new,
      (if decide (pair.1 = key) then some none else none : Option (Option Int)) = some new →
        pair.1 = key := by
    intro pair row new chosen
    by_contra other
    simp [other] at chosen
  have step := DraftStep.of_availability (WrittenFor.of_write writable selects)
  refine ⟨step, draft.step step draft.state ?_⟩
  intro eventKey
  change ((before.availability.write _ _).cell (key, eventKey)).view _ = _
  rw [VersionedTable.view_write]
  cases (before.availability.cell (key, eventKey)).view (.work actor) <;> simp

/-- One event key becomes available. -/
theorem valid_putTime {eventKey : String} {time : Int} :
    (availabilityProtocol digests).Valid allowed actor (Draft actor key read state times)
      (Script.insert .availability (.work actor) (key, eventKey) time)
      fun _ => Draft actor key read state (Function.update times eventKey (some time)) := by
  apply valid_statement stable_draft fun _ draft => draft.working
  intro before input after draft acted
  dsimp only at acted
  split at acted
  · rcases Script.insertRow_eq_some acted with ⟨free, rfl⟩
    have step : DraftStep actor key before
        { before with
          availability := before.availability.insert (.work actor) (key, eventKey) time } :=
      .of_availability (WrittenFor.of_insert free (by rfl) _)
    refine ⟨step, draft.step step draft.state ?_⟩
    intro other
    change ((before.availability.insert _ _ _).cell (key, other)).view _ = _
    by_cases same : other = eventKey
    · subst same
      rw [VersionedTable.cell_insert_self, Cell.view_hold, Function.update_self]
    · have different : (key, other) ≠ (key, eventKey) := by simpa using same
      rw [VersionedTable.cell_insert_of_ne different, Function.update_of_ne same]
      exact draft.times other
  · cases acted

/-- A statement on other tables. -/
structure Beside (before after : Host) : Prop where
  locks : after.locks = before.locks
  log : after.log = before.log
  availability : after.availability = before.availability
  observations : after.observations = before.observations

theorem Beside.refl (host : Host) : Beside host host :=
  ⟨rfl, rfl, rfl, rfl⟩

theorem Beside.step (beside : Beside before after) : DraftStep actor key before after := by
  constructor
  · exact beside.locks
  · exact beside.log
  · exact fun pair => .inl (by rw [beside.availability])
  · exact fun other => .inl (by rw [beside.observations])

theorem Beside.draft (beside : Beside before after)
    (draft : Draft actor key read state times before) :
    Draft actor key read state times after := by
  apply draft.step beside.step
  · rw [beside.observations]
    exact draft.state
  · rw [beside.availability]
    exact draft.times

theorem valid_besideWorking {α : Type} {script : Script α} {assertion : Host → Prop}
    (stable : (availabilityProtocol digests).Stable actor assertion)
    (works : ∀ host, assertion host → Working actor key host)
    (robust : ∀ before after, Beside before after → assertion before → assertion after)
    (does : Script.Does Beside script) :
    (availabilityProtocol digests).Valid allowed actor assertion script fun _ => assertion := by
  apply does.valid stable
  intro before after invariant holds beside
  rcases DraftStep.kept beside.step invariant (works before holds) with ⟨kept, guarantees⟩
  exact ⟨kept, guarantees, robust before after beside holds⟩

theorem valid_beside {α : Type} {script : Script α} (does : Script.Does Beside script) :
    (availabilityProtocol digests).Valid allowed actor (Draft actor key read state times) script
      fun _ => Draft actor key read state times :=
  valid_besideWorking stable_draft (fun _ draft => draft.working)
    (fun _ _ beside draft => beside.draft draft) does

theorem does_observe_beside {α : Type} {label : Label} {value : Host → α} :
    Script.Does Beside (Script.observe label value) :=
  Script.does_observe .refl

/-! ## The script -/

/-- The loop over the slots: an event key is current when a slot of the list has it, or
when it was current before. -/
theorem valid_putSlots {observation : Observation} {now : Int} (slots : List Slot)
    (times : String → Option Int) :
    (availabilityProtocol digests).Valid allowed actor
      (Draft actor observation.key read state times)
      (slots.forM fun slot => do
        let eventKey := digests.slotEventKey observation.venueId slot
        let _ ← Script.upsert .slots (.work actor) eventKey (upsertedSlot observation slot now)
        Script.insert .availability (.work actor) (observation.key, eventKey)
          observation.checkedAt)
      fun _ => Draft actor observation.key read state fun eventKey =>
        if eventKey ∈ slots.map (digests.slotEventKey observation.venueId) then
          some observation.checkedAt
        else times eventKey := by
  induction slots generalizing times with
  | nil =>
      apply Protocol.valid_ret
      intro host _ draft
      simpa using draft
  | cons slot slots ih =>
      apply Protocol.Valid.bind
      · apply Protocol.Valid.bind
        · exact valid_beside (Script.does_upsert fun _ _ => ⟨rfl, rfl, rfl, rfl⟩)
        · exact fun _ => valid_putTime
      intro _
      have same : (fun eventKey =>
          if eventKey ∈ (slot :: slots).map (digests.slotEventKey observation.venueId) then
            some observation.checkedAt
          else times eventKey) =
          fun eventKey =>
            if eventKey ∈ slots.map (digests.slotEventKey observation.venueId) then
              some observation.checkedAt
            else Function.update times (digests.slotEventKey observation.venueId slot)
              (some observation.checkedAt) eventKey := by
        funext eventKey
        by_cases isFirst : eventKey = digests.slotEventKey observation.venueId slot
        · simp [isFirst]
        · simp [isFirst]
      rw [same]
      exact ih _

theorem valid_putAvailability {observation : Observation} {now : Int} :
    (availabilityProtocol digests).Valid allowed actor
      (Draft actor observation.key read state fun _ => none)
      (Script.when observation.healthy (putAvailability actor digests observation now))
      fun _ => Draft actor observation.key read state (digests.shownAt observation) := by
  unfold Script.when
  split
  · rename_i healthy
    apply Protocol.Valid.mono (valid_putSlots observation.slots fun _ => none)
    · exact fun _ _ draft => draft
    · intro _ host _ draft
      have shown : digests.shownAt observation = fun eventKey =>
          if eventKey ∈ observation.slots.map (digests.slotEventKey observation.venueId) then
            some observation.checkedAt
          else none := by
        funext eventKey
        simp [Digests.shownAt, healthy]
      rw [shown]
      exact draft
  · rename_i unhealthy
    apply Protocol.valid_ret
    intro host _ draft
    have shown : digests.shownAt observation = fun _ => none := by
      funext eventKey
      simp [Digests.shownAt, unhealthy]
    rw [shown]
    exact draft

theorem does_matchSlots_beside {observation : Observation}
    {subscriptions : List ActiveSubscription} {rules : List ((String × Int) × PauseRow)}
    {now : Int} :
    Script.Does Beside (matchSlots actor digests observation subscriptions rules now) := by
  apply Script.does_forM
  intro slot _
  apply Script.does_forM
  intro subscription _
  apply Script.does_ite
  · intro _
    apply Script.Does.bind (Script.does_insertIfAbsent .refl fun _ _ _ => ⟨rfl, rfl, rfl, rfl⟩)
    intro inserted
    apply Script.does_ite
    · intro _
      apply Script.Does.bind (Script.does_freshId .refl)
      intro id
      apply Script.does_act
      · intro before input after acted
        dsimp only at acted
        split at acted
        · cases acted
        · split at acted
          · cases acted
            exact .refl before
          · split at acted
            · rcases Script.insertRow_eq_some acted with ⟨_, rfl⟩
              exact ⟨rfl, rfl, rfl, rfl⟩
            · cases acted
      · exact fun _ _ => Script.does_pure _
    · intro _
      apply Script.does_ite
      · exact fun _ => Script.does_update fun _ _ => ⟨rfl, rfl, rfl, rfl⟩
      · exact fun _ => Script.does_pure _
  · exact fun _ => Script.does_pure _

/-- The commit of an accepted observation. -/
theorem valid_publish {observation : Observation} {row : ObservationRow}
    (records : Records digests observation row)
    (timely : ∀ stored, read = some stored → stored.lastSeenAt ≤ observation.checkedAt) :
    (availabilityProtocol digests).Valid allowed actor
      (Draft actor observation.key read (some row) (digests.shownAt observation))
      (Script.commitRecording (.work actor) (.ingested observation))
      fun _ => HoldsNothing actor := by
  apply Protocol.valid_act (fun _ _ => HoldsNothing actor) stable_draft
  · rintro before input after invariant draft _ ⟨⟩
    exact draft.working.commit invariant (draft.mirrors invariant records timely)
  · exact fun _ _ => Protocol.valid_ret fun _ _ nothing => nothing

theorem valid_acceptObservation {observation : Observation} {generation : Nat} {begun now : Int}
    (timely : ∀ stored, read = some stored → stored.lastSeenAt ≤ observation.checkedAt) :
    (availabilityProtocol digests).Valid allowed actor
      (Draft actor observation.key read read times)
      (acceptObservation actor digests observation generation read begun now)
      fun _ => HoldsNothing actor := by
  apply Protocol.Valid.bind _ valid_clearTimes
  intro _
  apply Protocol.Valid.bind _ valid_putAvailability
  intro _
  apply Protocol.Valid.bind _ valid_setState
  intro _
  apply Protocol.Valid.bind _ (valid_beside does_observe_beside)
  intro subscriptions
  apply Protocol.Valid.bind _ (valid_beside does_observe_beside)
  intro rules
  dsimp only
  split
  · rename_i unchanged
    cases read with
    | none => cases unchanged
    | some row =>
        have sameFingerprint : row.fingerprint = digests.fingerprint observation := by
          simp only [Option.any_some, Bool.and_eq_true, decide_eq_true_eq] at unchanged
          exact unchanged.1.1
        apply Protocol.Valid.bind _ valid_setState
        exact fun _ => valid_publish ⟨rfl, rfl, sameFingerprint⟩ timely
  · apply Protocol.Valid.bind
    · unfold Script.when
      split
      · exact valid_beside does_matchSlots_beside
      · exact Protocol.valid_ret fun _ _ draft => draft
    intro _
    apply Protocol.Valid.bind _ valid_putState
    intro _
    apply Protocol.Valid.bind _ valid_setState
    intro _
    apply valid_publish _ timely
    cases read <;> exact ⟨rfl, rfl, rfl⟩

/-! ### Before the draft -/

theorem valid_bystander {α : Type} {script : Script α}
    (does : Script.Does (BystanderStep actor) script) :
    (availabilityProtocol digests).Valid allowed actor (HoldsNothing actor) script
      fun _ => HoldsNothing actor :=
  does.valid stable_holdsOnly fun _ _ invariant nothing step => step.kept invariant nothing

/-- The lock of the key is held and nothing else. -/
structure Opened (actor : Actor) (key : String) (host : Host) : Prop where
  working : Working actor key host
  nothing : HoldsNothing actor host

theorem stable_opened : (availabilityProtocol digests).Stable actor (Opened actor key) := by
  intro before after invariant invariantAfter relied opened
  constructor
  · exact stable_working invariant invariantAfter relied opened.working
  · exact stable_holdsOnly invariant invariantAfter relied opened.nothing

theorem Beside.opened (beside : Beside before after) (opened : Opened actor key before) :
    Opened actor key after := by
  constructor
  · exact DraftStep.working beside.step opened.working
  · have same : SameRows before after := by
      constructor
      · exact fun pair => by rw [beside.availability]
      · exact fun other => by rw [beside.observations]
      · rw [beside.log]
    exact same.holdsOnly opened.nothing

theorem valid_lockKey {number : Nat} :
    (availabilityProtocol digests).Valid allowed (.request number)
      (HoldsNothing (.request number))
      (Script.lock (.work (.request number)) (.observation key) .exclusive)
      fun _ => Opened (.request number) key := by
  apply Protocol.valid_act (fun _ _ => Opened (.request number) key) stable_holdsOnly
  · intro before input after invariant nothing _ acted
    dsimp only at acted
    split at acted
    · rename_i free
      cases acted
      have step : BystanderStep (.request number) before
          { before with
            locks := ⟨.observation key, .exclusive, .work (.request number)⟩ :: before.locks } :=
        .lock rfl free
      rcases step.kept invariant nothing with ⟨kept, guarantees, nothingAfter⟩
      have keyed : Keyed key (.work (.request number))
          { before with
            locks := ⟨.observation key, .exclusive, .work (.request number)⟩ :: before.locks } :=
        mem_requestLocks_iff.mpr ⟨List.mem_cons_self, rfl⟩
      have working : Working (.request number) key _ :=
        ⟨keyed, nothingAfter.mono fun _ _ => False.elim⟩
      exact ⟨kept, guarantees, working, nothingAfter⟩
    · cases acted
  · exact fun _ _ => Protocol.valid_ret fun _ _ opened => opened

theorem filter_all {α : Type} (value : Option α) : value.filter (fun _ => true) = value := by
  cases value <;> rfl

theorem valid_readState :
    (availabilityProtocol digests).Valid allowed actor (Opened actor key)
      (Script.selectRowForUpdate .observations (.work actor) key fun _ => true)
      fun read => Reading actor key read := by
  apply valid_statement stable_opened fun _ opened => opened.working
  intro before input after opened executed
  rcases Script.execute_eq_some executed with ⟨writable, rfl⟩
  have selects : ∀ other (row : ObservationRow) new,
      (if other = key ∧ true = true then some (some row) else none) = some new → other = key := by
    intro other row new chosen
    by_contra different
    simp [different] at chosen
  have step := DraftStep.of_observations (WrittenFor.of_write writable selects)
  have seen : (before.observations.cell key).view (.work actor) =
      (before.observations.cell key).base :=
    view_eq_base fun row held => opened.nothing.observations key _ row rfl held
  refine ⟨step, step.working opened.working, ?_, ?_, ?_⟩
  · change ((before.observations.write _ _).cell key).base =
      ((before.observations.cell key).view (.work actor)).filter fun _ => true
    rw [filter_all, seen]
    exact (step.observations key).base
  · change ((before.observations.write _ _).cell key).view _ =
      ((before.observations.cell key).view (.work actor)).filter fun _ => true
    rw [VersionedTable.view_write, filter_all]
    cases (before.observations.cell key).view (.work actor) <;> simp
  · intro eventKey
    exact view_eq_base fun row held =>
      opened.nothing.availability (key, eventKey) _ row rfl held

theorem valid_ignore {observation : Observation} {row : ObservationRow}
    (late : observation.checkedAt < row.lastSeenAt) :
    (availabilityProtocol digests).Valid allowed actor
      (Reading actor observation.key (some row))
      (Script.commitRecording (.work actor) (.ingested observation))
      fun _ => HoldsNothing actor := by
  apply Protocol.valid_act (fun _ _ => HoldsNothing actor) stable_reading
  · rintro before input after invariant reading _ ⟨⟩
    exact reading.working.commit invariant (reading.mirrors invariant late)
  · exact fun _ _ => Protocol.valid_ret fun _ _ nothing => nothing

theorem valid_ingestObservation {number : Nat} {observation : Observation} :
    (availabilityProtocol digests).Valid allowed (.request number)
      (HoldsNothing (.request number))
      (ingestObservation (.request number) digests observation)
      fun _ => HoldsNothing (.request number) := by
  have own : (Tx.work (.request number)).actor = .request number := rfl
  apply Protocol.Valid.bind _ (valid_bystander (Script.does_observe BystanderStep.idle))
  intro begun
  apply Protocol.Valid.bind _
    (valid_bystander (Script.does_lock fun _ free => BystanderStep.lock own free))
  intro _
  apply Protocol.Valid.bind _ (valid_bystander (Script.does_observe BystanderStep.idle))
  intro now
  apply Protocol.Valid.bind _ valid_lockKey
  intro _
  apply Protocol.Valid.bind _
    (valid_besideWorking stable_opened (fun _ opened => opened.working)
      (fun _ _ beside opened => beside.opened opened)
      (Script.does_upsert fun _ _ => ⟨rfl, rfl, rfl, rfl⟩))
  intro _
  apply Protocol.Valid.bind _
    (valid_besideWorking stable_opened (fun _ opened => opened.working)
      (fun _ _ beside opened => beside.opened opened) does_observe_beside)
  intro generation
  apply Protocol.Valid.bind _ valid_readState
  intro read
  split
  · rename_i older
    cases read with
    | none => cases older
    | some row =>
        have late : observation.checkedAt < row.lastSeenAt := by simpa using older
        exact valid_ignore late
  · rename_i notOlder
    have timely : ∀ stored, read = some stored → stored.lastSeenAt ≤ observation.checkedAt := by
      rintro stored rfl
      simpa using notOlder
    intro host invariant reading
    have draft : Draft (.request number) observation.key read read
        (fun eventKey => (host.availability.cell (observation.key, eventKey)).base) host :=
      ⟨reading.working, reading.base, reading.state, reading.times⟩
    exact valid_acceptObservation timely host invariant draft

end

/-! ## Whole runs -/

/-- A crash drops what the process held and publishes nothing. -/
theorem AvailabilityInvariant.crash {digests : Digests} {host : Host}
    (invariant : AvailabilityInvariant digests host) (actor : Actor) :
    AvailabilityInvariant digests (host.crash actor) ∧
      (availabilityProtocol digests).Guarantees actor host (host.crash actor) ∧
      HoldsNothing actor (host.crash actor) := by
  have move : AvailabilityMove actor host (host.crash actor) := by
    constructor
    · exact plainMove_crash.locks.requests
    · exact fun pair => .of_rollbackAll own_of_mem_connections
    · exact fun key => .of_rollbackAll own_of_mem_connections
  have nothing : HoldsNothing actor (host.crash actor) := by
    constructor
    · exact fun pair tx row own held => not_held_process own held
    · exact fun key tx row own held => not_held_process own held
  have holds : HoldsOnly actor (fun tx key => Keyed key tx (host.crash actor))
      (host.crash actor) :=
    nothing.mono fun _ _ => False.elim
  have same : SameCommitted host (host.crash actor) := by
    constructor
    · exact fun pair => base_rollback_process _ actor
    · exact fun key => base_rollback_process _ actor
    · rfl
  rcases move.kept invariant holds (same.mirrors invariant) with ⟨kept, guarantees⟩
  exact ⟨kept, guarantees, nothing⟩

theorem availabilityProtocol_follows (digests : Digests) (deployed : Settings → Prop)
    (allowed : Actor → Label → Host → Input → Prop) :
    (availabilityProtocol digests).Follows (hostSystem digests deployed) allowed where
  restingStable _ := stable_holdsOnly
  operations actor program operation := by
    rcases BystanderStep.does_operation operation with does | ⟨number, observation, rfl, rfl⟩
    · exact valid_bystander does
    · exact valid_ingestObservation
  crashes actor host invariant := invariant.crash actor
  environments before after invariant passes := by
    rcases passes with ⟨elapsed, rfl⟩
    constructor
    · exact ⟨invariant.exclusion, invariant.availability, invariant.observations,
        invariant.mirrors⟩
    · exact fun actor => ⟨fun _ _ => Iff.rfl, fun _ _ => rfl, fun _ _ => rfl,
        fun _ _ _ _ held => held, fun _ _ _ _ held => held⟩

/-- A host that has ingested nothing. -/
structure Unobserved (host : Host) : Prop where
  history : ingests host.log = []
  locks : requestLocks host.locks = []
  availability : ∀ pair, host.availability.cell pair = Cell.empty
  observations : ∀ key, host.observations.cell key = Cell.empty

theorem Unobserved.invariant {digests : Digests} {host : Host} (unobserved : Unobserved host) :
    AvailabilityInvariant digests host where
  exclusion first member := by
    rw [unobserved.locks] at member
    cases member
  availability pair tx row held := by
    rw [unobserved.availability pair] at held
    cases held
  observations key tx row held := by
    rw [unobserved.observations key] at held
    cases held
  mirrors key := by
    rw [latestOf, observationsOf, unobserved.history, unobserved.observations key,
      funext fun eventKey => congrArg Cell.base (unobserved.availability (key, eventKey))]
    exact .nothing

theorem Unobserved.holdsNothing {host : Host} (unobserved : Unobserved host) (actor : Actor) :
    HoldsNothing actor host := by
  constructor
  · intro pair tx row _ held
    rw [unobserved.availability pair] at held
    cases held
  · intro key tx row _ held
    rw [unobserved.observations key] at held
    cases held

theorem Mirrors.eq_some_iff {digests : Digests} {latest : Option Observation}
    {state : Option ObservationRow} {times : String → Option Int}
    (mirrors : Mirrors digests latest state times) {eventKey : String} {time : Int} :
    times eventKey = some time ↔ ∃ observation, latest = some observation ∧
      observation.healthy = true ∧
      eventKey ∈ observation.slots.map (digests.slotEventKey observation.venueId) ∧
      observation.checkedAt = time := by
  cases mirrors with
  | nothing => simp
  | shown observation row records =>
      simp only [Digests.shownAt, Option.ite_none_right_eq_some, Option.some.injEq, and_assoc,
        exists_eq_left']

/-- The rows of the availability that a sender reads are the committed ones. -/
theorem AvailabilityInvariant.mem_rows_iff {digests : Digests} {host : Host}
    (invariant : AvailabilityInvariant digests host) {reader : Tx} (sends : reader.serves = false)
    {pair : String × String} {time : Int} :
    (pair, time) ∈ (host.availability.view reader).rows ↔
      (host.availability.cell pair).base = some time := by
  have unheld : ∀ row, (host.availability.cell pair).held ≠ some (reader, row) := by
    intro row held
    have keyed := invariant.availability pair _ row held
    have serves := (mem_requestLocks_iff.mp keyed).2
    rw [sends] at serves
    cases serves
  rw [Table.mem_rows_iff, VersionedTable.row_view, view_eq_base unheld, and_iff_right_iff_imp]
  intro stored
  by_contra missing
  rw [host.availability.complete pair missing] at stored
  cases stored

section

variable {digests : Digests} {deployed : Settings → Prop}
  {allowed : Actor → Label → Host → Input → Prop} {host : Host}
  {config : Config Host Input Label Actor}
  (unobserved : Unobserved host)
  (reachable : (hostSystem digests deployed).Reachable allowed (System.idle host) config)

include unobserved reachable

theorem availabilityInvariant_of_reachable : AvailabilityInvariant digests config.shared :=
  (availabilityProtocol_follows digests deployed allowed).invariant_of_reachable
    unobserved.invariant unobserved.holdsNothing reachable

/-- In every run, what is committed for an observation key is what its latest observation
says: the state row records it, and the current event keys are those it shows. -/
theorem mirrors_latest (key : String) :
    Mirrors digests (latestOf key config.shared.log) (config.shared.observations.cell key).base
      fun eventKey => (config.shared.availability.cell (key, eventKey)).base :=
  (availabilityInvariant_of_reachable unobserved reachable).mirrors key

/-- What a sender finds current is what the latest observations show. -/
theorem seenRecently_iff {reader : Tx} (sends : reader.serves = false) (eventKey : String)
    (now : Int) :
    (config.shared.view reader).seenRecently eventKey now = true ↔
      ∃ key observation, latestOf key config.shared.log = some observation ∧
        observation.healthy = true ∧
        eventKey ∈ observation.slots.map (digests.slotEventKey observation.venueId) ∧
        now - minutes 15 < observation.checkedAt := by
  have invariant := availabilityInvariant_of_reachable unobserved reachable
  simp only [Snapshot.seenRecently, List.any_eq_true, Bool.and_eq_true, decide_eq_true_eq]
  constructor
  · rintro ⟨⟨⟨key, _⟩, time⟩, member, rfl, recent⟩
    have stored := (invariant.mem_rows_iff sends).mp member
    rcases (invariant.mirrors key).eq_some_iff.mp stored with
      ⟨observation, latest, healthy, shown, rfl⟩
    exact ⟨key, observation, latest, healthy, shown, recent⟩
  · rintro ⟨key, observation, latest, healthy, shown, recent⟩
    have stored := (invariant.mirrors key).eq_some_iff.mpr
      ⟨observation, latest, healthy, shown, rfl⟩
    exact ⟨((key, eventKey), observation.checkedAt), (invariant.mem_rows_iff sends).mpr stored,
      rfl, recent⟩

end

/-! ## Runs that saw the same -/

theorem argmax_congr {α τ : Type} [LinearOrder τ] {time : α → τ} {first second : List α}
    (same : ∀ entry, entry ∈ first ↔ entry ∈ second)
    (distinct : ∀ one ∈ first, ∀ other ∈ first, time one = time other → one = other) :
    first.argmax time = second.argmax time := by
  cases found : first.argmax time with
  | none =>
      rw [List.argmax_eq_none] at found
      subst found
      rw [eq_comm, List.argmax_eq_none, List.eq_nil_iff_forall_not_mem]
      intro entry member
      cases (same entry).mpr member
  | some kept =>
      have member := List.argmax_mem found
      cases found' : second.argmax time with
      | none =>
          rw [List.argmax_eq_none.mp found'] at same
          cases (same kept).mp member
      | some other =>
          have inFirst := (same other).mpr (List.argmax_mem found')
          have equal : time kept = time other :=
            le_antisymm (List.le_of_mem_argmax ((same kept).mp member) found')
              (List.le_of_mem_argmax inFirst found)
          rw [distinct kept member other inFirst equal]

/-- What a state row says of its observation. -/
def ObservationRow.seen (row : ObservationRow) : Int × Bool × String :=
  (row.lastSeenAt, row.healthy, row.fingerprint)

theorem Mirrors.unique {digests : Digests} {latest : Option Observation}
    {state state' : Option ObservationRow} {times times' : String → Option Int}
    (first : Mirrors digests latest state times) (second : Mirrors digests latest state' times') :
    state.map ObservationRow.seen = state'.map ObservationRow.seen ∧ times = times' := by
  cases first with
  | nothing =>
      cases second
      exact ⟨rfl, rfl⟩
  | shown observation row records =>
      cases second with
      | shown _ other recorded =>
          have same : row.seen = other.seen := by
            simp [ObservationRow.seen, records.lastSeenAt, records.healthy, records.fingerprint,
              recorded.lastSeenAt, recorded.healthy, recorded.fingerprint]
          exact ⟨congrArg some same, rfl⟩

/-- Two runs that committed the same observations of a key, at distinct times, end with
the same rows for the key, in whatever order the observations came. -/
theorem sameRows_of_sameObservations {digests : Digests} {deployed deployed' : Settings → Prop}
    {allowed allowed' : Actor → Label → Host → Input → Prop} {host host' : Host}
    {config config' : Config Host Input Label Actor} (unobserved : Unobserved host)
    (reachable : (hostSystem digests deployed).Reachable allowed (System.idle host) config)
    (unobserved' : Unobserved host')
    (reachable' : (hostSystem digests deployed').Reachable allowed' (System.idle host') config')
    (key : String)
    (same : ∀ observation, observation ∈ observationsOf key config.shared.log ↔
      observation ∈ observationsOf key config'.shared.log)
    (distinct : ∀ one ∈ observationsOf key config.shared.log,
      ∀ other ∈ observationsOf key config.shared.log, one.checkedAt = other.checkedAt →
        one = other) :
    (config.shared.observations.cell key).base.map ObservationRow.seen =
        (config'.shared.observations.cell key).base.map ObservationRow.seen ∧
      (fun eventKey => (config.shared.availability.cell (key, eventKey)).base) =
        fun eventKey => (config'.shared.availability.cell (key, eventKey)).base := by
  have latest : latestOf key config.shared.log = latestOf key config'.shared.log :=
    argmax_congr same distinct
  have mirrors := mirrors_latest unobserved reachable key
  rw [latest] at mirrors
  exact mirrors.unique (mirrors_latest unobserved' reachable' key)

/-! ## Two observations in both orders -/

def morning : Observation :=
  ⟨"venue", "Venue", "scope", true, 10, none, [⟨20759, "Court", 540, 600⟩]⟩

def noon : Observation :=
  ⟨"venue", "Venue", "scope", true, 20, none, [⟨20759, "Court", 600, 660⟩]⟩

/-- A request ingests an observation. -/
def ingestBy (number : Nat) (observation : Observation) (actions : Nat) :
    List (Move Host Input Label Actor) :=
  .start (.request number) (ingestObservation (.request number) plainDigests observation) ::
    System.acts (.request number) .none actions

theorem legal_ingestBy {number actions : Nat} {observation : Observation} :
    ∀ move ∈ ingestBy number observation actions,
      (hostSystem plainDigests anySettings).Legal move :=
  List.forall_mem_cons.mpr ⟨.ingest number observation, System.legal_acts⟩

theorem fresh_unobserved : Unobserved (Host.fresh 0) :=
  ⟨rfl, rfl, fun _ => rfl, fun _ => rfl⟩

set_option maxRecDepth 2000 in
/-- The observations of the key come in time. -/
theorem exists_inOrder : ∃ config,
    (hostSystem plainDigests anySettings).Reachable System.anyAction
      (System.idle (Host.fresh 0)) config ∧
    observationsOf "venue:scope" config.shared.log = [noon, morning] := by
  have legal : ∀ move ∈ ingestBy 1 morning 16 ++ ingestBy 2 noon 16,
      (hostSystem plainDigests anySettings).Legal move :=
    List.forall_mem_append.mpr ⟨legal_ingestBy, legal_ingestBy⟩
  have replayed : ((hostSystem plainDigests anySettings).replay System.anyAction
      (System.idle (Host.fresh 0)) (ingestBy 1 morning 16 ++ ingestBy 2 noon 16)).any
        (fun config => observationsOf "venue:scope" config.shared.log = [noon, morning]) =
          true := by
    decide
  rcases System.exists_reachable_of_replay legal replayed with ⟨config, reachable, both⟩
  exact ⟨config, reachable, by simpa using both⟩

/-- The earlier observation comes late. -/
theorem exists_outOfOrder : ∃ config,
    (hostSystem plainDigests anySettings).Reachable System.anyAction
      (System.idle (Host.fresh 0)) config ∧
    observationsOf "venue:scope" config.shared.log = [morning, noon] := by
  have legal : ∀ move ∈ ingestBy 1 noon 16 ++ ingestBy 2 morning 8,
      (hostSystem plainDigests anySettings).Legal move :=
    List.forall_mem_append.mpr ⟨legal_ingestBy, legal_ingestBy⟩
  have replayed : ((hostSystem plainDigests anySettings).replay System.anyAction
      (System.idle (Host.fresh 0)) (ingestBy 1 noon 16 ++ ingestBy 2 morning 8)).any
        (fun config => observationsOf "venue:scope" config.shared.log = [morning, noon]) =
          true := by
    decide
  rcases System.exists_reachable_of_replay legal replayed with ⟨config, reachable, both⟩
  exact ⟨config, reachable, by simpa using both⟩

/-- After the late observation the rows are those of the latest one. -/
theorem outOfOrder_mirrors : ∃ config,
    (hostSystem plainDigests anySettings).Reachable System.anyAction
      (System.idle (Host.fresh 0)) config ∧
    Mirrors plainDigests (some noon) (config.shared.observations.cell "venue:scope").base
      fun eventKey => (config.shared.availability.cell ("venue:scope", eventKey)).base := by
  rcases exists_outOfOrder with ⟨config, reachable, both⟩
  have mirrors := mirrors_latest fresh_unobserved reachable "venue:scope"
  rw [latestOf, both] at mirrors
  exact ⟨config, reachable, mirrors⟩

/-- A worker still finds the slot of the latest observation. -/
theorem outOfOrder_seenRecently : ∃ config,
    (hostSystem plainDigests anySettings).Reachable System.anyAction
      (System.idle (Host.fresh 0)) config ∧
    (config.shared.view (.work (.worker "first"))).seenRecently
      "venue|2026-11-02|Court|10:00|11:00" 30 = true := by
  rcases exists_outOfOrder with ⟨config, reachable, both⟩
  have latest : latestOf "venue:scope" config.shared.log = some noon := by
    rw [latestOf, both]
    decide
  have shown : "venue|2026-11-02|Court|10:00|11:00" ∈
      noon.slots.map (plainDigests.slotEventKey noon.venueId) := by
    decide
  exact ⟨config, reachable, (seenRecently_iff fresh_unobserved reachable rfl _ 30).mpr
    ⟨"venue:scope", noon, latest, rfl, shown, by decide⟩⟩

/-- Both orders end with the same rows. -/
theorem bothOrders_sameRows : ∃ config config' : Config Host Input Label Actor,
    observationsOf "venue:scope" config.shared.log = [noon, morning] ∧
    observationsOf "venue:scope" config'.shared.log = [morning, noon] ∧
    (config.shared.observations.cell "venue:scope").base.map ObservationRow.seen =
        (config'.shared.observations.cell "venue:scope").base.map ObservationRow.seen ∧
      (fun eventKey => (config.shared.availability.cell ("venue:scope", eventKey)).base) =
        fun eventKey => (config'.shared.availability.cell ("venue:scope", eventKey)).base := by
  rcases exists_inOrder with ⟨config, reachable, both⟩
  rcases exists_outOfOrder with ⟨config', reachable', both'⟩
  have same : ∀ observation, observation ∈ observationsOf "venue:scope" config.shared.log ↔
      observation ∈ observationsOf "venue:scope" config'.shared.log := by
    intro observation
    rw [both, both']
    simp [or_comm]
  have distinct : ∀ one ∈ observationsOf "venue:scope" config.shared.log,
      ∀ other ∈ observationsOf "venue:scope" config.shared.log,
        one.checkedAt = other.checkedAt → one = other := by
    rw [both]
    decide
  exact ⟨config, config', both, both', sameRows_of_sameObservations fresh_unobserved reachable
    fresh_unobserved reachable' "venue:scope" same distinct⟩

end TennisAlerts.HostCore
