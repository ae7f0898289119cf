import TennisAlerts.Properties.Bystanders
import Mathlib.Data.List.MinMax

/-!
# The protocol of the observation keys

Who changes the state row or the availability of an observation key holds the lock of
the key until it commits, and what it commits is what the latest observation of the key
says.  A process that ingests nothing holds none of these rows.
-/

namespace TennisAlerts.HostCore

open TennisAlerts.Concurrent TennisAlerts.Database

/-! ## What the tables say -/

/-- The committed observations of one key, newest first. -/
def observationsOf (key : String) (log : List Event) : List Observation :=
  (ingests log).filter fun observation => observation.key = key

/-- The observation of the key with the latest time; of several, the one that was
committed last. -/
def latestOf (key : String) (log : List Event) : Option Observation :=
  letI : Preorder Int := Int.instLinearOrder.toPreorder
  (observationsOf key log).argmax Observation.checkedAt

/-- When an observation says that an event key is available. -/
def Digests.shownAt (digests : Digests) (observation : Observation) (eventKey : String) :
    Option Int :=
  if observation.healthy = true ∧
      eventKey ∈ observation.slots.map (digests.slotEventKey observation.venueId) then
    some observation.checkedAt
  else none

/-- A state row records an observation. -/
structure Records (digests : Digests) (observation : Observation) (row : ObservationRow) :
    Prop where
  lastSeenAt : row.lastSeenAt = observation.checkedAt
  healthy : row.healthy = observation.healthy
  fingerprint : row.fingerprint = digests.fingerprint observation

/-- The state row and the current event keys say what an observation current. -/
inductive Mirrors (digests : Digests) :
    Option Observation → Option ObservationRow → (String → Option Int) → Prop
  | nothing : Mirrors digests none none fun _ => none
  | shown (observation : Observation) (row : ObservationRow)
      (records : Records digests observation row) :
      Mirrors digests (some observation) (some row) (digests.shownAt observation)

theorem observationsOf_congr {key : String} {log later : List Event}
    (same : ingests later = ingests log) : observationsOf key later = observationsOf key log := by
  rw [observationsOf, same, observationsOf]

theorem latestOf_congr {key : String} {log later : List Event}
    (same : observationsOf key later = observationsOf key log) :
    latestOf key later = latestOf key log := by
  rw [latestOf, same, latestOf]

theorem observationsOf_ingested (observation : Observation) (log : List Event) :
    observationsOf observation.key (.ingested observation :: log) =
      observation :: observationsOf observation.key log := by
  simp [observationsOf, ingests]

theorem observationsOf_ingested_of_ne {key : String} {observation : Observation}
    {log : List Event} (different : observation.key ≠ key) :
    observationsOf key (.ingested observation :: log) = observationsOf key log := by
  simp [observationsOf, ingests, different]

/-- An observation that is no earlier than the stored one is the latest. -/
theorem latestOf_ingested_of_timely {observation : Observation} {log : List Event}
    (timely : ∀ previous, latestOf observation.key log = some previous →
      previous.checkedAt ≤ observation.checkedAt) :
    latestOf observation.key (.ingested observation :: log) = some observation := by
  rw [latestOf, observationsOf_ingested, List.argmax_cons]
  cases stored : latestOf observation.key log with
  | none =>
      rw [latestOf] at stored
      rw [stored]
  | some previous =>
      have early := timely previous stored
      rw [latestOf] at stored
      rw [stored]
      exact if_neg (not_lt.mpr early)

/-- An observation that is earlier than the stored one changes nothing. -/
theorem latestOf_ingested_of_late {observation previous : Observation} {log : List Event}
    (stored : latestOf observation.key log = some previous)
    (late : observation.checkedAt < previous.checkedAt) :
    latestOf observation.key (.ingested observation :: log) = some previous := by
  rw [latestOf] at stored
  rw [latestOf, observationsOf_ingested, List.argmax_cons, stored]
  exact if_pos late

/-! ## The lock of an observation key -/

/-- The transaction holds the lock of the observation key. -/
def Keyed (key : String) (tx : Tx) (host : Host) : Prop :=
  ⟨.observation key, .exclusive, tx⟩ ∈ requestLocks host.locks

/-- Who changes the state row or the availability of a key holds its lock, and what is
committed is what the latest observation current. -/
structure AvailabilityInvariant (digests : Digests) (host : Host) : Prop where
  exclusion : Exclusive (requestLocks host.locks)
  availability : ∀ pair tx row, (host.availability.cell pair).held = some (tx, row) →
    Keyed pair.1 tx host
  observations : ∀ key tx row, (host.observations.cell key).held = some (tx, row) →
    Keyed key tx host
  mirrors : ∀ key, Mirrors digests (latestOf key host.log) (host.observations.cell key).base
    fun eventKey => (host.availability.cell (key, eventKey)).base

/-- What a request relies on: its locks, what it holds, and the rows of the keys that
it has locked. -/
structure AvailabilityRely (actor : Actor) (before after : Host) : Prop where
  locks : ∀ lock, lock.holder.actor = actor →
    (lock ∈ requestLocks after.locks ↔ lock ∈ requestLocks before.locks)
  availability : ∀ pair, Keyed pair.1 (.work actor) before →
    after.availability.cell pair = before.availability.cell pair
  observations : ∀ key, Keyed key (.work actor) before →
    after.observations.cell key = before.observations.cell key
  heldAvailability : ∀ pair tx row, tx.actor = actor →
    (after.availability.cell pair).held = some (tx, row) →
    (before.availability.cell pair).held = some (tx, row)
  heldObservations : ∀ key tx row, tx.actor = actor →
    (after.observations.cell key).held = some (tx, row) →
    (before.observations.cell key).held = some (tx, row)

/-- Everything that a process holds of the two tables is its to hold. -/
structure HoldsOnly (actor : Actor) (mine : Tx → String → Prop) (host : Host) : Prop where
  availability : ∀ pair tx row, tx.actor = actor →
    (host.availability.cell pair).held = some (tx, row) → mine tx pair.1
  observations : ∀ key tx row, tx.actor = actor →
    (host.observations.cell key).held = some (tx, row) → mine tx key

/-- Between two operations a process holds nothing. -/
def HoldsNothing (actor : Actor) : Host → Prop :=
  HoldsOnly actor fun _ _ => False

theorem HoldsOnly.mono {actor : Actor} {mine weaker : Tx → String → Prop} {host : Host}
    (holds : HoldsOnly actor mine host) (implied : ∀ tx key, mine tx key → weaker tx key) :
    HoldsOnly actor weaker host where
  availability pair tx row own held := implied tx pair.1 (holds.availability pair tx row own held)
  observations key tx row own held := implied tx key (holds.observations key tx row own held)

def availabilityProtocol (digests : Digests) : Protocol Host Actor where
  invariant := AvailabilityInvariant digests
  rely := AvailabilityRely
  resting := HoldsNothing

theorem stable_holdsOnly {digests : Digests} {actor : Actor} {mine : Tx → String → Prop} :
    (availabilityProtocol digests).Stable actor (HoldsOnly actor mine) := by
  intro before after _ _ relied holds
  constructor
  · intro pair tx row own held
    exact holds.availability pair tx row own (relied.heldAvailability pair tx row own held)
  · intro key tx row own held
    exact holds.observations key tx row own (relied.heldObservations key tx row own held)

/-! ## Moves -/

/-- A change of one process that touches only what it has locked. -/
structure AvailabilityMove (actor : Actor) (before after : Host) : Prop where
  locks : LockChange actor (requestLocks before.locks) (requestLocks after.locks)
  availability : ∀ pair, (before.availability.cell pair).Change (ownTx actor)
    (fun tx _ _ => Keyed pair.1 tx before) (after.availability.cell pair)
  observations : ∀ key, (before.observations.cell key).Change (ownTx actor)
    (fun tx _ _ => Keyed key tx before) (after.observations.cell key)

section

variable {digests : Digests} {actor other : Actor} {before after : Host}

/-- The row of a key that another process has locked stays as it is. -/
theorem eq_of_keyed {ρ : Type} {cell later : Cell Tx ρ} {key : String}
    (change : cell.Change (ownTx actor) (fun tx _ _ => Keyed key tx before) later)
    (held : ∀ tx row, cell.held = some (tx, row) → Keyed key tx before)
    (exclusive : Exclusive (requestLocks before.locks))
    (keyed : Keyed key (.work other) before) (different : other ≠ actor) : later = cell := by
  have foreign : ∀ tx, tx.actor = actor → ¬Keyed key tx before := by
    intro tx own locked
    have same : tx = .work other := exclusive _ keyed _ locked rfl rfl
    rw [same] at own
    exact different own
  cases change with
  | same => rfl
  | publish writer row own isHeld => exact absurd (held writer row isHeld) (foreign writer own)
  | drop writer row own isHeld => exact absurd (held writer row isHeld) (foreign writer own)
  | hold writer new own free locked => exact absurd locked (foreign writer own)

theorem AvailabilityMove.guarantees (move : AvailabilityMove actor before after)
    (invariant : AvailabilityInvariant digests before) :
    (availabilityProtocol digests).Guarantees actor before after := by
  intro other different
  constructor
  · rintro lock rfl
    exact move.locks.foreign different
  · intro pair keyed
    exact eq_of_keyed (move.availability pair) (invariant.availability pair)
      invariant.exclusion keyed different
  · intro key keyed
    exact eq_of_keyed (move.observations key) (invariant.observations key)
      invariant.exclusion keyed different
  · rintro pair tx row rfl held
    exact (move.availability pair).held_of_foreign held different
  · rintro key tx row rfl held
    exact (move.observations key).held_of_foreign held different

theorem AvailabilityMove.kept (move : AvailabilityMove actor before after)
    (invariant : AvailabilityInvariant digests before)
    (holds : HoldsOnly actor (fun tx key => Keyed key tx after) after)
    (mirrors : ∀ key, Mirrors digests (latestOf key after.log) (after.observations.cell key).base
      fun eventKey => (after.availability.cell (key, eventKey)).base) :
    AvailabilityInvariant digests after ∧
      (availabilityProtocol digests).Guarantees actor before after := by
  refine ⟨⟨move.locks.exclusive invariant.exclusion, ?_, ?_, mirrors⟩, move.guarantees invariant⟩
  · intro pair tx row held
    by_cases own : tx.actor = actor
    · exact holds.availability pair tx row own held
    · have wasHeld := (move.availability pair).held_of_foreign held own
      exact (move.locks.foreign own).mpr (invariant.availability pair tx row wasHeld)
  · intro key tx row held
    by_cases own : tx.actor = actor
    · exact holds.observations key tx row own held
    · have wasHeld := (move.observations key).held_of_foreign held own
      exact (move.locks.foreign own).mpr (invariant.observations key tx row wasHeld)

/-- The committed rows and the observations are the same. -/
structure SameCommitted (before after : Host) : Prop where
  availability : ∀ pair, (after.availability.cell pair).base = (before.availability.cell pair).base
  observations : ∀ key, (after.observations.cell key).base = (before.observations.cell key).base
  ingests : ingests after.log = ingests before.log

theorem SameCommitted.mirrors (same : SameCommitted before after)
    (invariant : AvailabilityInvariant digests before) (key : String) :
    Mirrors digests (latestOf key after.log) (after.observations.cell key).base
      fun eventKey => (after.availability.cell (key, eventKey)).base := by
  rw [latestOf_congr (observationsOf_congr same.ingests), same.observations key,
    funext fun eventKey => same.availability (key, eventKey)]
  exact invariant.mirrors key

/-! ### Processes that ingest nothing -/

/-- The rows of the two tables and the observations are the same. -/
structure SameRows (before after : Host) : Prop where
  availability : ∀ pair, after.availability.cell pair = before.availability.cell pair
  observations : ∀ key, after.observations.cell key = before.observations.cell key
  ingests : ingests after.log = ingests before.log

theorem SameRows.committed (same : SameRows before after) : SameCommitted before after where
  availability pair := by rw [same.availability pair]
  observations key := by rw [same.observations key]
  ingests := same.ingests

theorem SameRows.holdsOnly {mine : Tx → String → Prop} (same : SameRows before after)
    (holds : HoldsOnly actor mine before) : HoldsOnly actor mine after := by
  constructor
  · intro pair tx row own held
    rw [same.availability pair] at held
    exact holds.availability pair tx row own held
  · intro key tx row own held
    rw [same.observations key] at held
    exact holds.observations key tx row own held

theorem SameRows.move (same : SameRows before after)
    (locks : LockChange actor (requestLocks before.locks) (requestLocks after.locks)) :
    AvailabilityMove actor before after := by
  refine ⟨locks, ?_, ?_⟩
  · intro pair
    rw [same.availability pair]
    exact .same
  · intro key
    rw [same.observations key]
    exact .same

theorem BystanderStep.kept (step : BystanderStep actor before after)
    (invariant : AvailabilityInvariant digests before) (nothing : HoldsNothing actor before) :
    AvailabilityInvariant digests after ∧
      (availabilityProtocol digests).Guarantees actor before after ∧ HoldsNothing actor after := by
  have same : SameRows before after ∧
      LockChange actor (requestLocks before.locks) (requestLocks after.locks) := by
    cases step with
    | still untouched outbox locks =>
        have rows : SameRows before after := by
          constructor
          · simp [untouched.availability]
          · simp [untouched.observations]
          · exact untouched.ingests
        exact ⟨rows, locks⟩
    | rows statement writable same => exact ⟨⟨fun _ => rfl, fun _ => rfl, rfl⟩, .same⟩
    | commit tx own quiet =>
        refine ⟨⟨?_, ?_, quiet⟩, (lockChange_commit own before.locks).requests⟩
        · intro pair
          exact commit_eq_self fun row held => nothing.availability pair tx row own held
        · intro key
          exact commit_eq_self fun row held => nothing.observations key tx row own held
  have nothingAfter : HoldsNothing actor after := same.1.holdsOnly nothing
  have holds : HoldsOnly actor (fun tx key => Keyed key tx after) after :=
    nothingAfter.mono fun _ _ => False.elim
  rcases (same.1.move same.2).kept invariant holds (same.1.committed.mirrors invariant) with
    ⟨kept, guarantees⟩
  exact ⟨kept, guarantees, nothingAfter⟩

end

end TennisAlerts.HostCore
