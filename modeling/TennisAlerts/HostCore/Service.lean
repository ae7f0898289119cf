import TennisAlerts.HostCore.Host
import TennisAlerts.Text.Delimited

/-!
# Observation ingest

`ingest_observation` of `service.py`: the venue status, the current
availability of the observed scope, the fast path for an unchanged observation,
and the matching of slots with subscriptions.  Event keys and fingerprints are
SHA-256 digests of texts; the hash is a parameter, of which only what a theorem
states is assumed.
-/

namespace TennisAlerts.HostCore

open TennisAlerts.Concurrent TennisAlerts.Database TennisAlerts.Text Script

/-- The hash behind event keys and fingerprints: the hexadecimal SHA-256 digest
of the UTF-8 bytes of a text. -/
structure Digests where
  sha256 : String → String

/-- `slot_event_key`. -/
def Digests.slotEventKey (digests : Digests) (venueId : String) (slot : Slot) : String :=
  digests.sha256 ("|".intercalate
    [venueId, isoDate slot.bookingDate, slot.courtName, clockText slot.startTime,
      clockText slot.endTime])

/-- A slot in the canonical JSON of an observation. -/
def slotJson (slot : Slot) : List Char :=
  "\x7b\"court_name\":".toList ++ (jsonString slot.courtName ++
    (",\"date\":".toList ++ (jsonString (isoDate slot.bookingDate) ++
    (",\"end_time\":".toList ++ (jsonString (clockText slot.endTime) ++
    (",\"start_time\":".toList ++ (jsonString (clockText slot.startTime) ++
    "\x7d".toList)))))))

/-- The canonical JSON of an observation, with sorted keys. -/
def observationJson (observation : Observation) : List Char :=
  "\x7b\"error\":".toList ++ (jsonOption observation.error ++
    (",\"healthy\":".toList ++ (jsonBool observation.healthy ++
    (",\"scope\":".toList ++ (jsonString observation.scope ++
    (",\"slots\":".toList ++ (jsonArray slotJson observation.slots ++
    (",\"venue_id\":".toList ++ (jsonString observation.venueId ++
    (",\"venue_name\":".toList ++ (jsonString observation.venueName ++
    "\x7d".toList)))))))))))

/-- `observation_fingerprint`. -/
def Digests.fingerprint (digests : Digests) (observation : Observation) : String :=
  digests.sha256 (String.ofList (observationJson observation))

/-- `f"{venue_id}:{observation_scope}"`. -/
def Observation.key (observation : Observation) : String :=
  observation.venueId ++ ":" ++ observation.scope

/-- `slot_matches`. -/
def slotMatches (slot : Slot) (weekdayMask startTime endTime : Nat) : Bool :=
  weekdayMask.testBit (isoWeekday slot.bookingDate - 1) &&
    decide (slot.startTime < endTime) && decide (startTime < slot.endTime)

/-- `format_slot_line`. -/
def formatSlotLine (venueName : String) (slot : Slot) : String :=
  let location :=
    if venueName.toList <+: slot.courtName.toList then slot.courtName
    else venueName ++ slot.courtName
  let weekday := (["一", "二", "三", "四", "五", "六", "日"].getD
    (isoWeekday slot.bookingDate - 1) "")
  location ++ " " ++ monthDay slot.bookingDate ++ " 星期" ++ weekday ++ " " ++
    clockText slot.startTime ++ "-" ++ clockText slot.endTime

/-- The start of a slot. -/
def Slot.startAt (slot : Slot) : Int :=
  shanghaiInstant slot.bookingDate slot.startTime

/-! ## Statements -/

/-- The upsert of `_upsert_status`. -/
def upsertedStatus (observation : Observation) (now : Int) :
    Option VenueStatusRow → VenueStatusRow
  | none =>
      { venueName := observation.venueName
        healthy := observation.healthy
        lastInspectionAt := some observation.checkedAt
        lastNotificationAt := none
        lastError := observation.error
        updatedAt := now }
  | some row =>
      if row.lastInspectionAt.all (fun inspected => decide (inspected ≤ observation.checkedAt))
      then
        { row with
          venueName := observation.venueName
          healthy := observation.healthy
          lastInspectionAt := some observation.checkedAt
          lastError := observation.error
          updatedAt := now }
      else row

/-- The upsert of an observed slot. -/
def upsertedSlot (observation : Observation) (slot : Slot) (now : Int) :
    Option SlotRow → SlotRow
  | none =>
      { venueId := observation.venueId
        courtName := slot.courtName
        bookingDate := slot.bookingDate
        startTime := slot.startTime
        endTime := slot.endTime
        firstObservedAt := now
        lastObservedAt := observation.checkedAt }
  | some row => { row with lastObservedAt := max row.lastObservedAt observation.checkedAt }

/-- A row of `_active_subscriptions`. -/
structure ActiveSubscription where
  id : String
  email : String
  startTime : Nat
  endTime : Nat
  weekdayMask : Nat
  tier : Tier
  deriving DecidableEq

/-- `_active_subscriptions`, ordered by id; `now` is the start of the
transaction. -/
def activeForVenue (venueId : String) (now : Int) (snapshot : Snapshot) :
    List ActiveSubscription :=
  (snapshot.subscriptionVenues.rows.filterMap fun entry =>
    if entry.1.2 = venueId then
      match snapshot.subscriptions.row entry.1.1 with
      | some row =>
          if snapshot.eligible row now then
            some ⟨entry.1.1, row.email, row.startTime, row.endTime, row.weekdayMask,
              snapshot.tierOf row.email⟩
          else none
      | none => none
    else none).insertionSort fun first second => first.id ≤ second.id

/-- `observation_rules`: the rules of the given emails and dates. -/
def observationRules (emails : List String) (dates : List Int) (snapshot : Snapshot) :
    List ((String × Int) × PauseRow) :=
  snapshot.pauses.rows.filter fun entry => entry.1.1 ∈ emails && entry.1.2 ∈ dates

/-- The `observation_state` row after full matching. -/
def matchedState (observation : Observation) (fingerprint : String) (generation : Nat)
    (now : Int) : Option ObservationRow → ObservationRow
  | none =>
      { venueId := observation.venueId
        fingerprint := fingerprint
        subscriptionGeneration := generation
        lastSeenAt := observation.checkedAt
        lastMatchedAt := some now
        updatedAt := now
        healthy := false }
  | some row =>
      { row with
        venueId := observation.venueId
        fingerprint := fingerprint
        subscriptionGeneration := generation
        lastSeenAt := observation.checkedAt
        lastMatchedAt := some now
        updatedAt := now }

/-- The `observation_state` row after the fast path. -/
def seenState (observation : Observation) (now : Int) (row : ObservationRow) :
    ObservationRow :=
  { row with lastSeenAt := observation.checkedAt, updatedAt := now }

/-- The outbox row of a new match. -/
def newNotification (observation : Observation) (slot : Slot) (eventKey : String)
    (subscription : ActiveSubscription) (now : Int) : OutboxRow where
  email := subscription.email
  subject := formatSlotLine observation.venueName slot
  body := formatSlotLine observation.venueName slot
  status := .pending
  attemptCount := 0
  nextAttemptAt := firstAttemptAt subscription.tier now
  leaseOwner := none
  leaseUntil := none
  createdAt := now
  updatedAt := now
  submittedAt := none
  deliveredAt := none
  failedAt := none
  messageId := none
  providerRequestId := none
  providerStatus := none
  providerCheckedAt := none
  providerCheckCount := 0
  providerNextCheckAt := none
  providerError := none
  lastError := none
  subscriptionId := subscription.id
  eventKey := eventKey
  venueId := observation.venueId
  tier := subscription.tier
  deliveryClaimId := none
  eligibleAt := none
  emailType := ""
  expiresAt := none

/-! ## Matching -/

/-- An `UPDATE` of the row with one key. -/
def onKey {κ ρ : Type} [DecidableEq κ] (key : κ) (change : ρ → ρ) (_ : Snapshot) (other : κ)
    (row : ρ) : Option ρ :=
  if other = key then some (change row) else none

/-- The insert of an outbox row, unique in its subscription and event key: it
waits for an open insert of the pair and does nothing when the pair is there. -/
def insertNotification (actor : Actor) (id : String) (row : OutboxRow) : Script Unit :=
  perform .plain fun host =>
    let table := host.outbox .subscriber
    let taken (other : OutboxRow) : Bool :=
      other.subscriptionId = row.subscriptionId && other.eventKey = row.eventKey
    if table.keys.any fun key => !(table.cell key).free (.work actor) &&
        ((table.cell key).held.bind Prod.snd).any taken && !(table.cell key).base.any taken then
      none
    else if table.keys.any fun key =>
        ((table.cell key).view (.work actor)).any taken || (table.cell key).base.any taken then
      some host
    else if ((table.cell id).view (.work actor)).isNone then
      host.insertRow (.outbox .subscriber) (.work actor) id row
    else none

/-- One subscription of the matching loop. -/
def matchSubscription (actor : Actor) (observation : Observation) (slot : Slot)
    (eventKey : String) (rules : List ((String × Int) × PauseRow)) (now : Int)
    (subscription : ActiveSubscription) : Script Unit := do
  let rule := rules.lookup (subscription.email, slot.bookingDate)
  if ruleAllowsObservation rule observation.checkedAt now &&
      slotMatches slot subscription.weekdayMask subscription.startTime subscription.endTime then
    let inserted ← insertIfAbsent .events (.work actor) (subscription.id, eventKey) now
    if inserted then
      let id ← freshId (.outbox .subscriber)
      insertNotification actor id (newNotification observation slot eventKey subscription now)
    else if rule.isSome then
      update (.outbox .subscriber) (.work actor) fun snapshot id row =>
        restorePaused subscription.id eventKey observation.checkedAt now subscription.tier
          snapshot id row

/-- The matching loop over the slots that have not started. -/
def matchSlots (actor : Actor) (digests : Digests) (observation : Observation)
    (subscriptions : List ActiveSubscription) (rules : List ((String × Int) × PauseRow))
    (now : Int) : Script Unit :=
  (observation.slots.filter fun slot => decide (now < slot.startAt)).forM fun slot =>
    subscriptions.forM
      (matchSubscription actor observation slot
        (digests.slotEventKey observation.venueId slot) rules now)

/-- The current rows of a healthy observation. -/
def putAvailability (actor : Actor) (digests : Digests) (observation : Observation)
    (now : Int) : Script Unit :=
  observation.slots.forM fun slot => do
    let eventKey := digests.slotEventKey observation.venueId slot
    let _ ← upsert .slots (.work actor) eventKey (upsertedSlot observation slot now)
    insert .availability (.work actor) (observation.key, eventKey) observation.checkedAt

/-- The observation is not older than the stored state, which it replaces. -/
def acceptObservation (actor : Actor) (digests : Digests) (observation : Observation)
    (generation : Nat) (state : Option ObservationRow) (begun now : Int) :
    Script Unit := do
  delete .availability (.work actor) fun key _ => key.1 = observation.key
  when observation.healthy (putAvailability actor digests observation now)
  update .observations (.work actor)
    (onKey observation.key fun row => { row with healthy := observation.healthy })
  let subscriptions ← select (.work actor) (activeForVenue observation.venueId begun)
  let rules ← select (.work actor) (observationRules (subscriptions.map ActiveSubscription.email)
    (observation.slots.map Slot.bookingDate))
  let unchanged := state.any fun row =>
    decide (row.fingerprint = digests.fingerprint observation) &&
      decide (row.subscriptionGeneration = generation) &&
      !needsResumeMatch (rules.map Prod.snd) row.lastSeenAt now
  if unchanged then
    update .observations (.work actor) (onKey observation.key (seenState observation now))
    commitRecording (.work actor) (.ingested observation)
  else
    when observation.healthy (matchSlots actor digests observation subscriptions rules now)
    let _ ← upsert .observations (.work actor) observation.key
      (matchedState observation (digests.fingerprint observation) generation now)
    update .observations (.work actor)
      (onKey observation.key fun row => { row with healthy := observation.healthy })
    commitRecording (.work actor) (.ingested observation)

/-- `ingest_observation`.  The gate it returns is not read by any modelled
operation. -/
def ingestObservation (actor : Actor) (digests : Digests) (observation : Observation) :
    Script Unit := do
  let begun ← utcNow
  lock (.work actor) .delivery .shared
  let now ← utcNow
  lock (.work actor) (.observation observation.key) .exclusive
  let _ ← upsert .venueStatus (.work actor) observation.venueId
    (upsertedStatus observation now)
  let generation ← select (.work actor) fun snapshot =>
    (snapshot.generations.row observation.venueId).getD 0
  let state ← selectRowForUpdate .observations (.work actor) observation.key fun _ => true
  if state.any fun row => decide (observation.checkedAt < row.lastSeenAt) then
    commitRecording (.work actor) (.ingested observation)
  else
    acceptObservation actor digests observation generation state begun now

end TennisAlerts.HostCore
