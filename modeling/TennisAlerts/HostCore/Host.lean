import TennisAlerts.Concurrent.Program
import TennisAlerts.HostCore.DatePauses
import TennisAlerts.HostCore.Digest
import TennisAlerts.Sender.Ledger
import Mathlib.Data.List.Sort

/-!
# The shared host and its scripts

The state that all processes of the host share: the versioned tables, the
advisory locks, the clock, and a history of external calls and of the commits
the properties speak about.  The history is written and never read.

A script is a program over this state in which every action is one SQL
statement, one clock reading, one commit or one end of an external call.  A
process has at most three connections open: the one of `delivery_guard`, the one
it works on, and the one on which the WeChat consumer holds its session lock.
-/

namespace TennisAlerts.HostCore

open TennisAlerts.Concurrent TennisAlerts.Database
open TennisAlerts.Sender (SendRequest Reply Evidence)

/-- A process: an email worker, the WeChat worker, or one API request. -/
inductive Actor
  | worker (name : String)
  | wechat (name : String)
  | request (number : Nat)
  deriving DecidableEq

instance : Nontrivial Actor :=
  ⟨.request 0, .request 1, nofun⟩

/-- A transaction is named by its process and the connection it is open on. -/
inductive Tx
  | guard (actor : Actor)
  | work (actor : Actor)
  | session (actor : Actor)
  deriving DecidableEq

/-- The process a transaction belongs to. -/
def Tx.actor : Tx → Actor
  | .guard actor => actor
  | .work actor => actor
  | .session actor => actor

/-- Keys of the advisory locks. -/
inductive LockKey
  | delivery
  | globalEmail (day : Int)
  | userEmail (email : String) (day : Int)
  | observation (key : String)
  | subscriptions (email : String)
  | providerClaim (channel : Channel)
  | consumer
  deriving DecidableEq

inductive LockMode
  | shared
  | exclusive
  deriving DecidableEq

/-- One advisory lock held on a connection. -/
structure LockHeld where
  key : LockKey
  mode : LockMode
  holder : Tx
  deriving DecidableEq

/-- One `send_template_email` call. -/
structure Call where
  worker : String
  channel : Channel
  rowIds : List String
  claimId : Option String
  recipient : String
  subject : String
  body : String
  category : String
  startedAt : Int
  deriving DecidableEq

/-- One request to the WeChat sender. -/
structure Post where
  attempt : Nat
  worker : String
  rowId : String
  request : SendRequest
  deriving DecidableEq

/-- How a request to the WeChat sender ends. -/
inductive Answer
  | connectTimeout
  | raised (typeName : String)
  | reply (reply : Reply)
  deriving DecidableEq

/-- What the history records. -/
inductive Event
  | reserved (worker claimId : String) (claim : ClaimRow)
  | dispatched (worker : String) (channel : Channel) (rowIds : List String)
  | began (call : Call)
  | ended (call : Call) (outcome : SendOutcome)
  | posted (post : Post)
  | answered (post : Post) (answer : Answer)
  | evidenced (key payloadHash : String) (evidence : Evidence)
  | ingested (observation : Observation)
  | crashed (actor : Actor)
  | paused (email : String) (dates : List Int)
  | resumed (email : String) (dates : List Int)
  | cancelled (subscriptionId : String)
  | redeemed (email : String)
  | deliverySet (enabled : Bool)
  deriving DecidableEq

/-- The shared state of the host.  The newest history entry comes first. -/
structure Host where
  clock : Int
  outbox : Channel → VersionedTable Tx String OutboxRow
  claims : VersionedTable Tx String ClaimRow
  attempts : VersionedTable Tx String AttemptRow
  subscriptions : VersionedTable Tx String SubscriptionRow
  subscriptionVenues : VersionedTable Tx (String × String) Unit
  tiers : VersionedTable Tx String TierRow
  generations : VersionedTable Tx String Nat
  pauses : VersionedTable Tx (String × Int) PauseRow
  slots : VersionedTable Tx String SlotRow
  availability : VersionedTable Tx (String × String) Int
  observations : VersionedTable Tx String ObservationRow
  venueStatus : VersionedTable Tx String VenueStatusRow
  events : VersionedTable Tx (String × String) Int
  control : VersionedTable Tx Unit ControlRow
  wechat : VersionedTable Tx String WechatRow
  cooldowns : VersionedTable Tx (String × String) Int
  locks : List LockHeld
  log : List Event

namespace Host

/-- A host whose tables are empty, except that delivery is switched on. -/
def fresh (clock : Int) : Host where
  clock := clock
  outbox _ := .empty
  claims := .empty
  attempts := .empty
  subscriptions := .empty
  subscriptionVenues := .empty
  tiers := .empty
  generations := .empty
  pauses := .empty
  slots := .empty
  availability := .empty
  observations := .empty
  venueStatus := .empty
  events := .empty
  control := .singleton () ⟨true, true, some clock, "", "active", clock⟩
  wechat := .empty
  cooldowns := .empty
  locks := []
  log := []

/-- What a statement of the transaction reads. -/
def view (host : Host) (tx : Tx) : Snapshot where
  outbox channel := (host.outbox channel).view tx
  claims := host.claims.view tx
  attempts := host.attempts.view tx
  subscriptions := host.subscriptions.view tx
  subscriptionVenues := host.subscriptionVenues.view tx
  tiers := host.tiers.view tx
  generations := host.generations.view tx
  pauses := host.pauses.view tx
  slots := host.slots.view tx
  availability := host.availability.view tx
  observations := host.observations.view tx
  venueStatus := host.venueStatus.view tx
  events := host.events.view tx
  control := host.control.view tx
  wechat := host.wechat.view tx
  cooldowns := host.cooldowns.view tx

/-- End a transaction successfully: publish its rows and drop its locks. -/
def commit (host : Host) (tx : Tx) : Host :=
  { host with
    outbox := fun channel => (host.outbox channel).commit tx
    claims := host.claims.commit tx
    attempts := host.attempts.commit tx
    subscriptions := host.subscriptions.commit tx
    subscriptionVenues := host.subscriptionVenues.commit tx
    tiers := host.tiers.commit tx
    generations := host.generations.commit tx
    pauses := host.pauses.commit tx
    slots := host.slots.commit tx
    availability := host.availability.commit tx
    observations := host.observations.commit tx
    venueStatus := host.venueStatus.commit tx
    events := host.events.commit tx
    control := host.control.commit tx
    wechat := host.wechat.commit tx
    cooldowns := host.cooldowns.commit tx
    locks := host.locks.filter fun lock => lock.holder ≠ tx }

/-- End a transaction unsuccessfully. -/
def rollback (host : Host) (tx : Tx) : Host :=
  { host with
    outbox := fun channel => (host.outbox channel).rollback tx
    claims := host.claims.rollback tx
    attempts := host.attempts.rollback tx
    subscriptions := host.subscriptions.rollback tx
    subscriptionVenues := host.subscriptionVenues.rollback tx
    tiers := host.tiers.rollback tx
    generations := host.generations.rollback tx
    pauses := host.pauses.rollback tx
    slots := host.slots.rollback tx
    availability := host.availability.rollback tx
    observations := host.observations.rollback tx
    venueStatus := host.venueStatus.rollback tx
    events := host.events.rollback tx
    control := host.control.rollback tx
    wechat := host.wechat.rollback tx
    cooldowns := host.cooldowns.rollback tx
    locks := host.locks.filter fun lock => lock.holder ≠ tx }

/-- Append to the history. -/
def record (host : Host) (event : Event) : Host :=
  { host with log := event :: host.log }

@[simp]
theorem log_record (host : Host) (event : Event) :
    (host.record event).log = event :: host.log :=
  rfl

/-- A crash, or an exception that leaves the script: the connections of the
process are rolled back and closed. -/
def crash (actor : Actor) (host : Host) : Host :=
  (((host.rollback (.work actor)).rollback (.guard actor)).rollback (.session actor)).record
    (.crashed actor)

/-- No other transaction holds the advisory lock in a conflicting mode. -/
def mayLock (host : Host) (tx : Tx) (key : LockKey) (mode : LockMode) : Bool :=
  host.locks.all fun lock =>
    lock.key ≠ key || lock.holder = tx || (lock.mode = .shared && mode = .shared)

end Host

/-- A table of the host: how to read it and how to replace it. -/
structure TableRef (κ ρ : Type) where
  get : Host → VersionedTable Tx κ ρ
  put : VersionedTable Tx κ ρ → Host → Host
  get_put : ∀ table host, get (put table host) = table

namespace TableRef

def outbox (channel : Channel) : TableRef String OutboxRow :=
  ⟨fun host => host.outbox channel,
    fun table host => { host with outbox := Function.update host.outbox channel table },
    fun _ _ => Function.update_self ..⟩

def claims : TableRef String ClaimRow :=
  ⟨Host.claims, fun table host => { host with claims := table }, fun _ _ => rfl⟩

def attempts : TableRef String AttemptRow :=
  ⟨Host.attempts, fun table host => { host with attempts := table }, fun _ _ => rfl⟩

def subscriptions : TableRef String SubscriptionRow :=
  ⟨Host.subscriptions, fun table host => { host with subscriptions := table }, fun _ _ => rfl⟩

def subscriptionVenues : TableRef (String × String) Unit :=
  ⟨Host.subscriptionVenues, fun table host => { host with subscriptionVenues := table },
    fun _ _ => rfl⟩

def tiers : TableRef String TierRow :=
  ⟨Host.tiers, fun table host => { host with tiers := table }, fun _ _ => rfl⟩

def generations : TableRef String Nat :=
  ⟨Host.generations, fun table host => { host with generations := table }, fun _ _ => rfl⟩

def pauses : TableRef (String × Int) PauseRow :=
  ⟨Host.pauses, fun table host => { host with pauses := table }, fun _ _ => rfl⟩

def slots : TableRef String SlotRow :=
  ⟨Host.slots, fun table host => { host with slots := table }, fun _ _ => rfl⟩

def availability : TableRef (String × String) Int :=
  ⟨Host.availability, fun table host => { host with availability := table }, fun _ _ => rfl⟩

def observations : TableRef String ObservationRow :=
  ⟨Host.observations, fun table host => { host with observations := table }, fun _ _ => rfl⟩

def venueStatus : TableRef String VenueStatusRow :=
  ⟨Host.venueStatus, fun table host => { host with venueStatus := table }, fun _ _ => rfl⟩

def events : TableRef (String × String) Int :=
  ⟨Host.events, fun table host => { host with events := table }, fun _ _ => rfl⟩

def control : TableRef Unit ControlRow :=
  ⟨Host.control, fun table host => { host with control := table }, fun _ _ => rfl⟩

def wechat : TableRef String WechatRow :=
  ⟨Host.wechat, fun table host => { host with wechat := table }, fun _ _ => rfl⟩

def cooldowns : TableRef (String × String) Int :=
  ⟨Host.cooldowns, fun table host => { host with cooldowns := table }, fun _ _ => rfl⟩

end TableRef

/-- Execute a statement that writes the selected rows; it waits while one of
them is held by another transaction. -/
def Host.execute {κ ρ : Type} (host : Host) (table : TableRef κ ρ) (tx : Tx)
    (statement : κ → ρ → Option (Option ρ)) : Option Host :=
  if (table.get host).writable tx statement then
    some (table.put ((table.get host).write tx statement) host)
  else none

/-- Insert a row under a key whose slot is available. -/
def Host.insertRow {κ ρ : Type} [DecidableEq κ] (host : Host) (table : TableRef κ ρ)
    (tx : Tx) (key : κ) (row : ρ) : Option Host :=
  if ((table.get host).cell key).free tx then
    some (table.put ((table.get host).insert tx key row) host)
  else none

/-! ## Scripts -/

/-- What `evaluate_weather` decides about a booking date. -/
structure WeatherDecision where
  sendEmail : Bool
  forecastDate : String
  precipitationMm : String
  thresholdMm : String
  deriving DecidableEq

/-- What an action may learn from outside the database. -/
inductive Input
  | none
  | fresh (id : String)
  | outcome (outcome : SendOutcome)
  | report (report : ProviderReport)
  | weather (decision : WeatherDecision)
  | flag (value : Bool)
  | answer (answer : Answer)
  | evidence (evidence : Option Evidence)
  deriving DecidableEq

/-- Actions that a property singles out. -/
inductive Label
  | plain
  | dispatchUpdate (channel : Channel) (worker : String) (rowIds : List String)
  | countReserved (email : Option String) (day now : Int) (submitted : Nat)
  | beginCall (claimId : Option String)
  | outcome (call : Call)
  | completeUpdate (channel : Channel) (worker : String) (rowIds : List String) (phase : Status)
  | answer (post : Post)
  | evidence (key payloadHash : String)
  deriving DecidableEq

abbrev Script := Program Host Input Label

namespace Script

/-- One labelled action without a result. -/
def perform (label : Label) (action : Host → Option Host) : Script Unit :=
  .act label (fun host _ => action host) fun _ _ => .ret ()

/-- Read a value of the shared state without changing it. -/
def observe {α : Type} (label : Label) (value : Host → α) : Script α :=
  .act label (fun host _ => some host) fun host _ => .ret (value host)

/-- An `if` without `else`. -/
def when (condition : Prop) [Decidable condition] (script : Script Unit) : Script Unit :=
  if condition then script else pure ()

/-- `utc_now()`, and `now()` when it is read where its transaction starts. -/
def utcNow : Script Int :=
  observe .plain Host.clock

/-- A `SELECT` without locks. -/
def select {α : Type} (tx : Tx) (query : Snapshot → α) (label : Label := .plain) : Script α :=
  observe label fun host => query (host.view tx)

/-- An `UPDATE`. -/
def update {κ ρ : Type} (table : TableRef κ ρ) (tx : Tx)
    (statement : Snapshot → κ → ρ → Option ρ) (label : Label := .plain) : Script Unit :=
  perform label fun host =>
    host.execute table tx fun key row => (statement (host.view tx) key row).map some

/-- An `UPDATE .. RETURNING`. -/
def updateReturning {κ ρ α : Type} (table : TableRef κ ρ) (tx : Tx)
    (statement : Snapshot → κ → ρ → Option ρ) (returning : κ → ρ → α) :
    Script (List α) :=
  .act .plain
    (fun host _ => host.execute table tx fun key row =>
      (statement (host.view tx) key row).map some)
    fun host _ => .ret (((table.get host).view tx).rows.filterMap fun entry =>
      (statement (host.view tx) entry.1 entry.2).map fun _ => returning entry.1 entry.2)

/-- A `DELETE`. -/
def delete {κ ρ : Type} (table : TableRef κ ρ) (tx : Tx) (selects : κ → ρ → Bool) :
    Script Unit :=
  perform .plain fun host =>
    host.execute table tx fun key row => if selects key row then some none else none

/-- An `INSERT` of a key that no row has. -/
def insert {κ ρ : Type} [DecidableEq κ] (table : TableRef κ ρ) (tx : Tx) (key : κ)
    (row : ρ) : Script Unit :=
  perform .plain fun host =>
    if ((table.get host).cell key).view tx |>.isNone then host.insertRow table tx key row
    else none

/-- An `INSERT .. ON CONFLICT (key) DO UPDATE`, from the row that is there; it
returns that row. -/
def upsert {κ ρ : Type} [DecidableEq κ] (table : TableRef κ ρ) (tx : Tx) (key : κ)
    (merge : Option ρ → ρ) : Script (Option ρ) :=
  .act .plain
    (fun host _ => host.insertRow table tx key (merge (((table.get host).cell key).view tx)))
    fun host _ => .ret (((table.get host).cell key).view tx)

/-- An `INSERT .. ON CONFLICT (key) DO NOTHING RETURNING`: whether a row was put. -/
def insertIfAbsent {κ ρ : Type} [DecidableEq κ] (table : TableRef κ ρ) (tx : Tx)
    (key : κ) (row : ρ) : Script Bool :=
  .act .plain
    (fun host _ =>
      if ((table.get host).cell key).free tx then
        if (((table.get host).cell key).view tx).isNone then
          host.insertRow table tx key row
        else some host
      else none)
    fun host _ => .ret (((table.get host).cell key).view tx).isNone

/-- The rows a `SELECT .. FOR UPDATE SKIP LOCKED` takes: those that the condition
selects and nobody else holds, in the given order. -/
def lockable {ρ : Type} (table : TableRef String ρ) (tx : Tx) (order : ρ → Int)
    (condition : Snapshot → ρ → Bool) (limit : Nat) (host : Host) : List (String × ρ) :=
  ((((table.get host).view tx).rows.filter fun entry =>
      condition (host.view tx) entry.2 && ((table.get host).cell entry.1).free tx).insertionSort
    fun first second => order first.2 ≤ order second.2).take limit

/-- A `SELECT .. ORDER BY .. FOR UPDATE SKIP LOCKED LIMIT ..`. -/
def selectForUpdate {ρ : Type} (table : TableRef String ρ) (tx : Tx) (order : ρ → Int)
    (condition : Snapshot → ρ → Bool) (limit : Nat) : Script (List (String × ρ)) :=
  .act .plain
    (fun host _ =>
      let chosen := (lockable table tx order condition limit host).map Prod.fst
      host.execute table tx fun key row => if key ∈ chosen then some (some row) else none)
    fun host _ => .ret (lockable table tx order condition limit host)

/-- A `SELECT .. FOR UPDATE` of the row with one key. -/
def selectRowForUpdate {κ ρ : Type} [DecidableEq κ] (table : TableRef κ ρ) (tx : Tx)
    (key : κ) (condition : ρ → Bool) : Script (Option ρ) :=
  .act .plain
    (fun host _ => host.execute table tx fun other row =>
      if other = key ∧ condition row then some (some row) else none)
    fun host _ => .ret ((((table.get host).cell key).view tx).filter condition)

/-- `pg_advisory_xact_lock` and its shared form. -/
def lock (tx : Tx) (key : LockKey) (mode : LockMode) : Script Unit :=
  perform .plain fun host =>
    if host.mayLock tx key mode then
      some { host with locks := ⟨key, mode, tx⟩ :: host.locks }
    else none

/-- `pg_try_advisory_lock` on the session connection: whether the lock was free. -/
def tryLock (actor : Actor) (key : LockKey) : Script Bool :=
  .act .plain
    (fun host _ =>
      if host.mayLock (.session actor) key .exclusive then
        some { host with locks := ⟨key, .exclusive, .session actor⟩ :: host.locks }
      else some host)
    fun host _ => .ret (host.mayLock (.session actor) key .exclusive)

/-- The successful end of a `with transaction()` block. -/
def commit (tx : Tx) : Script Unit :=
  perform .plain fun host => some (host.commit tx)

/-- A commit that the history records. -/
def commitRecording (tx : Tx) (event : Event) (label : Label := .plain) : Script Unit :=
  perform label fun host => some ((host.commit tx).record event)

/-- Record an external event. -/
def record (event : Event) (label : Label := .plain) : Script Unit :=
  perform label fun host => some (host.record event)

/-- A fresh identifier: the action accepts only one that the table has not seen. -/
def freshId {ρ : Type} (table : TableRef String ρ) : Script String :=
  .act .plain
    (fun host input =>
      match input with
      | .fresh id => if id ∈ (table.get host).keys then none else some host
      | _ => none)
    fun _ input => .ret (match input with | .fresh id => id | _ => "")

/-- The start of an external call, at the clock reading it gets. -/
def beginSend (call : Int → Call) (label : Label := .plain) : Script Call :=
  .act label (fun host _ => some (host.record (.began (call host.clock))))
    fun host _ => .ret (call host.clock)

/-- The provider's answer to the call in progress. -/
def awaitOutcome (call : Call) : Script SendOutcome :=
  .act (.outcome call)
    (fun host input =>
      match input with
      | .outcome outcome => some (host.record (.ended call outcome))
      | _ => none)
    fun _ input =>
      .ret (match input with | .outcome outcome => outcome | _ => .raised (.other ""))

/-- The start of a request to the WeChat sender; its attempt number is new. -/
def beginPost (worker rowId : String) (request : SendRequest) : Script Post :=
  .act .plain
    (fun host _ => some (host.record (.posted ⟨host.log.length, worker, rowId, request⟩)))
    fun host _ => .ret ⟨host.log.length, worker, rowId, request⟩

/-- The end of a request to the WeChat sender. -/
def awaitAnswer (post : Post) : Script Answer :=
  .act (.answer post)
    (fun host input =>
      match input with
      | .answer answer => some (host.record (.answered post answer))
      | _ => none)
    fun _ input => .ret (match input with | .answer answer => answer | _ => .raised "")

/-- What a status request brings: evidence, or nothing. -/
def awaitEvidence (key payloadHash : String) : Script (Option Evidence) :=
  .act (.evidence key payloadHash)
    (fun host input =>
      match input with
      | .evidence (some evidence) => some (host.record (.evidenced key payloadHash evidence))
      | .evidence none => some host
      | _ => none)
    fun _ input => .ret (match input with | .evidence evidence => evidence | _ => none)

/-- A yes or no that is decided outside the host. -/
def awaitFlag : Script Bool :=
  .act .plain
    (fun host input => match input with | .flag _ => some host | _ => none)
    fun _ input => .ret (match input with | .flag value => value | _ => false)

/-- The weather decision for a booking date. -/
def awaitWeather : Script WeatherDecision :=
  .act .plain
    (fun host input => match input with | .weather _ => some host | _ => none)
    fun _ input => .ret (match input with
      | .weather decision => decision
      | _ => ⟨false, "", "", ""⟩)

/-- The provider's delivery report. -/
def awaitReport : Script ProviderReport :=
  .act .plain
    (fun host input => match input with | .report _ => some host | _ => none)
    fun _ input => .ret (match input with | .report report => report | _ => .pending none)

/-- An exception: only a crash step leaves this point. -/
def raise {α : Type} (value : α) : Script α :=
  .act .plain (fun _ _ => none) fun _ _ => .ret value

end Script

/-- The environment of the host: time passes. -/
def timePasses (before after : Host) : Prop :=
  ∃ elapsed : Nat, after = { before with clock := before.clock + elapsed }

end TennisAlerts.HostCore
