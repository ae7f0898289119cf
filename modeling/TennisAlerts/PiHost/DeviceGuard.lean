import TennisAlerts.Concurrent.Program
import Mathlib.Data.List.Basic

/-!
# The device guard

`DeviceGuard` of `pi_host/appium_mcp/guard.mjs`.  Its methods are asynchronous
functions of one JavaScript process: a call runs without interruption from one
`await` to the next, so each of these segments is one action.  What an awaited
promise settled to, the clock, the registry of sessions and whether a lease is
alive are inputs of the segment that reads them.

A lease is named by its number.  It belongs to at most one entry of `owned`, and
the entry objects are named by their leases.
-/

namespace TennisAlerts.PiHost

open TennisAlerts.Concurrent

/-- A configured phone. -/
structure Device where
  name : String
  serial : String
  deriving DecidableEq

/-- Options of the constructor. -/
structure Options where
  devices : List Device
  idleMs : Int
  maxLeaseMs : Int

/-- An item of `sessions()`. -/
structure Session where
  sessionId : String
  udid : Option String
  deriving DecidableEq

/-- A value of the map `owned`, without its lease. -/
structure Entry where
  device : Device
  busy : Bool
  created : Int
  last : Int
  deriving DecidableEq

/-- What a session is used for. -/
inductive Use
  | callback
  | close
  deriving DecidableEq

/-- The history of a guard. -/
inductive Event
  | reserved (call : Nat) (device : String)
  | unreserved (device : String)
  | acquired (call lease : Nat)
  | started (lease : Nat)
  | registered (lease : Nat) (device sessionId : String)
  | retained (lease : Nat) (device : String)
  | fenced
  | entered (call lease : Nat) (sessionId : String) (use : Use)
  | left (lease : Nat) (sessionId : String)
  | inspected (device : String) (sessions : List String)
  | released (lease : Nat)
  deriving DecidableEq

/-- The lease that an entry of the history is about. -/
def Event.lease : Event → Option Nat
  | .acquired _ lease | .started lease | .registered lease _ _ | .retained lease _
  | .entered _ lease _ _ | .left lease _ | .released lease => some lease
  | .reserved _ _ | .unreserved _ | .fenced | .inspected _ _ => none

/-- The session that is registered. -/
def Event.session : Event → Option String
  | .registered _ _ sessionId => some sessionId
  | _ => none

/-- The state of a guard.  As in the standard, a deleted pair of the map leaves
an empty slot behind; the newest history entry comes first. -/
structure Guard where
  owned : List (Option (String × Nat))
  entries : Nat → Entry
  leases : Nat
  creating : List String
  closing : Bool
  log : List Event

/-- The fields of `entry` are set when an entry is put into the map. -/
def noEntry : Entry :=
  ⟨⟨"", ""⟩, false, 0, 0⟩

namespace Guard

/-- A new guard. -/
def new : Guard where
  owned := []
  entries _ := noEntry
  leases := 0
  creating := []
  closing := false
  log := []

def record (guard : Guard) (event : Event) : Guard :=
  { guard with log := event :: guard.log }

/-- `owned.get`. -/
def get (guard : Guard) (sessionId : String) : Option Nat :=
  guard.owned.findSome? fun slot =>
    slot.bind fun pair => if pair.1 = sessionId then some pair.2 else none

/-- `owned.set`: the pair of a known key keeps its place. -/
def set (guard : Guard) (sessionId : String) (lease : Nat) (entry : Entry) : Guard :=
  { guard with
    owned :=
      if (guard.get sessionId).isSome then
        guard.owned.map fun slot => slot.map fun pair =>
          if pair.1 = sessionId then (sessionId, lease) else pair
      else guard.owned ++ [some (sessionId, lease)]
    entries := Function.update guard.entries lease entry }

/-- `owned.delete`. -/
def delete (guard : Guard) (sessionId : String) : Guard :=
  { guard with
    owned := guard.owned.map fun slot => slot.filter fun pair => pair.1 ≠ sessionId }

/-- Change an entry object. -/
def onEntry (guard : Guard) (lease : Nat) (change : Entry → Entry) : Guard :=
  { guard with
    entries := Function.update guard.entries lease (change (guard.entries lease)) }

/-- The slot is a pair whose entry is about the device. -/
def about (guard : Guard) (device : String) (slot : Option (String × Nat)) : Bool :=
  slot.any fun pair => (guard.entries pair.2).device.name = device

/-- `creating.add`. -/
def reserve (call : Nat) (device : String) (guard : Guard) : Guard :=
  { guard with creating := guard.creating ++ [device] }.record (.reserved call device)

/-- `creating.delete`. -/
def unreserve (device : String) (guard : Guard) : Guard :=
  { guard with creating := guard.creating.filter (· ≠ device) }.record (.unreserved device)

/-- `this.closing = true`. -/
def fence (guard : Guard) : Guard :=
  { guard with closing := true }.record .fenced

/-- The call of `lease.release`. -/
def release (lease : Nat) (guard : Guard) : Guard :=
  guard.record (.released lease)

/-- `entry.busy = true`, for a callback or a close. -/
def enter (call lease : Nat) (sessionId : String) (use : Use) (guard : Guard) : Guard :=
  (guard.onEntry lease fun entry => { entry with busy := true }).record
    (.entered call lease sessionId use)

/-- `entry.busy = false`. -/
def leave (lease : Nat) (sessionId : String) (guard : Guard) : Guard :=
  (guard.onEntry lease fun entry => { entry with busy := false }).record (.left lease sessionId)

end Guard

/-- The key of an entry whose session is unknown. -/
def pendingKey (device : String) : String :=
  "pending-" ++ device

/-- The key has the form of the guard's own keys. -/
def isPending (key : String) : Bool :=
  "pending-".toList.isPrefixOf key.toList

@[simp]
theorem isPending_pendingKey (device : String) : isPending (pendingKey device) = true := by
  simp [isPending, pendingKey]

/-- The texts of `error`. -/
inductive ErrorCode
  | serviceStopping
  | unsupportedSessionAction
  | unknownDevice
  | deviceBusy
  | foreignSessionBusy
  | appiumSessionsUnavailable
  | sessionCreationUnknownRecoveryRequired
  | explicitSessionIdRequired
  | sessionNotOwned
  | leaseExpired
  | sessionCleanupUnconfirmedLockRetained
  | sessionCleanupFailedLockRetained
  deriving DecidableEq

def ErrorCode.text : ErrorCode → String
  | .serviceStopping => "service_stopping"
  | .unsupportedSessionAction => "unsupported_session_action"
  | .unknownDevice => "unknown_device"
  | .deviceBusy => "device_busy"
  | .foreignSessionBusy => "foreign_session_busy"
  | .appiumSessionsUnavailable => "appium_sessions_unavailable"
  | .sessionCreationUnknownRecoveryRequired => "session_creation_unknown_recovery_required"
  | .explicitSessionIdRequired => "explicit_session_id_required"
  | .sessionNotOwned => "session_not_owned"
  | .leaseExpired => "lease_expired"
  | .sessionCleanupUnconfirmedLockRetained => "session_cleanup_unconfirmed_lock_retained"
  | .sessionCleanupFailedLockRetained => "session_cleanup_failed_lock_retained"

/-- An item of the `list` action. -/
structure Listed where
  sessionId : Option String
  device : String
  busy : Bool
  creating : Bool
  deriving DecidableEq

/-- How a call ends; `threw` where its promise is rejected. -/
inductive Response
  | error (code : ErrorCode)
  | listed (items : List Listed)
  | created (sessionId device : String) (idleTimeoutSeconds maximumLeaseSeconds : Rat)
  | released
  | callback
  | threw
  deriving DecidableEq

/-- What an awaited promise settled to. -/
inductive Answer
  | none
  | threw
  | lease (granted : Bool)
  | remote (sessions : List String)
  | response (isError : Bool)
  | settled
  deriving DecidableEq

/-- What a segment learns from outside the guard.  The registry may throw. -/
structure Input where
  answer : Answer
  clock : Nat → Int
  alive : Bool
  sessions : Option (List Session)

/-- Actions that the registry of sessions answers. -/
inductive Label
  | plain
  | registry (device : Device) (previous : List String)
  deriving DecidableEq

abbrev Script := Program Guard Input Label

/-- One segment between two `await`s, started by an answer it can take. -/
def segment {α : Type} (label : Label) (takes : Answer → Bool)
    (run : Input → Guard → α × Guard) : Script α :=
  .act label (fun guard input => if takes input.answer then some (run input guard).2 else none)
    fun guard input => .ret (run input guard).1

/-- The first segment of a call awaits nothing. -/
def Answer.isNone : Answer → Bool
  | .none => true
  | _ => false

def Answer.ofAcquire : Answer → Bool
  | .lease _ | .threw => true
  | _ => false

def Answer.ofInspect : Answer → Bool
  | .remote _ | .threw => true
  | _ => false

def Answer.ofInvoke : Answer → Bool
  | .response _ | .threw => true
  | _ => false

def Answer.ofVoid : Answer → Bool
  | .settled | .threw => true
  | _ => false

/-- Either a method is over or it awaits a promise. -/
inductive Outcome (α : Type)
  | done (response : Response)
  | await (pending : α)

/-- Go on where a promise is awaited. -/
def Outcome.andThen {α : Type} (rest : α → Script Response) : Outcome α → Script Response
  | .done response => .ret response
  | .await pending => rest pending

/-! ## `close` -/

/-- `close` up to its first `await`. -/
def closeStart (call : Nat) (sessionId : Option String) (guard : Guard) :
    Outcome (String × Nat) × Guard :=
  match sessionId with
  | none => (.done (.error .explicitSessionIdRequired), guard)
  | some sessionId =>
      match guard.get sessionId with
      | none => (.done (.error .sessionNotOwned), guard)
      | some lease =>
          if (guard.entries lease).busy then (.done (.error .deviceBusy), guard)
          else (.await (sessionId, lease), guard.enter call lease sessionId .close)

/-- `owned.delete` and the call of `release`. -/
def Guard.giveUp (sessionId : String) (lease : Nat) (guard : Guard) : Guard :=
  (guard.delete sessionId).release lease

/-- `inspectRemote` answered about the phone of an entry. -/
def Guard.inspectEntry (lease : Nat) (sessions : List String) (guard : Guard) : Guard :=
  guard.record (.inspected (guard.entries lease).device.name sessions)

/-- How `close` goes on after the first `inspectRemote`. -/
inductive Closing
  | releasing
  | deleting
  deriving DecidableEq

def closeInspected (sessionId : String) (lease : Nat) (input : Input) (guard : Guard) :
    Outcome Closing × Guard :=
  match input.answer with
  | .remote sessions =>
      if sessionId ∈ sessions then (.await .deleting, guard.inspectEntry lease sessions)
      else (.await .releasing, (guard.inspectEntry lease sessions).giveUp sessionId lease)
  | _ => (.done (.error .sessionCleanupFailedLockRetained), guard.leave lease sessionId)

/-- The segment after `invokeSession` was asked to delete the session. -/
def deleteAnswered (sessionId : String) (lease : Nat) (input : Input) (guard : Guard) :
    Outcome Unit × Guard :=
  match input.answer with
  | .response true =>
      (.done (.error .sessionCleanupUnconfirmedLockRetained), guard.leave lease sessionId)
  | .response false =>
      match input.sessions with
      | none => (.done (.error .sessionCleanupFailedLockRetained), guard.leave lease sessionId)
      | some sessions =>
          if sessions.any fun item => item.sessionId = sessionId then
            (.done (.error .sessionCleanupUnconfirmedLockRetained), guard.leave lease sessionId)
          else (.await (), guard)
  | _ => (.done (.error .sessionCleanupFailedLockRetained), guard.leave lease sessionId)

def closeConfirmed (sessionId : String) (lease : Nat) (input : Input) (guard : Guard) :
    Outcome Unit × Guard :=
  match input.answer with
  | .remote sessions =>
      if sessionId ∈ sessions then
        (.done (.error .sessionCleanupUnconfirmedLockRetained),
          (guard.inspectEntry lease sessions).leave lease sessionId)
      else (.await (), (guard.inspectEntry lease sessions).giveUp sessionId lease)
  | _ => (.done (.error .sessionCleanupFailedLockRetained), guard.leave lease sessionId)

/-- The last segment of `close`, after `release`. -/
def closeReleased (sessionId : String) (lease : Nat) : Script Response :=
  segment .plain Answer.ofVoid fun input guard =>
    (if input.answer = .settled then .released else .error .sessionCleanupFailedLockRetained,
      guard.leave lease sessionId)

/-- `close` from its first `await` on. -/
def closeRest (sessionId : String) (lease : Nat) : Script Response := do
  (← segment .plain Answer.ofInspect (closeInspected sessionId lease)).andThen fun
    | .releasing => closeReleased sessionId lease
    | .deleting => do
        (← segment .plain Answer.ofInvoke (deleteAnswered sessionId lease)).andThen fun _ => do
          (← segment .plain Answer.ofInspect (closeConfirmed sessionId lease)).andThen fun _ =>
            closeReleased sessionId lease

/-! ## `manage` -/

/-- The arguments of `manage`, by their action. -/
inductive ManageArgs
  | list
  | delete (sessionId : Option String)
  | create (device : Option String)
  | other
  deriving DecidableEq

/-- The `list` action. -/
def listing (guard : Guard) : List Listed :=
  (guard.owned.filterMap fun slot => slot.map fun pair =>
    ⟨some pair.1, (guard.entries pair.2).device.name, (guard.entries pair.2).busy, false⟩) ++
  guard.creating.map fun device => ⟨none, device, true, true⟩

/-- What `manage` awaits first. -/
inductive Managing
  | closing (sessionId : String) (lease : Nat)
  | creating (device : Device)

/-- `manage` up to its first `await`. -/
def manageStart (options : Options) (call : Nat) (args : ManageArgs) (guard : Guard) :
    Outcome Managing × Guard :=
  if guard.closing then (.done (.error .serviceStopping), guard)
  else
    match args with
    | .list => (.done (.listed (listing guard)), guard)
    | .delete sessionId =>
        match closeStart call sessionId guard with
        | (.done response, guard) => (.done response, guard)
        | (.await (sessionId, lease), guard) => (.await (.closing sessionId lease), guard)
    | .other => (.done (.error .unsupportedSessionAction), guard)
    | .create name =>
        match options.devices.find? fun item => some item.name = name with
        | none => (.done (.error .unknownDevice), guard)
        | some device =>
            if device.name ∈ guard.creating ∨ guard.owned.any (guard.about device.name) then
              (.done (.error .deviceBusy), guard)
            else (.await (.creating device), guard.reserve call device.name)

/-- The segment after `acquire`. -/
def acquireAnswered (call : Nat) (device : Device) (input : Input) (guard : Guard) :
    Outcome Nat × Guard :=
  match input.answer with
  | .lease true =>
      (.await guard.leases,
        { guard with leases := guard.leases + 1 }.record (.acquired call guard.leases))
  | .lease false => (.done (.error .deviceBusy), guard.unreserve device.name)
  | _ => (.done (.error .appiumSessionsUnavailable), guard.unreserve device.name)

/-- How a create goes on after `inspectRemote`. -/
inductive Creating
  | abandoned (code : ErrorCode)
  | invoked (previous : List String)
  deriving DecidableEq

/-- The `finally` block with a lease that was not handed over. -/
def Guard.abandon (device : Device) (lease : Nat) (guard : Guard) : Guard :=
  (guard.unreserve device.name).release lease

/-- The segment after `inspectRemote`; it calls `invokeSession` where the phone is free. -/
def foreignInspected (device : Device) (lease : Nat) (input : Input) (guard : Guard) :
    Creating × Guard :=
  match input.answer with
  | .remote [] =>
      match input.sessions with
      | none =>
          (.abandoned .appiumSessionsUnavailable,
            (guard.record (.inspected device.name [])).abandon device lease)
      | some sessions =>
          (.invoked (sessions.map Session.sessionId),
            (guard.record (.inspected device.name [])).record (.started lease))
  | .remote sessions =>
      (.abandoned .foreignSessionBusy,
        (guard.record (.inspected device.name sessions)).abandon device lease)
  | _ => (.abandoned .appiumSessionsUnavailable, guard.abandon device lease)

/-- The session is handed over to the map. -/
def Guard.register (device : Device) (lease : Nat) (sessionId : String) (now : Int)
    (guard : Guard) : Guard :=
  ((guard.set sessionId lease ⟨device, false, now, now⟩).record
    (.registered lease device.name sessionId)).unreserve device.name

/-- The endpoint is fenced and the lease kept in an entry that stays busy. -/
def Guard.retain (device : Device) (lease : Nat) (clock : Nat → Int) (guard : Guard) : Guard :=
  ((guard.fence.set (pendingKey device.name) lease ⟨device, true, clock 0, clock 1⟩).record
    (.retained lease device.name)).unreserve device.name

/-- The session that the registry lists now and did not list before. -/
def newSession (device : Device) (previous : List String) (sessions : List Session) :
    Option Session :=
  sessions.find? fun item => item.sessionId ∉ previous ∧ item.udid = some device.serial

/-- The segment after `invokeSession` was asked to create a session. -/
def createAnswered (options : Options) (device : Device) (lease : Nat) (previous : List String)
    (input : Input) (guard : Guard) : Response × Guard :=
  match input.answer, input.sessions.bind (newSession device previous) with
  | .response _, some created =>
      (.created created.sessionId device.name (options.idleMs / 1000 : Rat)
          (options.maxLeaseMs / 1000 : Rat),
        guard.register device lease created.sessionId (input.clock 0))
  | _, _ =>
      (.error .sessionCreationUnknownRecoveryRequired, guard.retain device lease input.clock)

/-- The `create` action from its first `await` on. -/
def createRest (options : Options) (call : Nat) (device : Device) : Script Response := do
  (← segment .plain Answer.ofAcquire (acquireAnswered call device)).andThen fun lease => do
    match ← segment .plain Answer.ofInspect (foreignInspected device lease) with
    | .abandoned code =>
        segment .plain Answer.ofVoid fun input guard =>
          (if input.answer = .settled then .error code else .threw, guard)
    | .invoked previous =>
        segment (.registry device previous) Answer.ofInvoke
          (createAnswered options device lease previous)

def manage (options : Options) (call : Nat) (args : ManageArgs) : Script Response := do
  (← segment .plain Answer.isNone fun _ => manageStart options call args).andThen fun
    | .closing sessionId lease => closeRest sessionId lease
    | .creating device => createRest options call device

/-! ## `execute` -/

/-- `execute` up to the callback. -/
def executeStart (options : Options) (call : Nat) (sessionId : Option String) (input : Input)
    (guard : Guard) : Outcome (String × Nat) × Guard :=
  if guard.closing then (.done (.error .serviceStopping), guard)
  else
    match sessionId with
    | none => (.done (.error .explicitSessionIdRequired), guard)
    | some sessionId =>
        match guard.get sessionId with
        | none => (.done (.error .sessionNotOwned), guard)
        | some lease =>
            if input.alive = false then (.done (.error .sessionNotOwned), guard)
            else if (guard.entries lease).busy then (.done (.error .deviceBusy), guard)
            else if options.maxLeaseMs ≤ input.clock 0 - (guard.entries lease).created then
              (.done (.error .leaseExpired), guard)
            else (.await (sessionId, lease), guard.enter call lease sessionId .callback)

def execute (options : Options) (call : Nat) (sessionId : Option String) : Script Response := do
  (← segment .plain Answer.isNone (executeStart options call sessionId)).andThen fun running =>
    segment .plain Answer.ofVoid fun input guard =>
      (if input.answer = .settled then .callback else .threw,
        (guard.leave running.2 running.1).onEntry running.2 fun entry =>
          { entry with last := input.clock 0 })

/-! ## `sweep` and `shutdown` -/

/-- The next pair of the map that satisfies the test, from a slot on: iteration is
over the live map. -/
def nextPair (test : Nat → String × Nat → Bool) (position : Nat) :
    List (Option (String × Nat)) → Option (Nat × String)
  | [] => none
  | slot :: slots =>
      match slot with
      | some pair =>
          if test position pair then some (position, pair.1)
          else nextPair test (position + 1) slots
      | none => nextPair test (position + 1) slots

/-- The loops of `sweep` and `shutdown` go on after each `close`. -/
def iterate (call : Nat) (test : Input → Guard → Nat → String × Nat → Bool) (position : Nat)
    (input : Input) (guard : Guard) : Option (Nat × Outcome (String × Nat)) × Guard :=
  match nextPair (test input guard) position (guard.owned.drop position) with
  | none => (none, guard)
  | some (found, sessionId) =>
      let started := closeStart call (some sessionId) guard
      (some (found + 1, started.1), started.2)

/-- Idle or expired entries that no call uses. -/
def sweepTest (options : Options) (input : Input) (guard : Guard) (position : Nat)
    (pair : String × Nat) : Bool :=
  !(guard.entries pair.2).busy &&
    (decide (options.idleMs ≤ input.clock (2 * position) - (guard.entries pair.2).last) ||
      decide (options.maxLeaseMs ≤
        input.clock (2 * position + 1) - (guard.entries pair.2).created))

/-- Close what the test selects.  A loop may take any number of rounds, so the
rounds are counted by `rounds`; a loop that runs out of them stands still. -/
def closeLoop (call : Nat) (test : Input → Guard → Nat → String × Nat → Bool) :
    Nat → Option (Nat × Outcome (String × Nat)) → Script Response
  | _, none => .ret .released
  | 0, some _ => .ret .released
  | rounds + 1, some (position, started) => do
      let _ ← started.andThen fun pending => closeRest pending.1 pending.2
      closeLoop call test rounds
        (← segment .plain Answer.isNone (iterate call test position))

def sweep (options : Options) (call rounds : Nat) : Script Response := do
  closeLoop call (sweepTest options) rounds
    (← segment .plain Answer.isNone (iterate call (sweepTest options) 0))

/-- Creates or calls are under way. -/
def Guard.inUse (guard : Guard) : Bool :=
  !guard.creating.isEmpty ||
    guard.owned.any fun slot => slot.any fun pair => (guard.entries pair.2).busy

/-- `shutdown` waits while it may, else it starts to close. -/
def drain (call : Nat) (deadline : Int) (input : Input) (guard : Guard) :
    Option (Option (Nat × Outcome (String × Nat))) × Guard :=
  if guard.inUse ∧ input.clock 0 < deadline then (none, guard)
  else
    let started := iterate call (fun _ _ _ _ => true) 0 input guard
    (some started.1, started.2)

def drainLoop (call : Nat) (deadline : Int) :
    Nat → Option (Option (Nat × Outcome (String × Nat))) → Script Response
  | rounds, some started => closeLoop call (fun _ _ _ _ => true) rounds started
  | 0, none => .ret .released
  | rounds + 1, none => do
      drainLoop call deadline rounds (← segment .plain Answer.ofVoid (drain call deadline))

/-- The first segment of `shutdown`: the deadline and whether it has to wait. -/
def shutdownStart (call : Nat) (input : Input) (guard : Guard) :
    (Int × Option (Option (Nat × Outcome (String × Nat)))) × Guard :=
  let deadline := input.clock 0 + 45000
  let drained := drain call deadline ⟨input.answer, fun n => input.clock (n + 1), input.alive,
    input.sessions⟩ guard.fence
  ((deadline, drained.1), drained.2)

def shutdown (call rounds : Nat) : Script Response := do
  let started ← segment .plain Answer.isNone (shutdownStart call)
  drainLoop call started.1 rounds started.2

/-! ## The system -/

/-- The calls that a guard serves. -/
inductive GuardOperation (options : Options) (call : Nat) : Script Unit → Prop
  | manage (args : ManageArgs) :
      GuardOperation options call (do let _ ← manage options call args)
  | execute (sessionId : Option String) :
      GuardOperation options call (do let _ ← execute options call sessionId)
  | sweep (rounds : Nat) :
      GuardOperation options call (do let _ ← sweep options call rounds)
  | shutdown (rounds : Nat) :
      GuardOperation options call (do let _ ← shutdown call rounds)

/-- Any number of calls of one guard.  A call whose promise never settles is
abandoned and leaves the guard as it is. -/
def guardSystem (options : Options) : System Guard Input Label Nat where
  operation := GuardOperation options
  crash _ guard := guard
  environment := fun before after => before = after

end TennisAlerts.PiHost
