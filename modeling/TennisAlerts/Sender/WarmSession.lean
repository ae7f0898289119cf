import Mathlib.Logic.Function.Basic

/-!
# The warm session of the sender

The module globals of `sender_agent/app.py` behind `device_lock`: the retained operator, the
lease of its device, the idle timer and the generation.  Requests, status requests, fired timers
and `reset_runtime_state` take the lock in any order.  The holder of the lock goes on step by
step, with the answers of the ledger, the phone and the settings as inputs; in between timers
fire and other workers take free devices and give them back.

The replies to requests do not depend on these globals and are left out.
-/

namespace TennisAlerts.Sender.Warm

/-- An operator object, with its `device_name`. -/
structure Operator where
  device : String
  number : Nat
  deriving DecidableEq

/-- A thread of `threading.Timer`: it waits for its interval, then for the lock. -/
inductive TimerState
  | armed
  | waiting
  | finished
  deriving DecidableEq

/-- A timer with the argument of its `_expire_warm_operator`. -/
structure IdleTimer where
  generation : Nat
  state : TimerState
  deriving DecidableEq

/-- `Timer.cancel`, which only stops a timer that has not fired. -/
def IdleTimer.cancel (timer : IdleTimer) : IdleTimer :=
  if timer.state = .armed then { timer with state := .finished } else timer

/-- Who holds `device_lock`. -/
inductive Holder
  | send (request : Nat)
  | status (request : Nat)
  | timer (number : Nat)
  | reset
  deriving DecidableEq

/-- Where a request of `send_wechat` stands that holds the lock. -/
inductive Phase
  | cancelTimer
  | preparePayload
  | findOperator (url : String)
  | acquireLease (url : String) (existing : Option Operator)
  | claimKey (url : String) (existing : Option Operator)
  | sendMessages (url : String) (existing : Option Operator)
  | finishKey
  | settle
  deriving DecidableEq

/-- What the holder of the lock does next. -/
inductive Turn
  | send (request : Nat) (device : String) (phase : Phase)
  | status (request : Nat)
  | timer (number : Nat)
  | reset
  | leave (holder : Holder)
  deriving DecidableEq

def Turn.holder : Turn → Holder
  | send request _ _ => .send request
  | status request => .status request
  | timer number => .timer number
  | reset => .reset
  | leave holder => holder

/-- The owner of the kernel lock of a device. -/
inductive Owner
  | sender
  | other
  deriving DecidableEq

/-- The history; the newest entry comes first. -/
inductive Entry
  | locked (holder : Holder)
  | unlocked (holder : Holder)
  | armed (timer : Nat) (operator : Operator)
  | closed (holder : Holder) (operator : Operator)
  deriving DecidableEq

/-- The globals, the threads of the timers and the kernel locks. -/
structure Runtime where
  warmOperator : Option Operator
  warmAppiumUrl : String
  deviceLease : Option String
  warmIdleTimer : Option Nat
  warmGeneration : Nat
  deviceLock : Option Turn
  started : Nat
  timer : Nat → IdleTimer
  operators : Nat
  kernel : String → Option Owner
  log : List Entry

/-- What `send_text_messages` returns as its operator. -/
inductive SentWith
  | existing
  | fresh
  | nothing
  deriving DecidableEq

/-- What the next step of the holder of the lock gets from outside. -/
inductive Answer
  | done
  | raised
  | url (value : String)
  | leaseTimeout
  | claim (claimed : Bool)
  | sent (result : SentWith)
  deriving DecidableEq

/-- A step of the process or of the world around it. -/
inductive Move
  | send (request : Nat) (device allowedDevice : String)
  | status (request : Nat)
  | reset
  | fire (timer : Nat)
  | expire (timer : Nat)
  | proceed (answer : Answer)
  | occupy (device : String)
  | vacate (device : String)
  deriving DecidableEq

namespace Runtime

/-- The module is loaded while other workers hold some devices. -/
def start (busy : String → Bool) : Runtime where
  warmOperator := none
  warmAppiumUrl := ""
  deviceLease := none
  warmIdleTimer := none
  warmGeneration := 0
  deviceLock := none
  started := 0
  timer _ := ⟨0, .finished⟩
  operators := 0
  kernel device := if busy device then some .other else none
  log := []

/-- `_cancel_warm_idle_timer`. -/
def cancelWarmIdleTimer (runtime : Runtime) : Runtime :=
  { runtime with
    warmGeneration := runtime.warmGeneration + 1
    warmIdleTimer := none
    timer :=
      match runtime.warmIdleTimer with
      | some number => Function.update runtime.timer number (runtime.timer number).cancel
      | none => runtime.timer }

/-- `DeviceLease.release`. -/
def releaseLease (runtime : Runtime) : Runtime :=
  match runtime.deviceLease with
  | some device =>
      { runtime with
        deviceLease := none
        kernel := Function.update runtime.kernel device none }
  | none => runtime

/-- `operator.close()`, which may raise. -/
def close (holder : Holder) (operator : Option Operator) (runtime : Runtime) : Runtime :=
  match operator with
  | some operator => { runtime with log := .closed holder operator :: runtime.log }
  | none => runtime

/-- `_discard_warm_operator`. -/
def discardWarmOperator (holder : Holder) (runtime : Runtime) : Runtime :=
  let operator := runtime.warmOperator
  let runtime := { runtime.cancelWarmIdleTimer with warmOperator := none, warmAppiumUrl := "" }
  (runtime.close holder operator).releaseLease

/-- `_arm_warm_idle_timer`. -/
def armWarmIdleTimer (runtime : Runtime) : Runtime :=
  let runtime := runtime.cancelWarmIdleTimer
  match runtime.warmOperator with
  | none => runtime
  | some operator =>
      { runtime with
        warmIdleTimer := some runtime.started
        started := runtime.started + 1
        timer := Function.update runtime.timer runtime.started ⟨runtime.warmGeneration, .armed⟩
        log := .armed runtime.started operator :: runtime.log }

/-- `_usable_warm_operator`. -/
def usableWarmOperator (holder : Holder) (device url : String) (runtime : Runtime) :
    Runtime × Option Operator :=
  match runtime.warmOperator with
  | none => (runtime, none)
  | some operator =>
      if runtime.warmAppiumUrl ≠ url ∨ operator.device ≠ device then
        (runtime.discardWarmOperator holder, none)
      else (runtime, some operator)

/-- The lock is taken. -/
def enter (turn : Turn) (runtime : Runtime) : Runtime :=
  { runtime with deviceLock := some turn, log := .locked turn.holder :: runtime.log }

/-- The holder of the lock goes on with something else. -/
def goOn (turn : Turn) (runtime : Runtime) : Runtime :=
  { runtime with deviceLock := some turn }

/-- `device_lock.release()`. -/
def leave (holder : Holder) (runtime : Runtime) : Runtime :=
  { runtime with deviceLock := none, log := .unlocked holder :: runtime.log }

/-- The operator that `send_text_messages` returns is retained; one that it does not return it
has closed. -/
def retain (holder : Holder) (device url : String) (existing : Option Operator)
    (result : SentWith) (runtime : Runtime) : Option Runtime :=
  match result with
  | .existing =>
      existing.map fun operator =>
        { runtime with warmOperator := some operator, warmAppiumUrl := url }
  | .fresh =>
      some { runtime.close holder existing with
        warmOperator := some ⟨device, runtime.operators⟩
        warmAppiumUrl := url
        operators := runtime.operators + 1 }
  | .nothing =>
      some { runtime.close holder existing with warmOperator := none, warmAppiumUrl := url }

/-- The body of `send_wechat` under the lock, and its `finally`. -/
def stepSend (request : Nat) (device : String) (phase : Phase) (answer : Answer)
    (runtime : Runtime) : Option Runtime :=
  let holder := Holder.send request
  let settled := Turn.send request device .settle
  match phase, answer with
  | .cancelTimer, .done =>
      some (runtime.cancelWarmIdleTimer.goOn (.send request device .preparePayload))
  | .preparePayload, .raised => some (runtime.goOn settled)
  | .preparePayload, .url value =>
      some (runtime.goOn (.send request device (.findOperator value)))
  | .findOperator url, .done =>
      let (runtime, existing) := runtime.usableWarmOperator holder device url
      some (runtime.goOn (.send request device (.acquireLease url existing)))
  | .acquireLease url existing, .done =>
      if runtime.deviceLease.isSome then
        some (runtime.goOn (.send request device (.claimKey url existing)))
      else if runtime.kernel device = none then
        some ({ runtime with
          deviceLease := some device
          kernel := Function.update runtime.kernel device (some .sender) }.goOn
            (.send request device (.claimKey url existing)))
      else none
  | .acquireLease _ _, .leaseTimeout =>
      if runtime.deviceLease.isSome then none else some (runtime.goOn settled)
  | .acquireLease _ _, .raised =>
      if runtime.deviceLease.isSome then none else some (runtime.goOn settled)
  | .claimKey _ _, .raised => some (runtime.goOn settled)
  | .claimKey url existing, .claim claimed =>
      if claimed then some (runtime.goOn (.send request device (.sendMessages url existing)))
      else some (runtime.goOn settled)
  | .sendMessages _ _, .raised =>
      some ((runtime.discardWarmOperator holder).goOn (.send request device .finishKey))
  | .sendMessages url existing, .sent result =>
      (runtime.retain holder device url existing result).map
        (·.goOn (.send request device .finishKey))
  | .finishKey, .raised => some (runtime.goOn settled)
  | .finishKey, .done => some (runtime.goOn settled)
  | .settle, .done =>
      if runtime.warmOperator = none then
        some ((runtime.discardWarmOperator holder).goOn (.leave holder))
      else some (runtime.armWarmIdleTimer.goOn (.leave holder))
  | _, _ => none

/-- The next step of the holder of the lock. -/
def stepTurn (turn : Turn) (answer : Answer) (runtime : Runtime) : Option Runtime :=
  match turn with
  | .send request device phase => runtime.stepSend request device phase answer
  | .status request => some (runtime.goOn (.leave (.status request)))
  | .timer number =>
      if (runtime.timer number).generation = runtime.warmGeneration then
        some ((runtime.discardWarmOperator (.timer number)).goOn (.leave (.timer number)))
      else some (runtime.goOn (.leave (.timer number)))
  | .reset => some ((runtime.discardWarmOperator .reset).goOn (.leave .reset))
  | .leave holder => some (runtime.leave holder)

/-- A step, or `none` where it cannot be taken. -/
def step (runtime : Runtime) : Move → Option Runtime
  | .send request device allowedDevice =>
      if allowedDevice = "" ∨ device ≠ allowedDevice then some runtime
      else if runtime.deviceLock = none then
        some (runtime.enter (.send request device .cancelTimer))
      else none
  | .status request =>
      if runtime.deviceLock = none then some (runtime.enter (.status request)) else some runtime
  | .reset => if runtime.deviceLock = none then some (runtime.enter .reset) else none
  | .fire number =>
      if (runtime.timer number).state = .armed then
        some { runtime with
          timer := Function.update runtime.timer number
            { runtime.timer number with state := .waiting } }
      else none
  | .expire number =>
      if (runtime.timer number).state = .waiting ∧ runtime.deviceLock = none then
        some ({ runtime with
          timer := Function.update runtime.timer number
            { runtime.timer number with state := .finished } }.enter (.timer number))
      else none
  | .proceed answer => runtime.deviceLock.bind fun turn => runtime.stepTurn turn answer
  | .occupy device =>
      if runtime.kernel device = none then
        some { runtime with kernel := Function.update runtime.kernel device (some .other) }
      else none
  | .vacate device =>
      if runtime.kernel device = some .other then
        some { runtime with kernel := Function.update runtime.kernel device none }
      else none

/-- A run; a move that cannot be made changes nothing. -/
def run (runtime : Runtime) (moves : List Move) : Runtime :=
  moves.foldl (fun runtime move => (runtime.step move).getD runtime) runtime

end Runtime

end TennisAlerts.Sender.Warm
