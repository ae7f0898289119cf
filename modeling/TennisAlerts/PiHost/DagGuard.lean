import TennisAlerts.Concurrent.Failing

/-!
# The guard of the paused DAGs

`run_guard` of `pi_ydmap_dag_guard.py`: it pauses the DAGs once they are idle, proves
that they are drained, keeps them paused for the time of a lease, and restores what it
found.  A statement of the `try` may be interrupted before it takes effect, and a call
also after it; local variables that the `finally` reads are part of the state.  What
the backend answers, the release and the fate of each report are inputs.
-/

namespace TennisAlerts.PiHost.DagGuard

open TennisAlerts.Concurrent

/-- Which DAGs were paused. -/
abbrev PauseState :=
  List (String × Bool)

/-- The proof of a drained state. -/
structure Proof where
  guardId : String
  targetCommit : String
  issuedAt : Int
  expiresAt : Int
  dags : PauseState
  deriving DecidableEq

inductive Event
  | paused (state : PauseState)
  | counted (tasks runs : Int)
  /-- A call of `restore` and its result, if it returned. -/
  | restoring (state : PauseState) (result : Option Bool) (time : Int)
  | drained (proof : Proof) (deadline : Int)
  | failed (errorClass : String)
  | released (answer : String)
  | exiting (state : PauseState) (start : Int)
  /-- The clock is read before another attempt to restore. -/
  | looked (time : Int)
  | finished (restored : Bool) (state : PauseState) (time : Int)
  | returned (code : Nat)
  deriving DecidableEq

/-- The clock, `backend.original`, the variables of the function and the history, whose
newest entry comes first. -/
structure Desk where
  now : Int
  recorded : PauseState
  original : PauseState
  ok : Bool
  holdDeadline : Option Int
  log : List Event

def Desk.initial (now : Int) : Desk :=
  ⟨now, [], [], false, none, []⟩

def Desk.record (desk : Desk) (event : Event) : Desk :=
  { desk with log := event :: desk.log }

inductive Input
  | done
  | raised (errorClass : String)
  /-- The pause commits; afterwards it may raise. -/
  | dags (state : PauseState) (errorClass : Option String)
  /-- The pause records the state and does not commit. -/
  | uncommitted (state : PauseState) (errorClass : String)
  | counts (tasks runs : Int)
  | answer (restored : Bool)
  | text (answer : String)
  | time (seconds : Int)
  /-- The output is lost, which `safe_emit` ignores. -/
  | lost

abbrev Guard (α : Type) := Failing Desk Input Unit String α

/-! ## Statements -/

/-- A statement about the variables, or an interruption before it. -/
def statement {α : Type} (effect : Desk → Desk × α) : Guard α :=
  Failing.action () fun desk input =>
    match input with
    | .done => some ((effect desk).1, .ok (effect desk).2)
    | .raised errorClass => some (desk, .error errorClass)
    | _ => none

/-- A statement of the `finally`, where signals are ignored. -/
def protectedly {α : Type} (effect : Desk → Desk × α) : Guard α :=
  Failing.action () fun desk input =>
    match input with
    | .done => some ((effect desk).1, .ok (effect desk).2)
    | _ => none

/-- Nothing happens any more. -/
def stuck {α : Type} : Guard α :=
  Failing.action () fun _ _ => none

def readClock : Guard Int :=
  statement fun desk => (desk, desk.now)

def readOriginal : Guard PauseState :=
  statement fun desk => (desk, desk.original)

def assign (change : Desk → Desk) : Guard Unit :=
  statement fun desk => (change desk, ())

/-- `sleep`; the clock goes on by itself. -/
def pauseAWhile : Guard Unit :=
  assign id

/-- `backend.pause`: it records a state with a DAG before it commits, and refuses busy
DAGs before that. -/
def pauseBackend : Guard PauseState :=
  Failing.action () fun desk input =>
    match input with
    | .dags state errorClass =>
        if state = [] ∨ errorClass = some "DrainBusy" then none
        else
          let after := { desk.record (.paused state) with recorded := state }
          match errorClass with
          | none => some (after, .ok state)
          | some errorClass => some (after, .error errorClass)
    | .uncommitted state errorClass =>
        if state = [] ∨ errorClass = "DrainBusy" then none
        else some ({ desk with recorded := state }, .error errorClass)
    | .raised errorClass => some (desk, .error errorClass)
    | _ => none

def countBackend : Guard (Int × Int) :=
  Failing.action () fun desk input =>
    match input with
    | .counts tasks runs => some (desk.record (.counted tasks runs), .ok (tasks, runs))
    | .raised errorClass => some (desk, .error errorClass)
    | _ => none

/-- `backend.restore` in the `try`. -/
def restoreBackend (state : PauseState) : Guard Bool :=
  Failing.action () fun desk input =>
    match input with
    | .answer restored =>
        some (desk.record (.restoring state (some restored) desk.now), .ok restored)
    | .raised errorClass => some (desk.record (.restoring state none desk.now), .error errorClass)
    | _ => none

/-- `safe_emit`. -/
def safeEmit (event : Desk → Event) : Guard Unit :=
  Failing.action () fun desk input =>
    match input with
    | .done | .lost => some (desk.record (event desk), .ok ())
    | .raised errorClass => some (desk.record (event desk), .error errorClass)
    | _ => none

/-- `release`. -/
def awaitRelease : Guard String :=
  Failing.action () fun desk input =>
    match input with
    | .text answer => some (desk.record (.released answer), .ok answer)
    | .raised errorClass => some (desk, .error errorClass)
    | _ => none

/-- `int(now())`. -/
def wallClock : Guard Int :=
  Failing.action () fun desk input =>
    match input with
    | .time seconds => some (desk, .ok seconds)
    | .raised errorClass => some (desk, .error errorClass)
    | _ => none

/-! ## The drain -/

def drainTimeout : Int :=
  600

/-- `HOLD_SECONDS`. -/
def holdSeconds : Int :=
  1620

/-- `PROOF_MARGIN_SECONDS`. -/
def proofMarginSeconds : Int :=
  90

/-- `DAG_IDS`. -/
def dagIds : List String :=
  ["大沙河国际网球中心巡检"]

/-- The attempt to pause: `true` where the DAGs are busy. -/
def tryPause : Guard Bool :=
  tryCatch (do
    let state ← pauseBackend
    return some state) (fun errorClass =>
      if errorClass = "DrainBusy" then return none else throw errorClass) >>= fun state =>
    match state with
    | none => return true
    | some state => do
        assign fun desk => { desk with original := state }
        return false

/-- `if not original` and the attempt to pause. -/
def acquire : Guard Bool := do
  let original ← readOriginal
  if original = [] then tryPause else return false

/-- The flags are restored so that a task that raced the pause can finish. -/
def giveWay : Guard Unit := do
  let original ← readOriginal
  let restored ← restoreBackend original
  if restored then
    assign fun desk => { desk with original := [] }
    assign fun desk => { desk with recorded := [] }
    pauseAWhile
  else throw "RuntimeError"

/-- The drain loop, after so many empty cycles. -/
def drain (deadline : Int) : Nat → Nat → Guard Unit
  | 0, _ => stuck
  | rounds + 1, cycles => do
      let time ← readClock
      if time < deadline then
        let busy ← acquire
        if busy then
          pauseAWhile
          drain deadline rounds cycles
        else
          let (tasks, runs) ← countBackend
          if tasks ≠ 0 ∨ runs ≠ 0 then
            giveWay
            drain deadline rounds 0
          else if cycles + 1 ≥ 2 then return ()
          else
            pauseAWhile
            drain deadline rounds (cycles + 1)
      else throw "TimeoutError"

/-- The `dags` of a proof. -/
def provenDags (original : PauseState) : PauseState :=
  dagIds.filterMap fun dag => (original.lookup dag).map fun paused => (dag, paused)

/-- The body of the `try`. -/
def guardBody (guardId commit : String) (rounds : Nat) : Guard Unit := do
  let start ← readClock
  drain (start + drainTimeout) rounds 0
  assign fun desk => { desk with holdDeadline := some (desk.now + holdSeconds) }
  let issuedAt ← wallClock
  let original ← readOriginal
  safeEmit fun desk => .drained
    { guardId := guardId
      targetCommit := commit
      issuedAt := issuedAt
      expiresAt := issuedAt + holdSeconds - proofMarginSeconds
      dags := provenDags original }
    (desk.holdDeadline.getD desk.now)
  let answer ← awaitRelease
  assign fun desk => { desk with ok := answer = "release" }

/-! ## The exit -/

/-- The fence is kept up to its deadline, unless it was released. -/
def holdFence : Nat → Guard Unit
  | 0 => stuck
  | rounds + 1 => do
      let lapsed ← protectedly fun desk =>
        (desk, desk.ok || desk.holdDeadline.all fun deadline => deadline ≤ desk.now)
      if lapsed then return () else holdFence rounds

/-- `backend.restore` in the `finally`, which ignores its exceptions. -/
def retryRestore (state : PauseState) : Guard Bool :=
  Failing.action () fun desk input =>
    match input with
    | .answer restored =>
        some (desk.record (.restoring state (some restored) desk.now), .ok restored)
    | .raised _ => some (desk.record (.restoring state none desk.now), .ok false)
    | _ => none

def restoreLoop (state : PauseState) (deadline : Int) : Nat → Guard Bool
  | 0 => stuck
  | rounds + 1 => do
      let time ← protectedly fun desk => (desk.record (.looked desk.now), desk.now)
      if time < deadline then
        let restored ← retryRestore state
        if restored then return true else restoreLoop state deadline rounds
      else return false

/-- The restoration of what was paused, within a minute. -/
def restoreOriginal (rounds : Nat) : Guard Bool := do
  let state ← protectedly fun desk =>
    let state := if desk.original = [] then desk.recorded else desk.original
    ({ desk with original := state }, state)
  if state = [] then return true
  else
    let start ← protectedly fun desk => (desk.record (.exiting state desk.now), desk.now)
    restoreLoop state (start + 60) rounds

/-- The `finally` and the result; its first statement may still be interrupted. -/
def guardExit (rounds : Nat) : Guard Bool := do
  assign id
  holdFence rounds
  let restored ← restoreOriginal rounds
  safeEmit fun desk => .finished restored desk.original desk.now
  return restored

/-- The handler of the `try`. -/
def reportFailure (errorClass : String) : Guard Unit := do
  let name ← statement fun desk => (desk, errorClass)
  safeEmit fun _ => .failed name

/-- `run_guard`. -/
def runGuard (guardId commit : String) (rounds : Nat) : Guard Unit := do
  let raised ← tryCatch (do
    tryCatch (guardBody guardId commit rounds) reportFailure
    return none) fun errorClass => return some errorClass
  let restored ← guardExit rounds
  match raised with
  | some errorClass => throw errorClass
  | none =>
      protectedly fun desk => (desk.record (.returned (if desk.ok && restored then 0 else 1)), ())

/-- Time passes while the guard runs. -/
def guardSystem : System Desk Input Unit Unit where
  operation _ _ := False
  crash _ desk := desk
  environment before after := ∃ elapsed : Nat, after = { before with now := before.now + elapsed }

/-- One run of the guard. -/
def beginning (now : Int) (guardId commit : String) (rounds : Nat) :
    Config Desk Input Unit Unit where
  shared := .initial now
  threads _ := (runGuard guardId commit rounds).ended

end TennisAlerts.PiHost.DagGuard
