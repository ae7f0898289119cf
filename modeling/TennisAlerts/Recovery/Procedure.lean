import TennisAlerts.Concurrent.Failing
import TennisAlerts.Recovery.HostChecks

/-!
# The recovery procedure

`recover` and `rollback` of `email_recovery_host.py`, and other operators, over the
control row that they share.  What `git`, `docker` and `curl` print is input, and so is
the fate of every probe: its transaction may not take place, and its response may be
lost.  The history is written and never read.
-/

namespace TennisAlerts.Recovery

open TennisAlerts.Concurrent

/-! ## The shared state -/

inductive Operator
  | recovery
  | other (number : Nat)
  deriving DecidableEq

inductive Event
  | looked (row : ControlRow)
  | wrote (operator : Operator) (before after : ControlRow)
  | started
  | stopped (row : ControlRow) (writer : Option Operator)
  deriving DecidableEq

/-- The control row, who wrote it in this run, the values of `updated_at` so far, and
the history, whose newest entry comes first. -/
structure Desk where
  control : ControlRow
  writer : Option Operator
  written : List Int
  log : List Event

/-- The desk before the run. -/
def Desk.initial (control : ControlRow) : Desk :=
  ⟨control, none, [control.updatedAt], []⟩

def Desk.record (desk : Desk) (event : Event) : Desk :=
  { desk with log := event :: desk.log }

/-- A transaction of an operator commits. -/
def Desk.write (desk : Desk) (operator : Operator) (row : ControlRow) : Desk where
  control := row
  writer := some operator
  written := row.updatedAt :: desk.written
  log := .wrote operator desk.control row :: desk.log

/-- What becomes of a probe. -/
inductive Fate
  | delivered
  | lost
  | unreached
  deriving DecidableEq

inductive Input
  | readings (readings : Except String Readings)
  | endpoints (endpoints : Except String Endpoints)
  | probe (found : Surroundings) (fate : Fate)
  | docker (failure : Option String)
  | clock (late : Bool)
  | switch (verified : Bool) (now : Int)

inductive Label
  | read
  | look
  | write
  | start
  | stop
  deriving DecidableEq

abbrev Procedure (α : Type) := Failing Desk Input Label String α

/-! ## Actions -/

/-- `container_identity`, with its commands. -/
def readContainers (expected : String) (allowApiStopped : Bool) : Procedure Identities :=
  Failing.action .read fun desk input =>
    match input with
    | .readings readings => some (desk, readings.bind (containerIdentity expected allowApiStopped))
    | _ => none

/-- `endpoint_checks`, with its requests. -/
def readEndpoints (expected : String) : Procedure Unit :=
  Failing.action .read fun desk input =>
    match input with
    | .endpoints endpoints => some (desk, endpoints.bind (endpointChecks expected))
    | _ => none

/-- `time.monotonic() < deadline` fails. -/
def deadlinePassed : Procedure Bool :=
  Failing.action .read fun desk input =>
    match input with
    | .clock late => some (desk, .ok late)
    | _ => none

/-- The response of a probe, or the exception of `probe`. -/
def respond {α : Type} (fate : Fate) (result : Except Refusal α) : Except String α :=
  match fate, result with
  | .delivered, .ok value => .ok value
  | .delivered, .error refusal => .error (probeReason refusal)
  | _, _ => .error "unexpected_failure"

/-- What a probe with the operation `snapshot` leaves and returns. -/
def runSnapshot (expected : String) (found : Surroundings) (fate : Fate) (desk : Desk) :
    Desk × Except String Snapshot :=
  if fate = .unreached then (desk, .error "unexpected_failure")
  else
    match snapshot expected found desk.control with
    | .ok result => (desk.record (.looked desk.control), respond fate (.ok result))
    | .error refusal => (desk, respond fate (.error refusal))

/-- `probe` with the operation `snapshot`. -/
def probeSnapshot (expected : String) : Procedure Snapshot :=
  Failing.action .look fun desk input =>
    match input with
    | .probe found fate => some (runSnapshot expected found fate desk)
    | _ => none

/-- What a probe with an operation of `mutate` leaves and returns. -/
def runMutate (expected : String) (operation : Operation) (token : Int) (found : Surroundings)
    (fate : Fate) (desk : Desk) : Desk × Except String Int :=
  if fate = .unreached then (desk, .error "unexpected_failure")
  else
    match mutate expected operation token found desk.control with
    | .ok row => (desk.write .recovery row, respond fate (.ok row.updatedAt))
    | .error refusal => (desk, respond fate (.error refusal))

/-- `probe` with an operation of `mutate`: the new `updatedAt`. -/
def probeMutate (expected : String) (operation : Operation) (token : Int) : Procedure Int :=
  Failing.action .write fun desk input =>
    match input with
    | .probe found fate => some (runMutate expected operation token found fate desk)
    | _ => none

/-- `docker start` and `docker stop`; a command that fails may have had its effect. -/
def docker (label : Label) (event : Desk → Event) : Procedure Unit :=
  Failing.action label fun desk input =>
    match input with
    | .docker none => some (desk.record (event desk), .ok ())
    | .docker (some failure) => some (desk.record (event desk), .error failure)
    | _ => none

def startMail : Procedure Unit :=
  docker .start fun _ => .started

def stopMail : Procedure Unit :=
  docker .stop fun desk => .stopped desk.control desk.writer

/-! ## The procedure -/

/-- `wait_for_worker`; the deadline passes at the latest after so many rounds. -/
def waitForWorker (expected : String) (identities : Identities) (token since : Int)
    (active : Bool) : Nat → Procedure Snapshot
  | 0 => throw "email consumer did not produce the required fresh heartbeat"
  | rounds + 1 => do
      let late ← deadlinePassed
      Failing.ofExcept (refuseIf late
        "email consumer did not produce the required fresh heartbeat")
      let current ← readContainers expected false
      Failing.ofExcept (assertSameContainers identities current)
      Failing.ofExcept (refuseIf (current.mail.status ≠ "running")
        "email worker stopped during recovery")
      let snapshot ← probeSnapshot expected
      Failing.ofExcept (validateSnapshot expected snapshot)
      Failing.ofExcept (refuseIf
        (snapshot.state.updatedAt ≠ token || snapshot.state.deliveryEnabled ≠ active)
        "delivery state changed during recovery")
      if freshHeartbeat expected since active snapshot then
        return snapshot
      waitForWorker expected identities token since active rounds

/-- The reports of `rollback`. -/
inductive Rollback
  | stateChanged
  | uncertain
  | stopped
  | incomplete
  deriving DecidableEq

/-- The body of `rollback`. -/
def rollbackBody (expected : String) (identities : Identities) (before : Snapshot)
    (enabledToken : Option Int) : Procedure Rollback := do
  let current ← readContainers expected true
  Failing.ofExcept (assertSameContainers identities current)
  -- the probe in the API container, or else in the mail container
  let found ← tryCatch (probeSnapshot expected) fun _ => probeSnapshot expected
  if found.state.wechatEnabled then
    return .stateChanged
  match enabledToken with
  | some token =>
      if found.state.updatedAt ≠ token || !found.state.deliveryEnabled then
        return .stateChanged
      let _ ← probeMutate expected .pause token
      stopMail
      return .stopped
  | none =>
      if found.state.updatedAt ≠ before.state.updatedAt || found.state.deliveryEnabled then
        return .uncertain
      stopMail
      return .stopped

/-- `rollback`. -/
def rollback (expected : String) (identities : Identities) (before : Snapshot)
    (enabledToken : Option Int) : Procedure Rollback :=
  tryCatch (rollbackBody expected identities before enabledToken) fun _ => return .incomplete

inductive RequestedOperation
  | preflight
  | resume
  | status
  deriving DecidableEq

/-- The reports of `recover`. -/
inductive Report
  | preflight
  | alreadyActive (ok : Bool)
  | paused
  | recovered (startedAt : Int)
  | failed (reason : String) (rollback : Rollback)
  deriving DecidableEq

/-- The part of `recover` from the enabling on; a failure of it rolls back with the
token. -/
def finishRecovery (expected : String) (identities : Identities) (before : Snapshot)
    (rounds : Nat) (token : Int) : Procedure Report :=
  tryCatch (do
    let _ ← waitForWorker expected identities token token true rounds
    readEndpoints expected
    return .recovered token) fun failure => do
      let result ← rollback expected identities before (some token)
      return .failed failure result

/-- The part of `recover` up to the enabling. -/
def enableDelivery (expected : String) (identities : Identities) (before : Snapshot)
    (rounds : Nat) : Procedure Int := do
  startMail
  let _ ← waitForWorker expected identities before.state.updatedAt before.generatedAt false rounds
  let current ← readContainers expected false
  Failing.ofExcept (assertSameContainers identities current)
  probeMutate expected .enable before.state.updatedAt

/-- The `try` of `recover`: a failure before the token is known rolls back without it. -/
def resumeDelivery (expected : String) (identities : Identities) (before : Snapshot)
    (rounds : Nat) : Procedure Report := do
  let enabled ← tryCatch (do
    let token ← enableDelivery expected identities before rounds
    return Except.ok token) fun failure => return Except.error failure
  match enabled with
  | .ok token => finishRecovery expected identities before rounds token
  | .error failure => do
      let result ← rollback expected identities before none
      return .failed failure result

/-- `recover`. -/
def recover (expected : String) (operation : RequestedOperation) (rounds : Nat) :
    Procedure Report := do
  Failing.ofExcept (refuseIf (!isCommit expected) "invalid bounded recovery request")
  let identities ← readContainers expected false
  let before ← probeSnapshot expected
  Failing.ofExcept (validateSnapshot expected before)
  readEndpoints expected
  if operation = .preflight then
    return .preflight
  if before.state.deliveryEnabled then
    return .alreadyActive (identities.mail.status = "running" &&
      freshHeartbeat expected before.state.updatedAt true before)
  if operation = .status then
    return .paused
  Failing.ofExcept (refuseIf (!(["exited", "created"].contains identities.mail.status))
    "paused recovery requires the existing email worker stopped")
  resumeDelivery expected identities before rounds

/-! ## Other operators -/

/-- `set_delivery_enabled` of another operator. -/
def switchDelivery (number : Nat) (enabled : Bool) (commitId : String) :
    Program Desk Input Label Unit :=
  .act .write (fun desk input =>
    match input with
    | .switch verified now =>
        match setDeliveryEnabled enabled commitId verified now desk.control with
        | some row => some (desk.write (.other number) row)
        | none => some desk
    | _ => none) fun _ _ => .ret ()

/-- `mutate` of another operator. -/
def mutateControl (number : Nat) (expected : String) (operation : Operation) (token : Int) :
    Program Desk Input Label Unit :=
  .act .write (fun desk input =>
    match input with
    | .probe found _ =>
        match mutate expected operation token found desk.control with
        | .ok row => some (desk.write (.other number) row)
        | .error _ => some desk
    | _ => none) fun _ _ => .ret ()

inductive OtherOperation (number : Nat) : Program Desk Input Label Unit → Prop
  | switch (enabled : Bool) (commitId : String) :
      OtherOperation number (switchDelivery number enabled commitId)
  | mutate (expected : String) (operation : Operation) (token : Int) :
      OtherOperation number (mutateControl number expected operation token)

/-- The other operators act at any time; the recovery has begun before. -/
def controlSystem : System Desk Input Label Operator where
  operation
    | .recovery, _ => False
    | .other number, program => OtherOperation number program
  crash _ desk := desk
  environment before after := after = before

/-- One recovery over the control row. -/
def beginning (control : ControlRow) (expected : String) (operation : RequestedOperation)
    (rounds : Nat) : Config Desk Input Label Operator where
  shared := .initial control
  threads
    | .recovery => (recover expected operation rounds).ended
    | .other _ => .ret ()

end TennisAlerts.Recovery
