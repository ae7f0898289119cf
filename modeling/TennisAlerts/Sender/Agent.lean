import TennisAlerts.Concurrent.Program
import TennisAlerts.Sender.Ledger
import Mathlib.Logic.Nontrivial.Defs

/-!
# The sender agent

`send_wechat` and `send_status` of `sender_agent/app.py`, down to the clicks of
`appium_text_sender.py`.  A process has one device lock and at most one warm
operator; an operator object refers to the `SendProgress` object that was last
assigned to it.  What the phone shows is an input: every step of the user
interface may go on or raise.

The device lock can be left out (`locked := false`), which is how the ledger is
examined on its own.
-/

namespace TennisAlerts.Sender

open TennisAlerts.Concurrent

/-- A request handler of one sender process. -/
structure Handler where
  process : String
  number : Nat
  deriving DecidableEq

instance : Nontrivial Handler :=
  ⟨⟨"", 0⟩, ⟨"", 1⟩, by decide⟩

/-- An operator object of a process. -/
structure OperatorId where
  process : String
  number : Nat
  deriving DecidableEq

/-- A `SendProgress` object; its checkpoint marks `key`. -/
structure Progress where
  key : String
  submissionStarted : Bool
  confirmedCount : Nat
  deriving DecidableEq

/-- `submission_started = True`. -/
def Progress.start (progress : Progress) : Progress :=
  { progress with submissionStarted := true }

/-- `confirmed_count += 1`. -/
def Progress.confirm (progress : Progress) : Progress :=
  { progress with confirmedCount := progress.confirmedCount + 1 }

/-- What the history of the sender records. -/
inductive Event
  | received (handler : Handler) (ticket : Nat) (request : SendRequest)
  | claimed (ticket : Nat) (key payloadHash : String) (answer : ClaimAnswer)
  | passed (ticket : Nat) (key : String)
  | clicked (ticket : Nat) (key : String)
  | responded (ticket : Nat) (reply : Reply)
  | looked (key payloadHash : String) (evidence : Evidence)
  deriving DecidableEq

/-- The request an entry is about. -/
def Event.ticket : Event → Option Nat
  | .received _ ticket _ | .claimed ticket _ _ _ | .passed ticket _ | .clicked ticket _
  | .responded ticket _ => some ticket
  | .looked _ _ _ => none

/-- The shared state of the sender's processes.  The ledger is durable; the
newest history entry comes first. -/
structure Agent where
  clock : Int
  ledger : Ledger
  progress : Nat → Progress
  operatorProgress : OperatorId → Nat
  operators : String → Nat
  warm : String → Option OperatorId
  leased : String → Bool
  deviceLock : String → Option Handler
  log : List Event

namespace Agent

/-- The sender starts over a durable ledger. -/
def start (clock : Int) (ledger : Ledger) : Agent where
  clock := clock
  ledger := ledger
  progress _ := ⟨"", false, 0⟩
  operatorProgress _ := 0
  operators _ := 0
  warm _ := none
  leased _ := false
  deviceLock _ := none
  log := []

/-- Append to the history. -/
def record (agent : Agent) (event : Event) : Agent :=
  { agent with log := event :: agent.log }

/-- Change the progress object of a request. -/
def onProgress (agent : Agent) (ticket : Nat) (change : Progress → Progress) : Agent :=
  { agent with
    progress := Function.update agent.progress ticket (change (agent.progress ticket)) }

@[simp]
theorem progress_onProgress (agent : Agent) (ticket : Nat) (change : Progress → Progress) :
    (agent.onProgress ticket change).progress ticket = change (agent.progress ticket) := by
  simp [onProgress]

@[simp]
theorem log_onProgress (agent : Agent) (ticket : Nat) (change : Progress → Progress) :
    (agent.onProgress ticket change).log = agent.log :=
  rfl

/-- `_discard_warm_operator`. -/
def discardWarmOperator (process : String) (agent : Agent) : Agent :=
  { agent with
    warm := Function.update agent.warm process none
    leased := Function.update agent.leased process false }

/-- A handler that held the device lock when it died takes its process along. -/
def crash (handler : Handler) (agent : Agent) : Agent :=
  if agent.deviceLock handler.process = some handler then
    { agent.discardWarmOperator handler.process with
      deviceLock := Function.update agent.deviceLock handler.process none }
  else agent

end Agent

/-- `CURRENT_TIMESTAMP` of SQLite. -/
def currentTimestamp (clock : Int) : Int :=
  clock / 1000000 * 1000000

/-- Exceptions of `send_text_messages`, by their `error_code`; any other exception
counts as a failed send. -/
inductive SendError
  | sendFailed
  | invalidRequest
  | wechatNotReady
  | contactNotFound
  | appiumTimeout
  deriving DecidableEq

def SendError.code : SendError → String
  | .sendFailed => "send_failed"
  | .invalidRequest => "invalid_request"
  | .wechatNotReady => "wechat_not_ready"
  | .contactNotFound => "contact_not_found"
  | .appiumTimeout => "appium_timeout"

/-- A ledger call may fail before or after its statement took effect. -/
inductive Fault
  | none
  | before
  | after
  deriving DecidableEq

/-- What an action may learn from outside the ledger. -/
inductive Input
  | none
  | flag (value : Bool)
  | raised (error : Option SendError)
  | fault (fault : Fault)
  deriving DecidableEq

/-- Actions that a composition singles out. -/
inductive Label
  | plain
  | arrive (ticket : Nat) (request : SendRequest)
  deriving DecidableEq

abbrev Script := Program Agent Input Label

namespace Script

/-- One action without a result. -/
def perform (action : Agent → Option Agent) : Script Unit :=
  .act .plain (fun agent _ => action agent) fun _ _ => .ret ()

/-- Read a value of the shared state. -/
def observe {α : Type} (value : Agent → α) : Script α :=
  .act .plain (fun agent _ => some agent) fun agent _ => .ret (value agent)

/-- A step of the user interface: the error it raises, if it raises. -/
def awaitRaised : Script (Option SendError) :=
  .act .plain
    (fun agent input => match input with | .raised _ => some agent | _ => none)
    fun _ input => .ret (match input with | .raised error => error | _ => none)

def awaitFlag : Script Bool :=
  .act .plain
    (fun agent input => match input with | .flag _ => some agent | _ => none)
    fun _ input => .ret (match input with | .flag value => value | _ => false)

/-- The arrival of a request; a ticket is given out once. -/
def receive (handler : Handler) (ticket : Nat) (request : SendRequest) : Script Unit :=
  .act (.arrive ticket request)
    (fun agent _ =>
      if agent.log.any fun event => event.ticket = some ticket then none
      else some (agent.record (.received handler ticket request)))
    fun _ _ => .ret ()

def respond (ticket : Nat) (reply : Reply) : Script Unit :=
  perform fun agent => some (agent.record (.responded ticket reply))

/-! ### Ledger calls -/

/-- `ledger.claim`, or `none` where it raises. -/
def claimKey (ticket : Nat) (key payloadHash : String) : Script (Option ClaimAnswer) :=
  .act .plain
    (fun agent input =>
      match input with
      | .fault .before => some agent
      | .fault _ =>
          match agent.ledger.claim key payloadHash (currentTimestamp agent.clock) with
          | some (answer, ledger) =>
              some ({ agent with ledger := ledger }.record
                (.claimed ticket key payloadHash answer))
          | none => some agent
      | _ => none)
    fun agent input => .ret (match input with
      | .fault .none =>
          (agent.ledger.claim key payloadHash (currentTimestamp agent.clock)).map Prod.fst
      | _ => none)

/-- `ledger.mark_submitting`: whether it returned. -/
def markSubmitting (ticket : Nat) (key : String) : Script Bool :=
  .act .plain
    (fun agent input =>
      match input with
      | .fault .before => some agent
      | .fault fault =>
          match agent.ledger.markSubmitting key (currentTimestamp agent.clock) with
          | some ledger =>
              if fault = .none then
                some ({ agent with ledger := ledger }.record (.passed ticket key))
              else some { agent with ledger := ledger }
          | none => some agent
      | _ => none)
    fun agent input => .ret (match input with
      | .fault .none =>
          (agent.ledger.markSubmitting key (currentTimestamp agent.clock)).isSome
      | _ => false)

/-- `ledger.finish`: whether it returned. -/
def finishKey (key : String) (outcome : Ledger.Outcome) (result : Payload) : Script Bool :=
  .act .plain
    (fun agent input =>
      match input with
      | .fault .before => some agent
      | .fault _ =>
          some { agent with
            ledger := agent.ledger.finish key outcome result (currentTimestamp agent.clock) }
      | _ => none)
    fun _ input => .ret (match input with | .fault .none => true | _ => false)

end Script

open Script

/-! ## `send_text_messages` -/

/-- The first half of `SendProgress.submitting` on the progress of an operator:
the key its checkpoint marks, or `none` when the submission had started. -/
def beginSubmission (operator : OperatorId) : Script (Option String) :=
  .act .plain
    (fun agent _ => some (agent.onProgress (agent.operatorProgress operator) Progress.start))
    fun agent _ =>
      let progress := agent.progress (agent.operatorProgress operator)
      .ret (if progress.submissionStarted then none else some progress.key)

/-- `self.progress.submitting()`: whether it returned. -/
def submitting (ticket : Nat) (operator : OperatorId) : Script Bool := do
  match ← beginSubmission operator with
  | none => pure true
  | some key => markSubmitting ticket key

/-- The click or tap on the send button. -/
def click (ticket : Nat) (key : String) : Script Unit :=
  perform fun agent => some (agent.record (.clicked ticket key))

/-- `self.progress.confirmed_count += 1`. -/
def confirm (operator : OperatorId) : Script Unit :=
  perform fun agent =>
    some (agent.onProgress (agent.operatorProgress operator) Progress.confirm)

/-- The loop of `_send_accessible_messages` and `_send_visual_messages`: the
error it raises, if it raises. -/
def sendMessages (ticket : Nat) (key : String) (operator : OperatorId) :
    List String → Script (Option SendError)
  | [] => pure none
  | _ :: messages => do
      match ← awaitRaised with
      | some error => pure (some error)
      | none =>
          if ← submitting ticket operator then
            click ticket key
            match ← awaitRaised with
            | some error => pure (some error)
            | none =>
                confirm operator
                sendMessages ticket key operator messages
          else
            pure (some .sendFailed)

/-- A new operator object. -/
def newOperator (process : String) : Script OperatorId :=
  .act .plain
    (fun agent _ => some { agent with
      operators := Function.update agent.operators process (agent.operators process + 1) })
    fun agent _ => .ret ⟨process, agent.operators process⟩

/-- The existing operator where it can still send, otherwise a new one. -/
def chooseOperator (process : String) (existing : Option OperatorId) : Script OperatorId := do
  match existing with
  | none => newOperator process
  | some operator =>
      if ← awaitFlag then pure operator else newOperator process

/-- `operator.progress = progress`. -/
def assignProgress (operator : OperatorId) (ticket : Nat) : Script Unit :=
  perform fun agent => some { agent with
    operatorProgress := Function.update agent.operatorProgress operator ticket }

/-- `send_text_messages`: the error it raises, or the operator that stays warm. -/
def sendTextMessages (ticket : Nat) (key process : String) (existing : Option OperatorId)
    (messages : List String) : Script (Except SendError (Option OperatorId)) := do
  match ← awaitRaised with
  | some error => pure (.error error)
  | none =>
      let operator ← chooseOperator process existing
      assignProgress operator ticket
      match ← awaitRaised with
      | some error => pure (.error error)
      | none =>
          match ← sendMessages ticket key operator messages with
          | some error => pure (.error error)
          | none =>
              if ← awaitFlag then pure (.ok (some operator)) else pure (.ok none)

/-! ## `send_wechat` -/

/-- `_json_error`. -/
def jsonError (status : Nat) (error : String) : Reply where
  status := status
  payload :=
    { success := false
      error := some error
      submissionState := none
      safeToRetry := false
      sentCount := none }

/-- The payload of an exception of `send_text_messages`. -/
def failurePayload (error : SendError) (outcome : Ledger.Outcome) (progress : Progress) :
    Payload where
  success := false
  error := some error.code
  submissionState := some outcome.text
  safeToRetry := !progress.submissionStarted
  sentCount := some progress.confirmedCount

def successPayload (messages : List String) : Payload where
  success := true
  error := none
  submissionState := none
  safeToRetry := false
  sentCount := some messages.length

/-- The ledger outcome of an exception. -/
def failureOutcome (progress : Progress) : Ledger.Outcome :=
  if progress.submissionStarted then .submissionUnknown else .notSubmitted

/-- `SendProgress(before_submit=lambda: ledger.mark_submitting(key))`. -/
def startProgress (ticket : Nat) (key : String) : Script Unit :=
  perform fun agent => some (agent.onProgress ticket fun _ => ⟨key, false, 0⟩)

/-- The branch of an exception of `send_text_messages`. -/
def failSend (ticket : Nat) (key process : String) (error : SendError) : Script Reply := do
  perform fun agent => some (agent.discardWarmOperator process)
  let progress ← observe fun agent => agent.progress ticket
  let payload := failurePayload error (failureOutcome progress) progress
  if ← finishKey key (failureOutcome progress) payload then
    pure ⟨if error = .appiumTimeout then 504 else 500, payload⟩
  else
    pure (jsonError 500 "submission_unknown")

/-- The branch of a result of `send_text_messages`. -/
def completeSend (key process : String) (operator : Option OperatorId)
    (messages : List String) : Script Reply := do
  perform fun agent => some { agent with warm := Function.update agent.warm process operator }
  if ← finishKey key .sent (successPayload messages) then
    pure ⟨200, successPayload messages⟩
  else
    pure (jsonError 500 "submission_unknown")

/-- The branch of a claimed key. -/
def sendClaimed (ticket : Nat) (key process : String) (existing : Option OperatorId)
    (messages : List String) : Script Reply := do
  startProgress ticket key
  match ← sendTextMessages ticket key process existing messages with
  | .error error => failSend ticket key process error
  | .ok operator => completeSend key process operator messages

/-- `_device_lease`: whether the lease is held, or `none` where it raises. -/
def acquireLease (process : String) : Script (Option Bool) :=
  .act .plain
    (fun agent input =>
      match input with
      | .flag value =>
          if agent.leased process then some agent
          else some { agent with leased := Function.update agent.leased process value }
      | .raised _ => some agent
      | _ => none)
    fun agent input => .ret (match input with
      | .flag value => some (agent.leased process || value)
      | _ => if agent.leased process then some true else none)

section

variable (sha256 : String → String) (request : SendRequest)

/-- `payload_hash`. -/
def SendRequest.payloadHash : String :=
  sha256 (String.ofList (canonicalPayload request.deviceName request.receiver request.messages))

/-- `request.idempotency_key or payload_hash`. -/
def SendRequest.key : String :=
  request.idempotencyKey.getD (request.payloadHash sha256)

/-- The body of `send_wechat` under the device lock. -/
def sendUnderLock (process : String) (ticket : Nat) : Script Reply := do
  let existing ← observe fun agent => agent.warm process
  match ← acquireLease process with
  | none => pure (jsonError 500 "submission_unknown")
  | some false => pure (jsonError 409 "device_busy")
  | some true =>
      match ← claimKey ticket (request.key sha256) (request.payloadHash sha256) with
      | none => pure (jsonError 503 "ledger_unavailable")
      | some (.sent result) => pure ⟨200, result⟩
      | some .conflict => pure (jsonError 409 "idempotency_conflict")
      | some .submissionUnknown => pure (jsonError 409 "submission_unknown")
      | some .claimed =>
          sendClaimed ticket (request.key sha256) process existing request.messages

/-- `device_lock.acquire(timeout=...)`: whether the lock was acquired. -/
def acquireDevice (locked : Bool) (handler : Handler) : Script Bool :=
  .act .plain
    (fun agent input =>
      match input with
      | .flag true =>
          if locked then
            if agent.deviceLock handler.process = none then
              some { agent with
                deviceLock := Function.update agent.deviceLock handler.process (some handler) }
            else none
          else some agent
      | .flag false => some agent
      | _ => none)
    fun _ input => .ret (match input with | .flag value => value | _ => false)

/-- The `finally` of `send_wechat`. -/
def releaseDevice (locked : Bool) (process : String) : Script Unit :=
  perform fun agent =>
    let settled := if agent.warm process = none then agent.discardWarmOperator process else agent
    some (if locked then
      { settled with deviceLock := Function.update settled.deviceLock process none }
    else settled)

/-- `send_wechat`, for a sender that may use one device. -/
def sendWechat (allowedDevice : String) (locked : Bool) (handler : Handler) (ticket : Nat) :
    Script Unit := do
  receive handler ticket request
  if allowedDevice = "" then
    respond ticket (jsonError 503 "service_misconfigured")
  else if request.deviceName ≠ allowedDevice then
    respond ticket (jsonError 403 "device_not_allowed")
  else if ← acquireDevice locked handler then
    let reply ← sendUnderLock sha256 request handler.process ticket
    releaseDevice locked handler.process
    respond ticket reply
  else
    respond ticket (jsonError 409 "device_busy")

end

/-- `send_status`: a busy device is refused, which tells the host nothing. -/
def sendStatus (locked : Bool) (handler : Handler) (key payloadHash : String) : Script Unit :=
  perform fun agent =>
    if locked ∧ agent.deviceLock handler.process ≠ none then some agent
    else some (agent.record (.looked key payloadHash (agent.ledger.lookup key payloadHash)))

/-! ## The system -/

/-- What a handler may run. -/
inductive SenderOperation (sha256 : String → String) (allowedDevice : String) (locked : Bool) :
    Handler → Script Unit → Prop
  | send (handler : Handler) (ticket : Nat) (request : SendRequest) :
      SenderOperation sha256 allowedDevice locked handler
        (sendWechat sha256 request allowedDevice locked handler ticket)
  | status (handler : Handler) (key payloadHash : String) :
      SenderOperation sha256 allowedDevice locked handler
        (sendStatus locked handler key payloadHash)

/-- Time passes, and an idle warm operator is discarded. -/
inductive SenderEnvironment (before : Agent) : Agent → Prop
  | clock (elapsed : Nat) :
      SenderEnvironment before { before with clock := before.clock + elapsed }
  | idle (process : String) (free : before.deviceLock process = none) :
      SenderEnvironment before (before.discardWarmOperator process)

/-- The processes of the sender over one durable ledger. -/
def senderSystem (sha256 : String → String) (allowedDevice : String) (locked : Bool) :
    System Agent Input Label Handler where
  operation := SenderOperation sha256 allowedDevice locked
  crash := Agent.crash
  environment := SenderEnvironment

end TennisAlerts.Sender
