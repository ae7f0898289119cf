import Mathlib.Logic.Function.Basic
import Mathlib.Data.List.Basic

/-!
# Remote operations

The class `Operations` of `remote_ops/control.mjs`.  A method runs without interruption, and
so does each callback of the promise chain of an operation; the steps of several chains and
the method calls interleave in any order.  What `audit` and `execute` do is an input of the
step that calls them.
-/

namespace TennisAlerts.RemoteOps

/-- `item.state`. -/
inductive State
  | running
  | finished
  | unknown
  deriving DecidableEq

/-- What `execute` resolves with. -/
structure Result where
  exitCode : Option Int
  timedOut : Bool
  truncated : Bool
  output : String
  deriving DecidableEq

/-- The chain behind `item.done`: the callback that is queued, if there is one.  The promise
of `execute` may be fulfilled with null. -/
inductive Chain
  | queued
  | executing
  | fulfilled (result : Option Result)
  | rejected
  | handled
  | done
  deriving DecidableEq

/-- An item, with the command and the timeout that its callbacks close over. -/
structure Item where
  id : String
  principal : Option String
  command : String
  timeout : Nat
  state : State
  expires : Option Nat
  result : Option Result
  chain : Chain
  deriving DecidableEq

/-- A record for the audit log. -/
inductive AuditRecord
  | started (id : String) (principal : Option String) (command reason : String) (timeout : Nat)
  | finished (id : String) (principal : Option String) (exitCode : Option Int) (timedOut : Bool)
  | unknown (id : String) (principal : Option String)
  deriving DecidableEq

/-- A call of `audit` throws or returns; it may return a promise that is rejected later. -/
inductive Auditing
  | thrown (message : String)
  | returned (written : Bool)
  deriving DecidableEq

/-- The history: the calls of `audit` that returned and the calls of `execute`. -/
inductive Entry
  | audited (record : AuditRecord) (written : Bool)
  | executed (operation : Nat) (command : String) (timeout : Nat)
  deriving DecidableEq

/-- The class with its clock.  Operations are numbered in the order in which they start, and
`items` holds the numbers of the map's values; the newest entry of the history comes first. -/
structure Operations where
  maximum : Nat
  maxRunning : Nat
  now : Nat
  started : Nat
  item : Nat → Item
  items : List Nat
  log : List Entry

/-- A step of the process, with what is read from outside. -/
inductive Event
  | advance (milliseconds : Nat)
  | sweep
  | start (principal : Option String) (command reason : String) (timeout : Nat) (id : String)
      (auditing : Auditing)
  | get (id : String) (principal : Option String)
  | call (operation : Nat) (throws : Bool)
  | settle (operation : Nat) (settlement : Option (Option Result))
  | react (operation : Nat) (auditing : Auditing)
  deriving DecidableEq

/-- The fields of an item are set when it starts. -/
def noItem : Item :=
  ⟨"", none, "", 0, .unknown, none, none, .done⟩

namespace Operations

/-- A new instance. -/
def new (maximum maxRunning now : Nat) : Operations where
  maximum := maximum
  maxRunning := maxRunning
  now := now
  started := 0
  item _ := noItem
  items := []
  log := []

/-- `running()`. -/
def running (ops : Operations) : Nat :=
  ops.items.countP fun operation => (ops.item operation).state == .running

/-- `item.expires < this.now()`. -/
def expired (ops : Operations) (operation : Nat) : Bool :=
  (ops.item operation).expires.any fun expires => expires < ops.now

/-- `sweep()`. -/
def sweep (ops : Operations) : Operations :=
  { ops with
    items := ops.items.filter fun operation =>
      !((ops.item operation).state != .running && ops.expired operation) }

/-- A change of one item. -/
def change (ops : Operations) (operation : Nat) (item : Item) : Operations :=
  { ops with item := Function.update ops.item operation item }

/-- A call of `audit` whose error is swallowed. -/
def record (ops : Operations) (entry : AuditRecord) : Auditing → Operations
  | .thrown _ => ops
  | .returned written => { ops with log := .audited entry written :: ops.log }

/-- The values of the map after `items.set(id, item)`. -/
def put (ops : Operations) (id : String) : List Nat :=
  if ops.items.any fun operation => (ops.item operation).id == id then
    ops.items.map fun operation => if (ops.item operation).id = id then ops.started else operation
  else ops.items ++ [ops.started]

variable (redact : String → String)

/-- `start(principal, command, reason, timeout)`, where `id` is drawn. -/
def start (ops : Operations) (principal : Option String) (command reason : String)
    (timeout : Nat) (id : String) (auditing : Auditing) : Operations × Except String Nat :=
  let ops := ops.sweep
  if principal.getD "" = "" ∨ ops.maximum ≤ ops.items.length then
    (ops, .error "request_limit")
  else if ops.maxRunning ≤ ops.running then
    (ops, .error "host_operation_busy")
  else
    match auditing with
    | .thrown message => (ops, .error message)
    | .returned written =>
        ({ ops with
            started := ops.started + 1
            item := Function.update ops.item ops.started
              ⟨id, principal, command, timeout, .running, none, none, .queued⟩
            items := ops.put id
            log := .audited (.started id principal (redact command) (redact reason) timeout)
              written :: ops.log },
          .ok ops.started)

/-- `get(id, principal)`. -/
def get (ops : Operations) (id : String) (principal : Option String) : Except String Nat :=
  match ops.items.find? fun operation => (ops.item operation).id == id with
  | none => .error "request_unavailable"
  | some operation =>
      let item := ops.item operation
      if item.principal ≠ principal ∨ (item.state ≠ .running ∧ ops.expired operation) then
        .error "request_unavailable"
      else .ok operation

/-- The callback that calls `execute`. -/
def call (ops : Operations) (operation : Nat) (throws : Bool) : Option Operations :=
  let item := ops.item operation
  if item.chain = .queued then
    let called := ops.change operation
      { item with chain := if throws then .rejected else .executing }
    some { called with log := .executed operation item.command item.timeout :: called.log }
  else none

/-- The promise of `execute` is fulfilled or rejected. -/
def settle (ops : Operations) (operation : Nat) (settlement : Option (Option Result)) :
    Option Operations :=
  let item := ops.item operation
  if item.chain = .executing then
    some (ops.change operation { item with chain := settlement.elim .rejected .fulfilled })
  else none

/-- The callbacks of `then`, `catch` and `finally`.  The first one raises for a result that
is null. -/
def react (ops : Operations) (operation : Nat) (auditing : Auditing) : Option Operations :=
  let item := ops.item operation
  match item.chain with
  | .fulfilled none =>
      some (ops.change operation
        { item with result := none, state := .finished, chain := .rejected })
  | .fulfilled (some result) =>
      some ((ops.change operation
        { item with result := some result, state := .finished, chain := .handled }).record
          (.finished item.id item.principal result.exitCode result.timedOut) auditing)
  | .rejected =>
      some ((ops.change operation { item with state := .unknown, chain := .handled }).record
        (.unknown item.id item.principal) auditing)
  | .handled =>
      some (ops.change operation
        { item with expires := some (ops.now + 900000), chain := .done })
  | .queued | .executing | .done => none

/-- One step, if it can be taken. -/
def step (ops : Operations) : Event → Option Operations
  | .advance milliseconds => some { ops with now := ops.now + milliseconds }
  | .sweep => some ops.sweep
  | .start principal command reason timeout id auditing =>
      some (ops.start redact principal command reason timeout id auditing).1
  | .get _ _ => some ops
  | .call operation throws => ops.call operation throws
  | .settle operation settlement => ops.settle operation settlement
  | .react operation auditing => ops.react operation auditing

/-- The steps of a run. -/
def run (ops : Operations) (events : List Event) : Option Operations :=
  events.foldlM (step redact) ops

end Operations

end TennisAlerts.RemoteOps
