import Mathlib.Data.List.Basic

/-!
# The control row and its transactions

`snapshot` and `mutate` of `email_recovery_probe.py` and `set_delivery_enabled` of
`control.py`.  All of them take the advisory lock or read a single snapshot, so each is
one function of the row of `runtime_control` and of what its transaction finds besides.
Times are microseconds; the texts that stand for them on the way to the host, and which
they determine, are left out.
-/

namespace TennisAlerts.Recovery

/-- The columns of `STATE_COLUMNS`. -/
structure ControlRow where
  deploymentCommit : String
  deliveryEnabled : Bool
  wechatEnabled : Bool
  activatedAt : Option Int
  updatedAt : Int
  phase : String
  deriving DecidableEq

/-- The reason of a `RecoveryRefused`; another exception has none. -/
abbrev Refusal := Option String

/-- `[0-9a-f]{40}`. -/
def isCommit (text : String) : Bool :=
  text.toList.length = 40 && text.toList.all fun character =>
    character.isDigit || (['a', 'b', 'c', 'd', 'e', 'f'].contains character)

/-- A heartbeat of the notification worker. -/
structure Heartbeat where
  deploymentCommit : String
  healthy : Bool
  updatedAt : Int
  mode : Option String
  owner : Option Bool
  deriving DecidableEq

structure Venue where
  healthy : Bool
  lastInspectionAt : Option Int
  deriving DecidableEq

inductive SchemaVersion
  | missing
  | mismatched
  | current
  deriving DecidableEq

/-- What a transaction finds besides the control row: the environment of its container,
the other tables and the clock. -/
structure Surroundings where
  deploymentCommit : Option String
  schema : SchemaVersion
  migrationComplete : Bool
  emailConfigured : Bool
  heartbeat : Option Heartbeat
  venues : List Venue
  now : Int
  deriving DecidableEq

/-- The result of `snapshot`, as far as the host reads it. -/
structure Snapshot where
  generatedAt : Int
  state : ControlRow
  schemaReady : Bool
  emailConfiguration : Bool
  migrationComplete : Bool
  everActivated : Bool
  heartbeat : Option Heartbeat
  freshVenueCount : Nat

/-! ## Checks -/

/-- `if condition: raise`. -/
def refuseIf {ε : Type} (condition : Bool) (reason : ε) : Except ε Unit :=
  if condition then .error reason else .ok ()

theorem of_refuseIf_bind {ε α : Type} {condition : Bool} {reason : ε} {rest : Unit → Except ε α}
    {result : α} (passed : (refuseIf condition reason >>= rest) = .ok result) :
    condition = false ∧ rest () = .ok result := by
  cases condition with
  | true => exact nomatch passed
  | false => exact ⟨rfl, passed⟩

theorem of_except_bind {ε α β : Type} {first : Except ε α} {rest : α → Except ε β} {result : β}
    (passed : (first >>= rest) = .ok result) :
    ∃ value, first = .ok value ∧ rest value = .ok result := by
  cases first with
  | error failure => exact nomatch passed
  | ok value => exact ⟨value, rfl, passed⟩

def validateIdentity (expected : String) (found : Surroundings) : Except Refusal Unit := do
  refuseIf (!isCommit expected) (some "exact_runtime_commit_required")
  refuseIf (found.deploymentCommit ≠ some expected) (some "container_runtime_mismatch")

def requireSchema : SchemaVersion → Except Refusal Unit
  | .missing => .error (some "schema_fingerprint_missing")
  | .mismatched => .error (some "schema_fingerprint_mismatch")
  | .current => .ok ()

def stateSummary (row : ControlRow) : ControlRow :=
  { row with
    phase := if ["prepared", "active", "paused"].contains row.phase then row.phase else "other" }

def heartbeatSummary (row : Heartbeat) : Heartbeat :=
  { row with
    deploymentCommit := if isCommit row.deploymentCommit then row.deploymentCommit else "unknown"
    mode := row.mode.filter fun mode =>
      ["active", "shadow", "airflow_host", "paused"].contains mode }

/-- Inspected within the last ten minutes, and healthy. -/
def Venue.fresh (now : Int) (venue : Venue) : Bool :=
  venue.healthy && venue.lastInspectionAt.any fun at_ => now - 600000000 < at_

/-! ## Transactions -/

def snapshot (expected : String) (found : Surroundings) (row : ControlRow) :
    Except Refusal Snapshot := do
  validateIdentity expected found
  requireSchema found.schema
  refuseIf (row.deploymentCommit ≠ expected) (some "control_runtime_mismatch")
  return {
    generatedAt := found.now
    state := stateSummary row
    schemaReady := true
    emailConfiguration := found.emailConfigured
    migrationComplete := found.migrationComplete
    everActivated := row.activatedAt.isSome
    heartbeat := found.heartbeat.map heartbeatSummary
    freshVenueCount := (found.venues.filter (Venue.fresh found.now)).length }

/-- The two operations of `mutate`. -/
inductive Operation
  | enable
  | pause
  deriving DecidableEq

/-- `operation == "enable"`. -/
def Operation.enables : Operation → Bool
  | .enable => true
  | .pause => false

/-- The `UPDATE` of `mutate`, with its condition. -/
def updateControl (expected : String) (operation : Operation) (previous now : Int)
    (row : ControlRow) : Option ControlRow :=
  if row.deploymentCommit = expected ∧ row.wechatEnabled = false ∧ row.updatedAt = previous ∧
      row.deliveryEnabled = !operation.enables then
    some { row with
      deliveryEnabled := operation.enables
      phase := if operation.enables then "active" else "paused"
      updatedAt := now }
  else none

/-- `mutate`: the row that it leaves. -/
def mutate (expected : String) (operation : Operation) (previous : Int) (found : Surroundings)
    (row : ControlRow) : Except Refusal ControlRow := do
  validateIdentity expected found
  requireSchema found.schema
  refuseIf (row.deploymentCommit ≠ expected) (some "control_runtime_mismatch")
  refuseIf row.wechatEnabled (some "wechat_must_remain_disabled")
  refuseIf (row.updatedAt ≠ previous) (some "control_state_changed")
  refuseIf (row.deliveryEnabled ≠ !operation.enables) (some "unexpected_delivery_state")
  refuseIf (operation.enables && (row.activatedAt.isNone || !found.migrationComplete))
    (some "verified_activation_checkpoint_required")
  refuseIf (operation.enables && !found.emailConfigured) none
  match updateControl expected operation previous found.now row with
  | some updated => return updated
  | none => throw (some "control_state_changed")

/-- `set_delivery_enabled`; `verified` tells whether a verified import is found. -/
def setDeliveryEnabled (enabled : Bool) (commitId : String) (verified : Bool) (now : Int)
    (row : ControlRow) : Option ControlRow :=
  if enabled && !verified then none
  else
    some { row with
      deliveryEnabled := enabled
      activatedAt := if enabled then row.activatedAt.or (some now) else row.activatedAt
      deploymentCommit := commitId
      phase := if enabled then "active" else "paused"
      updatedAt := now }

/-! ## What they keep -/

theorem snapshot_state {expected : String} {found : Surroundings} {row : ControlRow}
    {result : Snapshot} (read : snapshot expected found row = .ok result) :
    result.state = stateSummary row := by
  obtain ⟨_, -, read⟩ := of_except_bind read
  obtain ⟨_, -, read⟩ := of_except_bind read
  obtain ⟨-, read⟩ := of_refuseIf_bind read
  cases read
  rfl

/-- What `mutate` does to the row. -/
structure Mutates (operation : Operation) (previous now : Int) (before after : ControlRow) :
    Prop where
  previous : before.updatedAt = previous
  fenced : before.deliveryEnabled = !operation.enables
  enabled : after.deliveryEnabled = operation.enables
  updated : after.updatedAt = now
  wechatEnabled : after.wechatEnabled = before.wechatEnabled
  deploymentCommit : after.deploymentCommit = before.deploymentCommit

theorem mutates_of_updateControl {expected : String} {operation : Operation} {previous now : Int}
    {before after : ControlRow}
    (updated : updateControl expected operation previous now before = some after) :
    Mutates operation previous now before after := by
  unfold updateControl at updated
  split at updated
  · rename_i matched
    cases updated
    exact ⟨matched.2.2.1, matched.2.2.2, rfl, rfl, rfl, rfl⟩
  · exact nomatch updated

theorem mutates_of_mutate {expected : String} {operation : Operation} {previous : Int}
    {found : Surroundings} {before after : ControlRow}
    (changed : mutate expected operation previous found before = .ok after) :
    Mutates operation previous found.now before after := by
  obtain ⟨_, -, changed⟩ := of_except_bind changed
  obtain ⟨_, -, changed⟩ := of_except_bind changed
  obtain ⟨-, changed⟩ := of_refuseIf_bind changed
  obtain ⟨-, changed⟩ := of_refuseIf_bind changed
  obtain ⟨-, changed⟩ := of_refuseIf_bind changed
  obtain ⟨-, changed⟩ := of_refuseIf_bind changed
  obtain ⟨-, changed⟩ := of_refuseIf_bind changed
  obtain ⟨-, changed⟩ := of_refuseIf_bind changed
  split at changed
  · rename_i updated
    cases changed
    exact mutates_of_updateControl updated
  · exact nomatch changed

end TennisAlerts.Recovery
