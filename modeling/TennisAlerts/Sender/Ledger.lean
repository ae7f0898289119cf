import TennisAlerts.Text.Delimited

/-!
# The sender's ledger

`sender_agent/ledger.py`: one SQLite row for each idempotency key.  Every
operation below is one statement or one `BEGIN IMMEDIATE` block, so it is a
function of the table.  `CURRENT_TIMESTAMP` has a resolution of one second.
-/

namespace TennisAlerts.Sender

open TennisAlerts.Text

/-- The body of `POST /v1/wechat/send`. -/
structure SendRequest where
  receiver : String
  messages : List String
  deviceName : String
  idempotencyKey : Option String
  deriving DecidableEq

/-- The canonical JSON of the device, the messages and the receiver. -/
def canonicalPayload (deviceName receiver : String) (messages : List String) : List Char :=
  "\x7b\"device\":".toList ++ (jsonString deviceName ++
    (",\"messages\":".toList ++ (jsonArray jsonString messages ++
    (",\"receiver\":".toList ++ (jsonString receiver ++ "\x7d".toList)))))

/-- The canonical JSON determines what was put into it. -/
theorem canonicalPayload_injective {device device' receiver receiver' : String}
    {messages messages' : List String}
    (same : canonicalPayload device receiver messages =
      canonicalPayload device' receiver' messages') :
    device = device' ∧ receiver = receiver' ∧ messages = messages' := by
  obtain ⟨sameDevice, rest⟩ := delimited_jsonString (List.append_cancel_left same)
  obtain ⟨sameMessages, rest⟩ :=
    delimited_jsonArray delimited_jsonString jsonString_visible (List.append_cancel_left rest)
  obtain ⟨sameReceiver, _⟩ := delimited_jsonString (List.append_cancel_left rest)
  exact ⟨sameDevice, sameReceiver, sameMessages⟩

/-- The fields of a sender's answer that the host or the sender reads again. -/
structure Payload where
  success : Bool
  error : Option String
  submissionState : Option String
  safeToRetry : Bool
  sentCount : Option Nat
  deriving DecidableEq

/-- An HTTP answer of the sender. -/
structure Reply where
  status : Nat
  payload : Payload
  deriving DecidableEq

/-- Statuses of a ledger row. -/
inductive SendStatus
  | preparing
  | dispatching
  | sent
  | submissionUnknown
  | notSubmitted
  deriving DecidableEq

/-- The durable boundary was crossed. -/
def SendStatus.crossed : SendStatus → Bool
  | .dispatching | .sent | .submissionUnknown => true
  | .preparing | .notSubmitted => false

/-- A row of `sends`. -/
structure SendRow where
  payloadHash : String
  status : SendStatus
  result : Option Payload
  updatedAt : Int
  deriving DecidableEq

/-- The table `sends`, by idempotency key. -/
abbrev Ledger :=
  String → Option SendRow

/-- The first component that `claim` returns. -/
inductive ClaimAnswer
  | claimed
  | sent (result : Payload)
  | conflict
  | submissionUnknown
  deriving DecidableEq

namespace Ledger

/-- `claim(key, payload_hash, preparing=True)`.  A sent row without a result
raises in `json.loads`, which rolls the block back. -/
def claim (key payloadHash : String) (now : Int) (ledger : Ledger) :
    Option (ClaimAnswer × Ledger) :=
  match ledger key with
  | some row =>
      if row.payloadHash ≠ payloadHash then some (.conflict, ledger)
      else
        match row.status with
        | .sent => row.result.map fun result => (.sent result, ledger)
        | .preparing | .notSubmitted =>
            some (.claimed, Function.update ledger key
              (some { row with status := .preparing, result := none, updatedAt := now }))
        | .dispatching | .submissionUnknown => some (.submissionUnknown, ledger)
  | none =>
      some (.claimed, Function.update ledger key
        (some { payloadHash, status := .preparing, result := none, updatedAt := now }))

/-- `mark_submitting`; `none` is the exception for an unexpected row count. -/
def markSubmitting (key : String) (now : Int) (ledger : Ledger) : Option Ledger :=
  match ledger key with
  | some row =>
      if row.status = .preparing then
        some (Function.update ledger key
          (some { row with status := .dispatching, updatedAt := now }))
      else none
  | none => none

/-- Results that `finish` accepts. -/
inductive Outcome
  | sent
  | submissionUnknown
  | notSubmitted
  deriving DecidableEq

def Outcome.status : Outcome → SendStatus
  | .sent => .sent
  | .submissionUnknown => .submissionUnknown
  | .notSubmitted => .notSubmitted

def Outcome.text : Outcome → String
  | .sent => "sent"
  | .submissionUnknown => "submission_unknown"
  | .notSubmitted => "not_submitted"

/-- The rows that the update of `finish` selects. -/
def finishable (outcome : Outcome) (status : SendStatus) : Bool :=
  (status = .preparing || status = .dispatching) &&
    (outcome ≠ .notSubmitted || status = .preparing)

/-- `finish`. -/
def finish (key : String) (outcome : Outcome) (result : Payload) (now : Int)
    (ledger : Ledger) : Ledger :=
  match ledger key with
  | some row =>
      if finishable outcome row.status then
        Function.update ledger key
          (some { row with status := outcome.status, result := some result, updatedAt := now })
      else ledger
  | none => ledger

end Ledger

/-- What `lookup` returns. -/
inductive Evidence
  | notFound
  | found (status : SendStatus) (updatedAt : Int) (confirmed : Bool) (sentCount : Nat)
  deriving DecidableEq

/-- `lookup`. -/
def Ledger.lookup (key payloadHash : String) (ledger : Ledger) : Evidence :=
  match (ledger key).filter fun row => decide (row.payloadHash = payloadHash) with
  | some row =>
      .found row.status row.updatedAt
        (row.status = .sent && row.result.any Payload.success)
        ((row.result.bind Payload.sentCount).getD 0)
  | none => .notFound

/-! ## What the operations do to a row -/

/-- The change of a ledger that one operation can make to the row of a key. -/
inductive RowChange (before : Option SendRow) : Option SendRow → Prop
  | same : RowChange before before
  | opened (row : SendRow) (absent : before = none) (status : row.status = .preparing) :
      RowChange before (some row)
  | moved (row new : SendRow) (was : before = some row)
      (hash : new.payloadHash = row.payloadHash) (unsent : row.status ≠ .sent)
      (kept : row.status.crossed = true → new.status.crossed = true) :
      RowChange before (some new)

namespace Ledger

theorem rowChange_update {key other : String} {ledger : Ledger} {new : Option SendRow}
    (change : RowChange (ledger key) new) :
    RowChange (ledger other) (Function.update ledger key new other) := by
  by_cases same : other = key
  · subst same
    rwa [Function.update_self]
  · rw [Function.update_of_ne same]
    exact .same

theorem rowChange_claim {key payloadHash other : String} {now : Int} {ledger after : Ledger}
    {answer : ClaimAnswer} (claimed : claim key payloadHash now ledger = some (answer, after)) :
    RowChange (ledger other) (after other) := by
  unfold claim at claimed
  split at claimed
  · rename_i row found
    split at claimed
    · cases claimed
      exact .same
    · split at claimed
      · obtain ⟨_, _, same⟩ := Option.map_eq_some_iff.mp claimed
        cases same
        exact .same
      all_goals
        cases claimed
        first
          | exact .same
          | exact rowChange_update (.moved row _ found rfl (by simp_all)
              (by simp_all [SendStatus.crossed]))
  · rename_i missing
    cases claimed
    exact rowChange_update (.opened _ missing rfl)

theorem rowChange_markSubmitting {key other : String} {now : Int} {ledger after : Ledger}
    (marked : markSubmitting key now ledger = some after) :
    RowChange (ledger other) (after other) := by
  unfold markSubmitting at marked
  split at marked
  · rename_i row found
    split at marked
    · rename_i preparing
      cases marked
      exact rowChange_update (.moved row _ found rfl (by simp [preparing]) fun _ => rfl)
    · cases marked
  · cases marked

theorem rowChange_finish {key other : String} {outcome : Outcome} {result : Payload} {now : Int}
    {ledger : Ledger} : RowChange (ledger other) (finish key outcome result now ledger other) := by
  cases found : ledger key with
  | none =>
      rw [finish, found]
      exact .same
  | some row =>
      by_cases selected : finishable outcome row.status = true
      · rw [finish, found]
        dsimp only
        rw [if_pos selected]
        apply rowChange_update
        refine RowChange.moved row _ found rfl ?_ ?_
        · intro sent
          simp [finishable, sent] at selected
        · intro crossed
          cases outcome <;> cases status : row.status <;>
            simp_all [finishable, SendStatus.crossed, Outcome.status]
      · rw [finish, found]
        dsimp only
        rw [if_neg selected]
        exact .same

/-- A row that has crossed the boundary is not finished as unsubmitted. -/
theorem finish_notSubmitted_of_crossed {key : String} {result : Payload} {now : Int}
    {ledger : Ledger} {row : SendRow} (found : ledger key = some row)
    (crossed : row.status.crossed = true) :
    finish key .notSubmitted result now ledger = ledger := by
  have unselected : finishable .notSubmitted row.status = false := by
    cases status : row.status <;> simp_all [finishable, SendStatus.crossed]
  simp [finish, found, unselected]

end Ledger

end TennisAlerts.Sender
