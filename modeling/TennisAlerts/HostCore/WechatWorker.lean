import TennisAlerts.HostCore.WechatQueue
import TennisAlerts.HostCore.Worker

/-!
# The WeChat consumer

`wechat_worker.py` and the footers of `booking_links.py`: the claim of a row,
its preparation from the current slots, the request to the sender, the reading
of the sender's answer, and the reconciliation of unknown submissions with the
sender's ledger.  `now()` is the start of its transaction.
-/

namespace TennisAlerts.HostCore

open TennisAlerts.Concurrent TennisAlerts.Database TennisAlerts.Sender Script

def maxWechatAttempts : Nat := 3
def bookingLinkCooldown : Int := minutes 120
def senderErrors : List String :=
  ["device_busy", "device_not_ready", "service_misconfigured", "ledger_unavailable",
    "wechat_not_ready", "contact_not_found", "appium_timeout", "send_failed",
    "submission_unknown", "idempotency_conflict", "invalid_request", "device_not_allowed"]

/-- Errors that are answered before the sender touches its ledger row. -/
def unsentErrors : List String :=
  ["device_busy", "device_not_ready", "service_misconfigured", "ledger_unavailable"]

/-! ## Statements -/

/-- Statuses of a row that the consumer may still claim. -/
def WechatStatus.open : WechatStatus → Bool
  | .pending | .retry | .processing => true
  | _ => false

/-- The first update of `_claim`; it keeps the lease columns. -/
def interruptWechat (now : Int) (row : WechatRow) : Option WechatRow :=
  if row.status = .dispatching ∧ row.leaseUntil.any (fun leaseUntil => decide (leaseUntil < now))
  then
    some { row with
      status := .submissionUnknown
      updatedAt := now
      lastError := some "dispatch interrupted; investigate before replay" }
  else none

/-- The second update of `_claim`. -/
def expireWechat (now : Int) (row : WechatRow) : Option WechatRow :=
  if row.status.open ∧ row.expiresAt ≤ now then
    some { row with status := .expired, updatedAt := now }
  else none

/-- The rows that `_claim` may lock. -/
def wechatDue (now : Int) (row : WechatRow) : Bool :=
  row.status.open && decide (row.nextAttemptAt ≤ now) && decide (now < row.expiresAt) &&
    row.leaseUntil.all fun leaseUntil => decide (leaseUntil < now)

/-- Lease a row to the consumer for one more attempt. -/
def leaseWechat (worker : String) (now : Int) (row : WechatRow) : WechatRow :=
  { row with
    status := .processing
    leaseOwner := some worker
    leaseUntil := some (now + seconds 300)
    attemptCount := row.attemptCount + 1
    updatedAt := now }

/-- The update of `_finish`: it looks at the lease owner only. -/
def finishRow (worker : String) (status : WechatStatus) (reason : Option String) (now : Int)
    (rowId id : String) (row : WechatRow) : Option WechatRow :=
  if id = rowId ∧ row.leaseOwner = some worker then
    some { row with
      status := status
      lastError := reason
      sentAt := if status = .sent then some now else row.sentAt
      nextAttemptAt := now + seconds 15
      leaseOwner := none
      leaseUntil := none
      updatedAt := now }
  else none

/-- The `dispatching` update of `_prepare`; its row count is not looked at. -/
def dispatchRow (worker outbound message : String) (keys : List String)
    (programId : Option String) (now : Int) (rowId id : String) (row : WechatRow) :
    Option WechatRow :=
  if id = rowId ∧ row.leaseOwner = some worker ∧ row.status = .processing then
    some { row with
      status := .dispatching
      outboundMessage := some outbound
      message := message
      eventKeys := keys
      programId := programId
      updatedAt := now }
  else none

/-- The rows that `reconcile_unknown` looks up. -/
def unknownDue (now : Int) (row : WechatRow) : Bool :=
  row.status = .submissionUnknown && decide (now - days 1 < row.createdAt) &&
    decide (row.nextAttemptAt ≤ now)

def postponeUnknown (now : Int) (rowId id : String) (row : WechatRow) : Option WechatRow :=
  if id = rowId ∧ row.status = .submissionUnknown then
    some { row with nextAttemptAt := now + minutes 5 }
  else none

/-- The update of `reconcile_unknown` for a confirmed send. -/
def confirmUnknown (stamp now : Int) (rowId id : String) (row : WechatRow) :
    Option WechatRow :=
  if id = rowId ∧ row.status = .submissionUnknown then
    some { row with
      status := .sent
      sentAt := some stamp
      lastError := none
      leaseOwner := none
      leaseUntil := none
      updatedAt := now }
  else none

/-! ## Footers -/

def emailSubscriptionGuide : String :=
  "📬 想按偏好接收场地提醒？订阅邮件：\nhttps://courts.zacks.vision/"

/-- What the guide appends to a message. -/
def guideSuffix : String :=
  "\n\n" ++ emailSubscriptionGuide

/-- `str.endswith`, and `right(text, length(suffix)) = suffix`. -/
def endsWith (text suffix : String) : Bool :=
  suffix.toList.isSuffixOf text.toList

/-- `str.removesuffix`. -/
def removeSuffix (text suffix : String) : String :=
  if endsWith text suffix then
    String.ofList (text.toList.take (text.toList.length - suffix.toList.length))
  else text

/-- The instant is between 06:00 and 12:00 Shanghai time. -/
def isMorning (now : Int) : Bool :=
  decide (dayStart (shanghaiDay now) + minutes 360 ≤ now) &&
    decide (now < dayStart (shanghaiDay now) + minutes 720)

/-- A row that has, or may have, brought its receiver the guide of the day. -/
def guides (receiver : String) (day : Int) (row : WechatRow) : Bool :=
  decide (row.receiver = receiver) &&
    (row.status = .sent && row.sentAt.any (fun sentAt =>
        decide (dayStart day + minutes 360 ≤ sentAt) &&
          decide (sentAt < dayStart day + minutes 720)) ||
      (row.status = .dispatching || row.status = .submissionUnknown) &&
        decide (dayStart day ≤ row.createdAt) && decide (row.createdAt < dayStart (day + 1)) &&
        row.outboundMessage.any fun outbound => endsWith outbound guideSuffix)

/-- `_email_subscription_footer`. -/
def emailSubscriptionFooter (rowId receiver message : String) (now : Int)
    (snapshot : Snapshot) : String :=
  let source := removeSuffix message guideSuffix
  if isMorning now then
    if snapshot.wechat.rows.any fun entry =>
        decide (entry.1 ≠ rowId) && guides receiver (shanghaiDay now) entry.2 then
      source
    else source ++ guideSuffix
  else source

/-- A booking mini program. -/
structure BookingMiniProgram where
  programId : String
  link : String

def weilaihui : BookingMiniProgram := ⟨"weilaihui", "#小程序://未来荟/XL8wsbG5boBuZSl"⟩
def syshProgram : BookingMiniProgram := ⟨"sysh", "#小程序://上越网球中心-沙河店/mug6ErSFWCSdvvc"⟩
def topsProgram : BookingMiniProgram := ⟨"tops", "#小程序://Tops网球/lo2x6SO0XGpdUph"⟩
def jdwxProgram : BookingMiniProgram := ⟨"jdwx", "#小程序://ing在运动/8EnsqtWMGoMe6Kr"⟩
def dshFreeProgram : BookingMiniProgram := ⟨"dsh_free", "#小程序://南山文体通/C28W6ASVGvL4usz"⟩
def tyzxProgram : BookingMiniProgram := ⟨"tyzx", "#小程序://i深体/GA0nZbyQSAq9iSa"⟩
def dshProgram : BookingMiniProgram := ⟨"dsh", "#小程序://威逊文体/il2QpVgwVeghPtg"⟩
def fsbProgram : BookingMiniProgram := ⟨"fsb", "#小程序://泛思博特/D0aY3jOJ2oq34fh"⟩
def ppbaProgram : BookingMiniProgram :=
  ⟨"ppba", "#小程序://PICKLEPOP宝安摩天轮馆/PK3I72u2dNFoA2b"⟩
def swjjProgram : BookingMiniProgram := ⟨"swjj", "#小程序://深湾竞界智享订场/sPHQZElfQM9p8ie"⟩

/-- The branches of the venue family `fsb`. -/
def fsbVenues : List String :=
  ["fsb", "fsb_shenyun", "fsb_shekou", "fsb_xinan", "fsb_zhengzhong", "fsb_atuoshan",
    "fsb_zonglvquan", "fsb_guanhu", "fsb_bantian", "fsb_shahe", "fsb_baoshui", "fsb_nanyou",
    "fsb_xinqiao", "fsb_yifangcheng", "fsb_qilin", "fsb_maozhouhe"]

/-- `VENUE_BOOKING_PROGRAMS`. -/
def venueBookingPrograms : List (String × BookingMiniProgram) :=
  [("szw", weilaihui), ("gba", weilaihui), ("sysh", syshProgram), ("tops", topsProgram),
    ("jdwx", jdwxProgram), ("dsh_free", dshFreeProgram), ("dsh", dshProgram)] ++
    fsbVenues.map (fun venueId => (venueId, fsbProgram)) ++
    [("ppba", ppbaProgram), ("tyzx", tyzxProgram), ("swjj", swjjProgram)]

/-- `program_for_venue`; no venue has an empty id. -/
def programForVenue (venueId : String) : Option BookingMiniProgram :=
  venueBookingPrograms.lookup (strip venueId)

/-- `attach_footer`. -/
def attachFooter (message link : String) : String :=
  let stripped := strip message
  if stripped = "" then link
  else if link.toList <:+: stripped.toList then stripped
  else stripped ++ "\n\n" ++ link

/-- The outbound text of a row, from its message with or without the guide, and
the program whose link it carries.  The guide and a booking link exclude each
other, and a text that was composed before is used again unless it carried the
guide. -/
def composeOutbound (digests : Digests) (row : WechatRow) (outbound : String) (now : Int)
    (snapshot : Snapshot) : String × Option String :=
  if endsWith outbound guideSuffix then (outbound, none)
  else
    match row.outboundMessage.filter fun previous =>
        previous != "" && !endsWith previous guideSuffix with
    | some previous => (previous, row.programId)
    | none =>
        match programForVenue row.venueId with
        | none => (outbound, none)
        | some program =>
            if (snapshot.cooldowns.row (digests.sha256 row.receiver, program.programId)).all
                (fun last => decide (bookingLinkCooldown ≤ now - last)) then
              (attachFooter outbound program.link, some program.programId)
            else (outbound, none)

/-! ## Delivery -/

/-- A row as `_claim` returns it and `_prepare` changes it. -/
structure ClaimedWechat where
  id : String
  row : WechatRow

/-- `_claim`. -/
def claimWechat (worker : String) : Script (Option ClaimedWechat) := do
  let now ← utcNow
  update .wechat (.work (.wechat worker)) fun _ _ row => interruptWechat now row
  update .wechat (.work (.wechat worker)) fun _ _ row => expireWechat now row
  match ← selectForUpdate .wechat (.work (.wechat worker)) WechatRow.createdAt
      (fun _ row => wechatDue now row) 1 with
  | [] =>
      commit (.work (.wechat worker))
      return none
  | entry :: _ =>
      update .wechat (.work (.wechat worker)) (onKey entry.1 (leaseWechat worker now))
      commit (.work (.wechat worker))
      return some ⟨entry.1, { entry.2 with attemptCount := entry.2.attemptCount + 1 }⟩

/-- The cooldown that a sent booking link starts. -/
def startCooldown (worker : String) (digests : Digests) (row : WechatRow)
    (merge : Option Int → Int) : Script Unit :=
  match row.programId with
  | none => pure ()
  | some programId => do
      let _ ← upsert .cooldowns (.work (.wechat worker))
        (digests.sha256 row.receiver, programId) merge

/-- `_finish`. -/
def finishWechat (digests : Digests) (claimed : ClaimedWechat) (worker : String)
    (status : WechatStatus) (reason : Option String) : Script Unit := do
  let now ← utcNow
  update .wechat (.work (.wechat worker)) fun _ id row =>
    finishRow worker status reason now claimed.id id row
  when (status = .sent) (startCooldown worker digests claimed.row fun _ => now)
  commit (.work (.wechat worker))

/-- `_retry`. -/
def retryWechat (digests : Digests) (claimed : ClaimedWechat) (worker reason : String) :
    Script Unit :=
  finishWechat digests claimed worker
    (if claimed.row.attemptCount < maxWechatAttempts then .retry else .failed) (some reason)

/-- The row with the lines of its message that are still current.  A shorter
message needs a new outbound text. -/
def prunedRow (row : WechatRow) (current : CurrentMessage) : WechatRow :=
  { row with
    outboundMessage := if current.message = row.message then row.outboundMessage else none
    message := current.message
    eventKeys := current.keys }

/-- `_prepare`: the row to send, or `none` where the row was ended instead. -/
def prepareWechat (digests : Digests) (claimed : ClaimedWechat) (worker : String) :
    Script (Option ClaimedWechat) := do
  if ← activeSubscriptionForVenue (.wechat worker) claimed.row.venueId then
    let begun ← utcNow
    let slots ← select (.work (.wechat worker))
      (freshSlots (fun eventKey _ => decide (eventKey ∈ claimed.row.eventKeys)) begun)
    match currentMessage claimed.row.message slots with
    | .error _ => raise none
    | .ok current =>
        if current.keys = [] then
          commit (.work (.wechat worker))
          finishWechat digests claimed worker .expired (some "availability_changed")
          return none
        else
          let pruned := prunedRow claimed.row current
          let now ← utcNow
          let text ← select (.work (.wechat worker))
            (emailSubscriptionFooter claimed.id pruned.receiver pruned.message now)
          let outbound ← select (.work (.wechat worker)) (composeOutbound digests pruned text now)
          update .wechat (.work (.wechat worker)) fun _ id stored =>
            dispatchRow worker outbound.1 pruned.message pruned.eventKeys outbound.2 begun
              claimed.id id stored
          commit (.work (.wechat worker))
          return some ⟨claimed.id,
            { pruned with outboundMessage := some outbound.1, programId := outbound.2 }⟩
  else
    finishWechat digests claimed worker .cancelled (some "no_active_subscription")
    return none

/-- What `deliver` makes of an answer. -/
inductive Verdict
  | sent
  | retry (reason : String)
  | failed (reason : String)
  | unknown (reason : String)
  deriving DecidableEq

/-- `str(payload.get("error") or ..)`, restricted to the known errors. -/
def senderError (payload : Payload) : String :=
  match payload.error with
  | some error => if error ∈ senderErrors then error else "sender_result_unknown"
  | none => "sender_result_unknown"

/-- The sender says that nothing was submitted. -/
def reportedUnsent (payload : Payload) : Bool :=
  payload.safeToRetry && payload.submissionState = some "not_submitted" &&
    payload.sentCount = some 0 && decide (senderError payload ∈ senderErrors)

/-- The reading of a reply. -/
def readReply (reply : Reply) : Verdict :=
  if reply.status = 200 ∧ reply.payload.success then .sent
  else if senderError reply.payload ∈ unsentErrors ∨ reportedUnsent reply.payload then
    .retry (senderError reply.payload)
  else
    match reply.payload.error with
    | some error =>
        if error = "invalid_request" ∨ error = "device_not_allowed" then .failed error
        else .unknown (senderError reply.payload)
    | none => .unknown (senderError reply.payload)

/-- The ending of a row whose request was answered. -/
def endWechat (digests : Digests) (claimed : ClaimedWechat) (worker : String) :
    Verdict → Script Unit
  | .sent => finishWechat digests claimed worker .sent none
  | .retry reason => retryWechat digests claimed worker reason
  | .failed reason => finishWechat digests claimed worker .failed (some reason)
  | .unknown reason => finishWechat digests claimed worker .submissionUnknown (some reason)

/-- The end of `deliver`.  After a reply the transaction runs inside the `try`: when
it raises, it leaves no trace and the submission is recorded as unknown. -/
def concludeWechat (digests : Digests) (claimed : ClaimedWechat) (worker : String) :
    Answer → Script Unit
  | .connectTimeout =>
      retryWechat digests claimed worker "connection_timeout_before_submission"
  | .raised typeName =>
      finishWechat digests claimed worker .submissionUnknown (some typeName)
  | .reply reply => do
      if ← awaitFlag then
        finishWechat digests claimed worker .submissionUnknown (some "OperationalError")
      else
        endWechat digests claimed worker (readReply reply)

/-- The identity of one outbound text of a row. -/
def Digests.idempotencyKey (digests : Digests) (rowId outbound : String) : String :=
  digests.sha256 (rowId ++ "\x00" ++ outbound)

/-- The request that sends a prepared row. -/
def wechatRequest (digests : Digests) (claimed : ClaimedWechat) : SendRequest where
  receiver := claimed.row.receiver
  messages := [claimed.row.outboundMessage.getD ""]
  deviceName := claimed.row.deviceName
  idempotencyKey := some
    (digests.idempotencyKey claimed.id (claimed.row.outboundMessage.getD ""))

/-- `deliver` inside the delivery guard.  Whether the sender is ready is decided
by its `/readyz`. -/
def deliverGuarded (digests : Digests) (claimed : ClaimedWechat) (worker : String)
    (enabled : Bool) : Script Unit :=
  if enabled then do
    if ← awaitFlag then
      match ← prepareWechat digests claimed worker with
      | none => pure ()
      | some prepared =>
          let post ← beginPost worker prepared.id (wechatRequest digests prepared)
          let answer ← awaitAnswer post
          concludeWechat digests prepared worker answer
    else
      retryWechat digests claimed worker "sender_not_ready"
  else
    finishWechat digests claimed worker .retry (some "delivery_paused")

/-- `deliver`. -/
def deliverWechat (digests : Digests) (claimed : ClaimedWechat) (worker : String) :
    Script Unit :=
  deliveryGuard (.wechat worker) (deliverGuarded digests claimed worker)

/-! ## Reconciliation -/

/-- The hash of the payload that a stored row was sent with. -/
def Digests.payloadHash (digests : Digests) (row : WechatRow) (outbound : String) : String :=
  digests.sha256 (String.ofList (canonicalPayload row.deviceName row.receiver [outbound]))

/-- The time of a send that the ledger confirms. -/
def confirmedAt : Evidence → Option Int
  | .found _ updatedAt confirmed sentCount =>
      if confirmed ∧ sentCount = 1 then some updatedAt else none
  | .notFound => none

/-- The transaction for a confirmed send. -/
def confirmWechat (digests : Digests) (entry : String × WechatRow) (worker : String)
    (stamp : Int) : Script Unit := do
  let now ← utcNow
  update .wechat (.work (.wechat worker)) fun _ id row => confirmUnknown stamp now entry.1 id row
  startCooldown worker digests entry.2 fun last => max (last.getD stamp) stamp
  commit (.work (.wechat worker))

/-- The lookups of one row: an exception ends them, and so does a confirmation. -/
def lookUp (digests : Digests) (entry : String × WechatRow) (worker payloadHash : String) :
    List String → Script Unit
  | [] => pure ()
  | key :: keys => do
      match ← awaitEvidence key payloadHash with
      | none => pure ()
      | some evidence =>
          match confirmedAt evidence with
          | none => lookUp digests entry worker payloadHash keys
          | some stamp => confirmWechat digests entry worker stamp

/-- One row of `reconcile_unknown`.  Old rows used the queue id as their key. -/
def reconcileWechat (digests : Digests) (worker : String) (entry : String × WechatRow) :
    Script Unit :=
  match entry.2.outboundMessage.filter fun outbound => outbound != "" with
  | none => pure ()
  | some outbound =>
      lookUp digests entry worker (digests.payloadHash entry.2 outbound)
        [digests.idempotencyKey entry.1 outbound, entry.1]

/-- `reconcile_unknown`, with a configured sender. -/
def reconcileUnknown (digests : Digests) (worker : String) : Script Unit := do
  let now ← utcNow
  let entries ← selectForUpdate .wechat (.work (.wechat worker)) WechatRow.nextAttemptAt
    (fun _ row => unknownDue now row) 5
  entries.forM fun entry =>
    update .wechat (.work (.wechat worker)) fun _ id row => postponeUnknown now entry.1 id row
  commit (.work (.wechat worker))
  entries.forM (reconcileWechat digests worker)

/-! ## The consumer -/

/-- `runtime_state()["wechat_enabled"]`. -/
def wechatEnabled (worker : String) : Script Bool := do
  match ← select (.work (.wechat worker)) fun snapshot => snapshot.control.row () with
  | none => raise false
  | some control =>
      commit (.work (.wechat worker))
      return control.wechatEnabled

/-- The claim of one round; whether the host owns delivery is a setting. -/
def claimIfEnabled (worker : String) : Script (Option ClaimedWechat) := do
  if ← awaitFlag then
    if ← wechatEnabled worker then claimWechat worker else return none
  else return none

/-- The loop of `main`.  Whether a reconciliation is due is decided by a clock of
its own.  An exception in a round is a crash and a new start of the consumer. -/
def consumerLoop (digests : Digests) (worker : String) : Nat → Script Unit
  | 0 => commit (.session (.wechat worker))
  | rounds + 1 => do
      match ← claimIfEnabled worker with
      | some claimed =>
          deliverWechat digests claimed worker
          consumerLoop digests worker rounds
      | none =>
          if ← awaitFlag then
            reconcileUnknown digests worker
            consumerLoop digests worker rounds
          else
            consumerLoop digests worker rounds

/-- `main`: one consumer at a time, by a session lock. -/
def consumer (digests : Digests) (worker : String) (rounds : Nat) : Script Unit := do
  if ← tryLock (.wechat worker) .consumer then consumerLoop digests worker rounds
  else raise ()

end TennisAlerts.HostCore
