import TennisAlerts.Watchers.SentCache

/-!
# Sweeps of one watcher

A sweep builds the lines that are not in the sent cache, claims them there and asks
the host to queue them.  The request may not arrive, it may be processed without its
answer arriving, or it is answered.  `_enqueue` runs in one transaction; the rows that
it inserts never change their receiver or message afterwards, and none is deleted.
-/

namespace TennisAlerts.Watchers

open TennisAlerts.HostCore

/-! ## The enqueue transaction -/

/-- What `_enqueue` reads of the database, and its clock. -/
structure HostView where
  subscribed : Bool
  slots : List CurrentSlot
  begun : Int
  expiresAt : Int

/-- What `_enqueue` answers. -/
inductive Reply
  | refused
  | suppressed
  | queued (rejected : List String)

/-- `wechat_outbox` by id. -/
abbrev WechatRows := String → Option WechatRow

/-- `ON CONFLICT(id) DO NOTHING`. -/
def WechatRows.insert (rows : WechatRows) (id : String) (row : WechatRow) : WechatRows :=
  if (rows id).isSome then rows else Function.update rows id (some row)

/-- The row of one receiver. -/
def insertReceiver (digests : Digests) (host : HostView) (input : EnqueueInput)
    (current : CurrentMessage) (rows : WechatRows) (receiver : String) : WechatRows :=
  rows.insert (digests.wechatId input receiver current)
    (newWechat input receiver current host.expiresAt host.begun)

/-- `_enqueue`. -/
def enqueueRows (digests : Digests) (host : HostView) (input : EnqueueInput)
    (rows : WechatRows) : WechatRows × Reply :=
  if validEnqueue input then
    if host.subscribed then
      match currentMessage input.message host.slots with
      | .error _ => (rows, .refused)
      | .ok current =>
          if current.keys = [] then (rows, .suppressed)
          else
            (((input.receivers.map strip).eraseDups).foldl
              (insertReceiver digests host input current) rows, .queued current.rejected)
    else (rows, .suppressed)
  else (rows, .refused)

/-! ## One sweep -/

/-- `NotificationCourt`: a court with its date and the weekday of that date. -/
structure NotificationCourt where
  day : Int
  weekday : Fin 7
  court : FreeCourt

/-- What becomes of a request. -/
inductive Delivery
  | unsent
  | lost
  | answered
  deriving DecidableEq

/-- What a sweep finds, and what becomes of its request. -/
structure Sweep where
  data : List NotificationCourt
  chatrooms : List String
  deviceName : String
  venueId : String
  host : HostView
  delivery : Delivery

deriving instance DecidableEq for EnqueueInput

/-- A request that was queued although its answer was lost. -/
structure Unanswered where
  input : EnqueueInput
  slots : List CurrentSlot
  lines : List String
  deriving DecidableEq

/-- The sent cache, the queue, and the queued requests without an answer. -/
structure Watch where
  cache : List String
  rows : WechatRows
  unanswered : List Unanswered

/-- The lines of all found intervals. -/
def Sweep.lines (sweep : Sweep) : List String :=
  sweep.data.flatMap fun entry =>
    notifications (weekdayText entry.weekday) (monthDay entry.day) [entry.court]

/-- `_as_str_list`. -/
def asStrList (cache : List String) : List String :=
  cache.filter fun item => strip item != ""

/-- `build_new_notifications`. -/
def Sweep.news (sweep : Sweep) (watch : Watch) : List String :=
  sweep.lines.filter fun line => !(asStrList watch.cache).contains line

/-- The request body, as `_enqueue` reads it. -/
def Sweep.input (sweep : Sweep) (news : List String) : EnqueueInput where
  venueId := sweep.venueId
  message := strip ("\n".intercalate news)
  deviceName := strip sweep.deviceName
  receivers := (sweep.chatrooms.map strip).filter (· != "")

/-- The cache after the answer of a processed request. -/
def Reply.release (reply : Reply) (news claimed : List String) : List String :=
  match reply with
  | .refused | .suppressed => retain news claimed
  | .queued rejected => if rejected = [] then claimed else retain rejected claimed

/-- A queued request whose answer is lost is remembered. -/
def Reply.remember (reply : Reply) (request : Unanswered) (earlier : List Unanswered) :
    List Unanswered :=
  match reply with
  | .queued _ => request :: earlier
  | _ => earlier

/-- The request for new lines. -/
def Sweep.request (sweep : Sweep) (digests : Digests) (news claimed : List String)
    (watch : Watch) : Watch :=
  let input := sweep.input news
  let (rows, reply) := enqueueRows digests sweep.host input watch.rows
  match sweep.delivery with
  | .unsent => { watch with cache := retain news claimed }
  | .lost =>
      ⟨retain news claimed, rows,
        reply.remember ⟨input, sweep.host.slots, news⟩ watch.unanswered⟩
  | .answered => { watch with cache := reply.release news claimed, rows := rows }

/-- `run_check_tennis_courts`, from the notifications on. -/
def Sweep.run (digests : Digests) (watch : Watch) (sweep : Sweep) : Watch :=
  let news := sweep.news watch
  if news = [] then watch
  else
    let claimed := lastHundred (asStrList watch.cache ++ news)
    if (sweep.input news).receivers = [] then { watch with cache := claimed }
    else sweep.request digests news claimed watch

/-- A watcher with an empty queue. -/
def Watch.start (cache : List String) : Watch :=
  ⟨cache, fun _ => none, []⟩

end TennisAlerts.Watchers
