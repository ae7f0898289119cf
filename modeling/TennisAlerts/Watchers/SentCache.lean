import TennisAlerts.Watchers.Notification
import TennisAlerts.Concurrent.Program

/-!
# The shared cache of sent lines

The day tasks of one run read, extend and write one Airflow Variable, and so does the
release after an enqueue request that queued nothing.  Reading and writing the
Variable are separate steps; the lines that were announced and released are recorded
beside it.
-/

namespace TennisAlerts.Watchers

open TennisAlerts.HostCore TennisAlerts.Concurrent

/-- What the day tasks share. -/
structure Shared where
  cache : List String
  announced : List String
  released : List String
  deriving DecidableEq

/-- What comes of an enqueue request; no request is made without receivers. -/
inductive Answer
  | noReceivers
  | acknowledged
  | suppressed
  | rejected (lines : List String)
  | failed

inductive Label
  | get
  | set (read : List String)
  | post
  | release

abbrev Task := Program Shared Answer Label

/-! ## Steps -/

/-- `Variable.get`. -/
def getCache : Task (List String) :=
  .act .get (fun shared _ => some shared) fun shared _ => .ret shared.cache

/-- `Variable.set` after a `Variable.get` that returned `read`. -/
def setCache (read value released : List String) : Task Unit :=
  .act (.set read)
    (fun shared _ =>
      some { shared with cache := value, released := released ++ shared.released })
    fun _ _ => .ret ()

/-- The lines need no writing to be released. -/
def noteReleased (lines : List String) : Task Unit :=
  .act .release (fun shared _ => some { shared with released := lines ++ shared.released })
    fun _ _ => .ret ()

/-- The request of `send_wechat_text_to_chatrooms_best_effort`.  The host rejects only
lines of the message. -/
def postEnqueue (lines : List String) : Task Answer :=
  .act .post
    (fun shared answer =>
      let announced := { shared with announced := lines ++ shared.announced }
      match answer with
      | .noReceivers => some shared
      | .rejected refused =>
          if refused ⊆ (splitLines ("\n".intercalate lines)).map strip then some announced
          else none
      | _ => some announced)
    fun _ answer => .ret answer

/-! ## Release and announcement -/

/-- The set `suppressed` for the text of the lines. -/
def suppressedLines (lines : List String) : List String :=
  ((splitLines ("\n".intercalate lines)).map strip).filter (· != "")

/-- The list `retained`. -/
def retain (lines current : List String) : List String :=
  current.filter fun item => !(suppressedLines lines).contains (strip item)

theorem mem_retain {lines current : List String} {line : String} :
    line ∈ retain lines current ↔ line ∈ current ∧ strip line ∉ suppressedLines lines := by
  rw [retain, List.mem_filter, Bool.not_eq_true', ← Bool.not_eq_true, List.contains_iff_mem]

theorem mem_suppressedLines {lines : List String}
    (announceable : ∀ line ∈ lines, Announceable line) {line : String} :
    line ∈ suppressedLines lines ↔ line ∈ lines := by
  rw [suppressedLines, split_announceable announceable, map_strip announceable, List.mem_filter]
  exact and_iff_left_of_imp fun member => bne_iff_ne.mpr (announceable line member).whole.1

/-- `_release_subscription_gate_dedupe` for the text of the lines. -/
def releaseDedupe (lines : List String) : Task Unit := do
  let current ← getCache
  if retain lines current = current then noteReleased lines
  else setCache current (retain lines current) lines

/-- `send_wechat_text_to_chatrooms_best_effort`. -/
def sendBestEffort (lines : List String) : Task Unit := do
  match ← postEnqueue lines with
  | .noReceivers | .acknowledged => pure ()
  | .suppressed | .failed => releaseDedupe lines
  | .rejected refused => if refused = [] then pure () else releaseDedupe refused

/-- What a day task found. -/
structure Availability where
  weekday : Fin 7
  data : List FreeCourt

/-- The lines of a day. -/
def Availability.lines (found : Availability) (today : Int) (day : Fin 3) : List String :=
  notifications (weekdayText found.weekday) (monthDay (today + day.val)) found.data

/-- `value[-100:]`. -/
def lastHundred (value : List String) : List String :=
  value.drop (value.length - 100)

/-- The notifications of `check_and_notify_for_day`. -/
def checkAndNotifyForDay (today : Int) (day : Fin 3) (found : Availability) : Task Unit :=
  if found.data.isEmpty then pure ()
  else do
    let sent ← getCache
    let news := (found.lines today day).filter fun line => !sent.contains line
    if news.isEmpty then pure ()
    else do
      setCache sent (lastHundred (sent ++ news)) []
      sendBestEffort news

/-! ## Runs of the day tasks -/

/-- The day tasks run once each; a task may be killed. -/
def dayTasks : System Shared Answer Label (Fin 3) where
  operation _ _ := False
  crash _ shared := shared
  environment _ _ := False

/-- The three tasks of one run, about to start. -/
def dayRun (today : Int) (found : Fin 3 → Availability) (cache : List String) :
    Config Shared Answer Label (Fin 3) :=
  ⟨⟨cache, [], []⟩, fun day => checkAndNotifyForDay today day (found day)⟩

/-- The value that a task writes replaces the one that it read. -/
def replacesRead (_ : Fin 3) (label : Label) (shared : Shared) (_ : Answer) : Prop :=
  match label with
  | .set read => shared.cache = read
  | _ => True

instance : ∀ (day : Fin 3) (label : Label) (shared : Shared) (answer : Answer),
    Decidable (replacesRead day label shared answer)
  | _, .set _, _, _ => decEq _ _
  | _, .get, _, _ | _, .post, _, _ | _, .release, _, _ => isTrue trivial

end TennisAlerts.Watchers
