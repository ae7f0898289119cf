import TennisAlerts.Watchers.Producers
import TennisAlerts.Tables.Recent

/-!
# Sent caches over many sweeps

Every watcher keeps the lines that it sent in an Airflow Variable, cut to the last ones.
The sweeps of a watcher run one after another, and the host queues every line that is
requested.
-/

namespace TennisAlerts.Watchers

open TennisAlerts.HostCore TennisAlerts.Tables

/-- An item that `_as_str_list` keeps. -/
def notBlank (item : String) : Bool :=
  strip item != ""

/-- How a watcher remembers lines, and how many of its tasks look for free courts in one
sweep. -/
structure LineCache where
  policy : Recall String
  tasks : Nat
  remembers : 0 < policy.limit
  sweeps : 0 < tasks
  reads : ∀ item, notBlank item = true → policy.reads item = true

namespace LineCache

def dashahe : LineCache :=
  ⟨⟨100, notBlank⟩, 1, by decide, by decide, by simp only [imp_self, implies_true]⟩

/-- A PosPal venue with its `max_cached_messages`. -/
def posPal (maxCachedMessages : Nat) (remembers : 0 < maxCachedMessages) : LineCache :=
  ⟨⟨maxCachedMessages, notBlank⟩, 1, remembers, by decide, by simp only [imp_self, implies_true]⟩

def tyzx : LineCache :=
  ⟨⟨10, fun _ => true⟩, 1, by decide, by decide, fun _ _ => rfl⟩

def jdwx : LineCache :=
  ⟨⟨10, fun _ => true⟩, 1, by decide, by decide, fun _ _ => rfl⟩

/-- CRLand looks at each of three days in a task of its own. -/
def crland : LineCache :=
  ⟨⟨100, fun _ => true⟩, 3, by decide, by decide, fun _ _ => rfl⟩

end LineCache

/-- What one task of a sweep finds, and the settings that it reads.  Only PosPal has a
baseline. -/
structure TaskRun where
  data : List NotificationCourt
  chatrooms : List String
  baselineInitialized : Bool

namespace TaskRun

/-- The lines of all found intervals. -/
def lines (task : TaskRun) : List String :=
  task.data.flatMap fun entry =>
    notifications (weekdayText entry.weekday) (monthDay entry.day) [entry.court]

/-- New lines are sent to someone. -/
def Sends (task : TaskRun) : Prop :=
  (task.chatrooms.map strip).filter (· != "") ≠ [] ∧ task.baselineInitialized = true

instance (task : TaskRun) : Decidable task.Sends :=
  inferInstanceAs (Decidable (_ ∧ _))

/-- The lines of the request after `Variable.get` returned `sended`. -/
def enqueued (cache : LineCache) (sended : List String) (task : TaskRun) : List String :=
  if task.Sends then newNotifications task.data (cache.policy.known sended) else []

end TaskRun

namespace LineCache

variable (cache : LineCache) (start : List String) (tasks : Nat → TaskRun)

/-- The Variable before each task. -/
def sendedAt : Nat → List String :=
  cache.policy.memoryAt start fun task => (tasks task).lines

/-- A task of the sweep finds the line. -/
def Produced (sweep : Nat) (line : String) : Prop :=
  ∃ task, task / cache.tasks = sweep ∧ line ∈ (tasks task).lines

/-- A task of the sweep requests the line. -/
def Enqueued (sweep : Nat) (line : String) : Prop :=
  ∃ task, task / cache.tasks = sweep ∧
    line ∈ (tasks task).enqueued cache (cache.sendedAt start tasks task)

end LineCache

/-! ## One task -/

theorem TaskRun.enqueued_eq (cache : LineCache) (sended : List String) (task : TaskRun) :
    task.enqueued cache sended =
      if task.Sends then cache.policy.fresh sended task.lines else [] := by
  rw [TaskRun.enqueued, newNotifications, Recall.fresh, TaskRun.lines]

theorem TaskRun.mem_enqueued {cache : LineCache} {sended : List String} {task : TaskRun}
    {line : String} :
    line ∈ task.enqueued cache sended ↔
      task.Sends ∧ line ∈ task.lines ∧ line ∉ cache.policy.known sended := by
  rw [TaskRun.enqueued_eq]
  split
  · rename_i sends
    rw [Recall.mem_fresh, and_iff_right sends]
  · rename_i silent
    exact ⟨fun member => absurd member List.not_mem_nil, fun both => absurd both.1 silent⟩

/-- The lines of a task are read again from the Variable. -/
theorem TaskRun.visible {task : TaskRun} {line : String} (member : line ∈ task.lines) :
    notBlank line = true := by
  obtain ⟨entry, -, inside⟩ := List.mem_flatMap.mp member
  obtain ⟨court, -, inside⟩ := List.mem_flatMap.mp inside
  obtain ⟨slot, -, rfl⟩ := List.mem_map.mp inside
  have visible := notification_visible (weekdayText entry.weekday) (monthDay entry.day)
    court.courtName slot
  rw [notBlank, bne_iff_ne, visible.strip]
  exact fun empty => visible.nonempty (by rw [empty]; rfl)

/-- A sweep of Dashahe that is answered and rejects no line takes its lines in. -/
theorem Sweep.run_cache (digests : Digests) (watch : Watch) (sweep : Sweep)
    (answered : sweep.delivery = .answered)
    (queued : (enqueueRows digests sweep.host (sweep.input (sweep.news watch)) watch.rows).2 =
      .queued []) :
    (sweep.run digests watch).cache = LineCache.dashahe.policy.absorb watch.cache sweep.lines := by
  have known : LineCache.dashahe.policy.known watch.cache = asStrList watch.cache := by
    simp only [Recall.known, LineCache.dashahe, asStrList]
    rfl
  have news : LineCache.dashahe.policy.fresh watch.cache sweep.lines = sweep.news watch := by
    rw [Recall.fresh, known, Sweep.news]
  rw [Recall.absorb, Recall.entries, known, news, Sweep.run]
  dsimp only
  split
  · rfl
  · split
    · rfl
    · rw [Sweep.request, answered]
      dsimp only
      rw [queued]
      rfl

end TennisAlerts.Watchers
