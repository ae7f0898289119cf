import TennisAlerts.Watchers.Calendar
import TennisAlerts.Watchers.LineCache

/-!
# Lines that stay free

A line that every sweep finds is requested again only after newer lines pushed it out of the
Variable.
-/

namespace TennisAlerts.Watchers

open TennisAlerts.HostCore TennisAlerts.Tables

namespace LineCache

variable (cache : LineCache) (start : List String) (tasks : Nat → TaskRun)

/-- A line that some sweeps find one after another is requested by at most one of them. -/
def AnnouncedOnce : Prop :=
  ∀ line first last,
    (∀ sweep, first ≤ sweep → sweep ≤ last → cache.Produced tasks sweep line) →
    ∀ sweep sweep', first ≤ sweep → sweep ≤ last → first ≤ sweep' → sweep' ≤ last →
      cache.Enqueued start tasks sweep line → cache.Enqueued start tasks sweep' line →
      sweep = sweep'

/-- A task requests the line, a task of a later sweep finds it and sends what is new, and so
far all sweeps have found it. -/
structure Standing (line : String) (earlier later : Nat) : Prop where
  requested : line ∈ (tasks earlier).enqueued cache (cache.sendedAt start tasks earlier)
  found : line ∈ (tasks later).lines
  sends : (tasks later).Sends
  sweeps : earlier / cache.tasks < later / cache.tasks
  free : ∀ sweep, earlier / cache.tasks ≤ sweep → sweep ≤ later / cache.tasks →
    cache.Produced tasks sweep line

/-- No task, since the last one that found a standing line, pushes it out. -/
def Retains : Prop :=
  ∀ line earlier later, cache.Standing start tasks line earlier later →
    ∀ task, earlier ≤ task → task < later →
      (∀ between, task < between → between < later → line ∉ (tasks between).lines) →
      cache.policy.Fits (cache.sendedAt start tasks task) (tasks task).lines line

variable {cache start tasks}

theorem reads_line {task : TaskRun} {line : String} (member : line ∈ task.lines) :
    cache.policy.reads line = true :=
  cache.reads line (TaskRun.visible member)

/-- What is retained is known when it is found again. -/
theorem Retains.known (retains : cache.Retains start tasks) {line : String} {earlier later : Nat}
    (standing : cache.Standing start tasks line earlier later) :
    line ∈ cache.policy.known (cache.sendedAt start tasks later) := by
  have before : earlier < later := Nat.lt_of_div_lt_div standing.sweeps
  obtain ⟨-, found, -⟩ := TaskRun.mem_enqueued.mp standing.requested
  obtain ⟨last, first, less, offered, unoffered⟩ :=
    @Recall.exists_last_offer _ _ line (fun task => (tasks task).lines) _ _ before found
  refine (Recall.known_iff_fits (reads_line offered) less offered unoffered).mpr ?_
  intro task after bounded
  exact retains line earlier later standing task (first.trans after) bounded
    fun between behind => unoffered between (after.trans_lt behind)

/-- A standing line that was pushed out is requested again. -/
theorem Standing.again {line : String} {earlier later task : Nat}
    (standing : cache.Standing start tasks line earlier later) (before : task < later)
    (unfound : ∀ between, task < between → between < later → line ∉ (tasks between).lines)
    (pushed : ¬cache.policy.Fits (cache.sendedAt start tasks task) (tasks task).lines line) :
    line ∈ (tasks later).enqueued cache (cache.sendedAt start tasks later) := by
  refine TaskRun.mem_enqueued.mpr ⟨standing.sends, standing.found, ?_⟩
  exact Recall.unknown_of_pushed (reads_line standing.found) before pushed unfound

/-- Lines that stay free are requested once exactly when the Variable retains them. -/
theorem announcedOnce_iff (cache : LineCache) (start : List String) (tasks : Nat → TaskRun) :
    cache.AnnouncedOnce start tasks ↔ cache.Retains start tasks := by
  constructor
  · intro once line earlier later standing task first last unfound
    by_contra pushed
    have again := standing.again last unfound pushed
    have same := once line (earlier / cache.tasks) (later / cache.tasks) standing.free
      (earlier / cache.tasks) (later / cache.tasks) (Nat.le_refl _) standing.sweeps.le
      standing.sweeps.le (Nat.le_refl _) ⟨earlier, rfl, standing.requested⟩ ⟨later, rfl, again⟩
    exact Nat.ne_of_lt standing.sweeps same
  · intro retains line first last free
    have never (sweep sweep' : Nat) (low : first ≤ sweep) (high : sweep' ≤ last)
        (less : sweep < sweep') (requested : cache.Enqueued start tasks sweep line)
        (again : cache.Enqueued start tasks sweep' line) : False := by
      obtain ⟨earlier, rfl, requested⟩ := requested
      obtain ⟨later, rfl, again⟩ := again
      obtain ⟨sends, found, unknown⟩ := TaskRun.mem_enqueued.mp again
      exact unknown (retains.known ⟨requested, found, sends, less,
        fun sweep after bounded => free sweep (low.trans after) (bounded.trans high)⟩)
    intro sweep sweep' low high low' high' requested again
    rcases Nat.lt_trichotomy sweep sweep' with less | same | more
    · exact (never sweep sweep' low high' less requested again).elim
    · exact same
    · exact (never sweep' sweep low' high more again requested).elim

/-- Eleven courts are free in the same hour. -/
def elevenCourts : TaskRun where
  data := (List.range 11).map fun number =>
    ⟨20820, weekdayOf 20820, ⟨"体育中心" ++ toString (number + 1) ++ "号场", [⟨1080, 1140⟩]⟩⟩
  chatrooms := ["网球群"]
  baselineInitialized := true

/-- The first of eleven lines is requested in every sweep. -/
theorem elevenCourts_repeat : ¬tyzx.AnnouncedOnce [] fun _ => elevenCourts := by
  intro once
  have found : "【体育中心1号场】星期六(01-02)空场: 18:00-19:00" ∈ elevenCourts.lines := by decide
  have same := once _ 0 1 (fun sweep _ _ => ⟨sweep, Nat.div_one sweep, found⟩) 0 1
    (by decide) (by decide) (by decide) (by decide)
    ⟨0, rfl, by decide⟩ ⟨1, rfl, by decide⟩
  exact absurd same (by decide)

end LineCache

end TennisAlerts.Watchers
