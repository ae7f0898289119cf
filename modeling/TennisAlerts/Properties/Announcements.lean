import TennisAlerts.Watchers.Calendar
import TennisAlerts.Watchers.Sweep
import Mathlib.Data.List.Dedup
import Mathlib.Data.List.Sort
import Mathlib.Data.String.Basic

/-!
# Announcements of one watcher

A line is announced once to a receiver as long as a request that repeats a queued line
is the request that queued it.
-/

namespace TennisAlerts.Watchers

open TennisAlerts.HostCore

/-- No line stands in two rows of one receiver. -/
def WechatRows.Single (rows : WechatRows) : Prop :=
  ∀ id row id' row' line, rows id = some row → rows id' = some row' →
    row.receiver = row'.receiver → line ∈ splitLines row.message →
    line ∈ splitLines row'.message → id = id'

/-! ## When a sweep repeats a request -/

/-- The host covers the line with current slots. -/
def Covered (slots : List CurrentSlot) (line : String) : Prop :=
  ∃ keys, coveredEvents line slots = .ok keys

/-- The earlier request announced the same lines with the same device, and the host
covers them by the same events. -/
structure Unanswered.Repeated (earlier : Unanswered) (input : EnqueueInput)
    (slots : List CurrentSlot) (news : List String) : Prop where
  venue : earlier.input.venueId = input.venueId
  device : earlier.input.deviceName = input.deviceName
  lines : ∀ line, line ∈ earlier.lines ↔ line ∈ news
  covered : ∀ line ∈ news, coveredEvents line earlier.slots = coveredEvents line slots

/-- The court names have no line boundaries, the cache drops no line, and a request that
shares a queued line with an unanswered one repeats it. -/
structure Sweep.Repeats (sweep : Sweep) (watch : Watch) : Prop where
  plain : ∀ entry ∈ sweep.data, ∀ character ∈ entry.court.courtName.toList,
    lineBreak character = false
  short : (asStrList watch.cache ++ sweep.news watch).length ≤ 100
  repeated : sweep.delivery ≠ .unsent → ∀ earlier ∈ watch.unanswered, ∀ line ∈ earlier.lines,
    line ∈ sweep.news watch → Covered earlier.slots line → Covered sweep.host.slots line →
    earlier.Repeated (sweep.input (sweep.news watch)) sweep.host.slots (sweep.news watch)

/-- Every sweep of a sequence repeats its unanswered requests. -/
def AllRepeat (digests : Digests) : Watch → List Sweep → Prop
  | _, [] => True
  | watch, sweep :: rest => sweep.Repeats watch ∧ AllRepeat digests (sweep.run digests watch) rest

/-! ## Lines -/

theorem Sweep.mem_lines {sweep : Sweep}
    (plain : ∀ entry ∈ sweep.data, ∀ character ∈ entry.court.courtName.toList,
      lineBreak character = false) {line : String} (member : line ∈ sweep.lines) :
    Announceable line := by
  obtain ⟨entry, known, inside⟩ := List.mem_flatMap.mp member
  obtain ⟨court, only, inside⟩ := List.mem_flatMap.mp inside
  obtain ⟨slot, -, rfl⟩ := List.mem_map.mp inside
  rw [List.mem_singleton.mp only]
  exact notification_announceable _ _ (plain entry known) slot

theorem mem_news {sweep : Sweep} {watch : Watch} {line : String} :
    line ∈ sweep.news watch ↔ line ∈ sweep.lines ∧ line ∉ asStrList watch.cache := by
  rw [Sweep.news, List.mem_filter, Bool.not_eq_true', ← Bool.not_eq_true, List.contains_iff_mem]

/-! ## The current message -/

theorem mem_sortedSet {texts : List String} {text : String} :
    text ∈ sortedSet texts ↔ text ∈ texts := by
  rw [sortedSet, List.mem_insertionSort, List.mem_dedup]

theorem sortedSet_congr {texts texts' : List String}
    (same : ∀ text, text ∈ texts ↔ text ∈ texts') : sortedSet texts = sortedSet texts' := by
  have perm : texts.dedup.Perm texts'.dedup :=
    (List.perm_ext_iff_of_nodup (List.nodup_dedup _) (List.nodup_dedup _)).mpr fun text => by
      rw [List.mem_dedup, List.mem_dedup, same]
  exact List.Perm.eq_of_pairwise' (List.pairwise_insertionSort _ _)
    (List.pairwise_insertionSort _ _)
    ((List.perm_insertionSort _ _).trans (perm.trans (List.perm_insertionSort _ _).symm))

/-- Where the retained and the rejected lines come from. -/
theorem currentLines_ok {slots : List CurrentSlot} {texts retained keys rejected : List String}
    (parsed : currentLines slots texts = .ok (retained, keys, rejected)) :
    (∀ line ∈ retained, Covered slots line ∧ ∃ text ∈ texts, line = strip text) ∧
      ∀ line ∈ rejected, ¬Covered slots line ∧ ∃ text ∈ texts, line = strip text := by
  induction texts generalizing retained keys rejected with
  | nil =>
      cases parsed
      exact ⟨nofun, nofun⟩
  | cons text texts ih =>
      unfold currentLines at parsed
      cases covered : coveredEvents (strip text) slots with
      | error reason =>
          cases reason with
          | invalid =>
              rw [covered] at parsed
              cases parsed
          | availabilityChanged =>
              rw [covered] at parsed
              cases rest : currentLines slots texts with
              | error reason =>
                  rw [rest] at parsed
                  cases parsed
              | ok parts =>
                  obtain ⟨retained', keys', rejected'⟩ := parts
                  rw [rest] at parsed
                  cases parsed
                  obtain ⟨kept, gone⟩ := ih rest
                  refine ⟨fun line member => ?_, fun line member => ?_⟩
                  · obtain ⟨covered, text', known, same⟩ := kept line member
                    exact ⟨covered, text', List.mem_cons_of_mem text known, same⟩
                  · rcases List.mem_cons.mp member with rfl | member
                    · refine ⟨?_, text, List.mem_cons_self, rfl⟩
                      rintro ⟨keys, found⟩
                      rw [covered] at found
                      cases found
                    · obtain ⟨uncovered, text', known, same⟩ := gone line member
                      exact ⟨uncovered, text', List.mem_cons_of_mem text known, same⟩
      | ok found =>
          rw [covered] at parsed
          cases rest : currentLines slots texts with
          | error reason =>
              rw [rest] at parsed
              cases parsed
          | ok parts =>
              obtain ⟨retained', keys', rejected'⟩ := parts
              rw [rest] at parsed
              cases parsed
              obtain ⟨kept, gone⟩ := ih rest
              refine ⟨fun line member => ?_, fun line member => ?_⟩
              · rcases List.mem_cons.mp member with rfl | member
                · exact ⟨⟨found, covered⟩, text, List.mem_cons_self, rfl⟩
                · obtain ⟨covered, text', known, same⟩ := kept line member
                  exact ⟨covered, text', List.mem_cons_of_mem text known, same⟩
              · obtain ⟨uncovered, text', known, same⟩ := gone line member
                exact ⟨uncovered, text', List.mem_cons_of_mem text known, same⟩

theorem currentLines_congr {slots slots' : List CurrentSlot} {texts : List String}
    (same : ∀ text ∈ texts, coveredEvents (strip text) slots = coveredEvents (strip text) slots') :
    currentLines slots texts = currentLines slots' texts := by
  induction texts with
  | nil => rfl
  | cons text texts ih =>
      rw [currentLines, currentLines, same text List.mem_cons_self,
        ih fun other member => same other (List.mem_cons_of_mem text member)]

section

variable {lines : List String} (nonempty : lines ≠ [])
  (announceable : ∀ line ∈ lines, Announceable line)
include nonempty announceable

/-- The current message of announced lines consists of those that are covered. -/
theorem currentMessage_ok {slots : List CurrentSlot} {current : CurrentMessage}
    (parsed : currentMessage (strip ("\n".intercalate lines)) slots = .ok current) :
    (∀ line ∈ splitLines current.message, line ∈ lines ∧ Covered slots line) ∧
      ∀ line ∈ current.rejected, line ∈ lines ∧ ¬Covered slots line := by
  unfold currentMessage at parsed
  rw [strip_joined announceable nonempty, split_announceable announceable] at parsed
  cases inner : currentLines slots (sortedSet lines) with
  | error reason =>
      rw [inner] at parsed
      cases parsed
  | ok parts =>
      obtain ⟨retained, keys, rejected⟩ := parts
      rw [inner] at parsed
      cases parsed
      obtain ⟨kept, gone⟩ := currentLines_ok inner
      have known {line : String} (origin : ∃ text ∈ sortedSet lines, line = strip text) :
          line ∈ lines := by
        obtain ⟨text, inside, rfl⟩ := origin
        rw [mem_sortedSet] at inside
        rw [(announceable text inside).strip]
        exact inside
      refine ⟨fun line member => ?_, fun line member => ?_⟩
      · rw [splitLines_intercalate fun line member =>
          (announceable line (known (kept line member).2)).whole] at member
        exact ⟨known (kept line member).2, (kept line member).1⟩
      · exact ⟨known (gone line member).2, (gone line member).1⟩

theorem currentMessage_congr {lines' : List String} {slots slots' : List CurrentSlot}
    (nonempty' : lines' ≠ []) (announceable' : ∀ line ∈ lines', Announceable line)
    (same : ∀ line, line ∈ lines ↔ line ∈ lines')
    (covered : ∀ line ∈ lines, coveredEvents line slots = coveredEvents line slots') :
    currentMessage (strip ("\n".intercalate lines)) slots =
      currentMessage (strip ("\n".intercalate lines')) slots' := by
  unfold currentMessage
  rw [strip_joined announceable nonempty, strip_joined announceable' nonempty',
    split_announceable announceable, split_announceable announceable', ← sortedSet_congr same]
  rw [currentLines_congr fun text member => ?_]
  rw [mem_sortedSet] at member
  rw [(announceable text member).strip]
  exact covered text member

end

/-! ## The queue -/

theorem WechatRows.insert_self {rows : WechatRows} {id : String} {row : WechatRow}
    (absent : rows id = none) : rows.insert id row id = some row := by
  rw [WechatRows.insert, absent, Option.isSome_none, if_neg Bool.false_ne_true,
    Function.update_self]

theorem WechatRows.insert_of_ne {rows : WechatRows} {id key : String} {row : WechatRow}
    (apart : key ≠ id) : rows.insert id row key = rows key := by
  unfold WechatRows.insert
  split
  · rfl
  · rw [Function.update_of_ne apart]

theorem WechatRows.of_insert {rows : WechatRows} {id key : String} {row found : WechatRow}
    (stored : rows.insert id row key = some found) :
    rows key = some found ∨ (rows key = none ∧ key = id ∧ found = row) := by
  unfold WechatRows.insert at stored
  split at stored
  · exact .inl stored
  · rename_i absent
    by_cases same : key = id
    · subst same
      rw [Function.update_self] at stored
      exact .inr ⟨Option.not_isSome_iff_eq_none.mp absent, rfl, (Option.some.inj stored).symm⟩
    · rw [Function.update_of_ne same] at stored
      exact .inl stored

/-- A row of the queue was there before, or is the row of a receiver. -/
theorem of_insertReceivers {digests : Digests} {host : HostView} {input : EnqueueInput}
    {current : CurrentMessage} {receivers : List String} {rows : WechatRows} {id : String}
    {row : WechatRow}
    (stored : receivers.foldl (insertReceiver digests host input current) rows id = some row) :
    rows id = some row ∨ ∃ receiver, id = digests.wechatId input receiver current ∧
      row = newWechat input receiver current host.expiresAt host.begun := by
  induction receivers generalizing rows with
  | nil => exact .inl stored
  | cons receiver receivers ih =>
      rcases ih stored with earlier | later
      · rcases WechatRows.of_insert earlier with old | ⟨-, same, new⟩
        · exact .inl old
        · exact .inr ⟨receiver, same, new⟩
      · exact .inr later

/-- What a processed request does to the queue. -/
theorem enqueueRows_cases (digests : Digests) (host : HostView) (input : EnqueueInput)
    (rows : WechatRows) :
    (enqueueRows digests host input rows = (rows, .refused) ∨
      enqueueRows digests host input rows = (rows, .suppressed)) ∨
    ∃ current, currentMessage input.message host.slots = .ok current ∧
      enqueueRows digests host input rows =
        (((input.receivers.map strip).eraseDups).foldl
          (insertReceiver digests host input current) rows, .queued current.rejected) := by
  unfold enqueueRows
  split
  · split
    · split
      · exact .inl (.inl rfl)
      · rename_i current parsed
        split
        · exact .inl (.inr rfl)
        · exact .inr ⟨current, parsed, rfl⟩
    · exact .inl (.inr rfl)
  · exact .inl (.inl rfl)

theorem enqueueRows_of_current {digests : Digests} {host : HostView} {input : EnqueueInput}
    {current : CurrentMessage} {rows : WechatRows} (valid : validEnqueue input = true)
    (subscribed : host.subscribed = true)
    (prepared : currentMessage input.message host.slots = .ok current)
    (vouched : current.keys ≠ []) :
    enqueueRows digests host input rows =
      (((input.receivers.map strip).eraseDups).foldl
        (insertReceiver digests host input current) rows, .queued current.rejected) := by
  unfold enqueueRows
  rw [if_pos valid, if_pos subscribed, prepared]
  exact if_neg vouched

/-! ## Invariant -/

/-- The request queued the line in a row with the id. -/
def Unanswered.Queued (earlier : Unanswered) (digests : Digests) (id receiver line : String) :
    Prop :=
  line ∈ earlier.lines ∧ Covered earlier.slots line ∧
    ∃ current, currentMessage earlier.input.message earlier.slots = .ok current ∧
      id = digests.wechatId earlier.input receiver current

structure Unanswered.Formed (earlier : Unanswered) : Prop where
  nonempty : earlier.lines ≠ []
  announceable : ∀ line ∈ earlier.lines, Announceable line
  message : earlier.input.message = strip ("\n".intercalate earlier.lines)

/-- Every queued line is in the cache, or was queued by an unanswered request. -/
structure Watch.Coherent (watch : Watch) (digests : Digests) : Prop where
  single : watch.rows.Single
  formed : ∀ earlier ∈ watch.unanswered, earlier.Formed
  lines : ∀ id row, watch.rows id = some row → ∀ line ∈ splitLines row.message, Announceable line
  known : ∀ id row, watch.rows id = some row → ∀ line ∈ splitLines row.message,
    line ∈ asStrList watch.cache ∨
      ∃ earlier ∈ watch.unanswered, earlier.Queued digests id row.receiver line

theorem coherent_start (digests : Digests) (cache : List String) :
    (Watch.start cache).Coherent digests where
  single _ _ _ _ _ stored := absurd stored (Option.some_ne_none _).symm
  formed _ member := absurd member List.not_mem_nil
  lines _ _ stored := absurd stored (Option.some_ne_none _).symm
  known _ _ stored := absurd stored (Option.some_ne_none _).symm

theorem mem_asStrList {cache : List String} {line : String} :
    line ∈ asStrList cache ↔ line ∈ cache ∧ strip line ≠ "" := by
  rw [asStrList, List.mem_filter, bne_iff_ne]

theorem Announceable.mem_asStrList {line : String} (announceable : Announceable line)
    {cache : List String} : line ∈ asStrList cache ↔ line ∈ cache := by
  rw [Watchers.mem_asStrList, announceable.strip]
  exact and_iff_left announceable.whole.1

/-- A cached line that is none of the released lines stays. -/
theorem mem_retain_of_ne {released cache : List String}
    (announceable : ∀ line ∈ released, Announceable line) {line : String}
    (announced : Announceable line) (inside : line ∈ cache) (other : line ∉ released) :
    line ∈ retain released cache := by
  refine mem_retain.mpr ⟨inside, ?_⟩
  rw [announced.strip, mem_suppressedLines announceable]
  exact other

/-- The cache changes, and keeps what it holds of the queued lines. -/
theorem Watch.Coherent.of_cache {watch : Watch} {digests : Digests}
    (coherent : watch.Coherent digests) {cache : List String}
    (keeps : ∀ line, Announceable line → line ∈ asStrList watch.cache → line ∈ cache) :
    Watch.Coherent { watch with cache := cache } digests where
  single := coherent.single
  formed := coherent.formed
  lines := coherent.lines
  known id row stored line member := by
    have announceable := coherent.lines id row stored line member
    rcases coherent.known id row stored line member with cached | earlier
    · exact .inl (announceable.mem_asStrList.mpr (keeps line announceable cached))
    · exact .inr earlier

/-! ## One sweep -/

section

variable {digests : Digests} {sweep : Sweep} {watch : Watch}
  (coherent : watch.Coherent digests) (repeats : sweep.Repeats watch)

include repeats in
theorem Sweep.Repeats.announceable {line : String} (member : line ∈ sweep.news watch) :
    Announceable line :=
  Sweep.mem_lines repeats.plain (mem_news.mp member).1

include coherent repeats

/-- The rows of new lines have the ids of the rows that hold these lines already. -/
theorem queued_id (announces : sweep.news watch ≠ []) (sent : sweep.delivery ≠ .unsent)
    {current : CurrentMessage}
    (parsed : currentMessage (sweep.input (sweep.news watch)).message sweep.host.slots =
      .ok current) {id line : String} {row : WechatRow} (stored : watch.rows id = some row)
    (member : line ∈ splitLines row.message) (repeated : line ∈ splitLines current.message) :
    id = digests.wechatId (sweep.input (sweep.news watch)) row.receiver current := by
  have announceable : ∀ line ∈ sweep.news watch, Announceable line :=
    fun _ => repeats.announceable
  obtain ⟨new, covered⟩ := (currentMessage_ok announces announceable parsed).1 line repeated
  rcases coherent.known id row stored line member with cached |
    ⟨earlier, known, queued, covered', current', parsed', rfl⟩
  · exact absurd cached (mem_news.mp new).2
  · have same := repeats.repeated sent earlier known line queued new covered' covered
    have formed := coherent.formed earlier known
    have messages : currentMessage earlier.input.message earlier.slots =
        currentMessage (sweep.input (sweep.news watch)).message sweep.host.slots := by
      rw [formed.message]
      exact currentMessage_congr formed.nonempty formed.announceable announces announceable
        same.lines
        fun line member => same.covered line ((same.lines line).mp member)
    rw [messages, parsed] at parsed'
    cases parsed'
    rw [Digests.wechatId, Digests.wechatId, same.venue, same.device]

/-- A processed request queues rows that stay coherent with the cache and with the
remembered requests. -/
theorem Watch.Coherent.queued (announces : sweep.news watch ≠ []) (sent : sweep.delivery ≠ .unsent)
    {current : CurrentMessage}
    (parsed : currentMessage (sweep.input (sweep.news watch)).message sweep.host.slots =
      .ok current) {receivers cache : List String} {unanswered : List Unanswered}
    (keeps : ∀ line, Announceable line → line ∈ asStrList watch.cache → line ∈ cache)
    (remembers : watch.unanswered ⊆ unanswered)
    (formed : ∀ earlier ∈ unanswered, earlier.Formed)
    (fresh : ∀ line ∈ sweep.news watch, Covered sweep.host.slots line →
      line ∈ cache ∨ Unanswered.mk (sweep.input (sweep.news watch)) sweep.host.slots
        (sweep.news watch) ∈ unanswered) :
    Watch.Coherent ⟨cache, receivers.foldl
      (insertReceiver digests sweep.host (sweep.input (sweep.news watch)) current) watch.rows,
      unanswered⟩ digests := by
  have announceable : ∀ line ∈ sweep.news watch, Announceable line :=
    fun _ => repeats.announceable
  have lines := (currentMessage_ok announces announceable parsed).1
  constructor
  · intro id row id' row' line stored stored' same member member'
    rcases of_insertReceivers stored with old | ⟨receiver, rfl, rfl⟩ <;>
      rcases of_insertReceivers stored' with old' | ⟨receiver', rfl, rfl⟩
    · exact coherent.single id row id' row' line old old' same member member'
    · rw [queued_id coherent repeats announces sent parsed old member member', same]
      rfl
    · rw [queued_id coherent repeats announces sent parsed old' member' member, ← same]
      rfl
    · have same : receiver = receiver' := same
      rw [same]
  · exact formed
  · intro id row stored line member
    rcases of_insertReceivers stored with old | ⟨receiver, -, rfl⟩
    · exact coherent.lines id row old line member
    · exact announceable line (lines line member).1
  · intro id row stored line member
    rcases of_insertReceivers stored with old | ⟨receiver, rfl, rfl⟩
    · have announced := coherent.lines id row old line member
      rcases coherent.known id row old line member with cached | ⟨earlier, known, queued⟩
      · exact .inl (announced.mem_asStrList.mpr (keeps line announced cached))
      · exact .inr ⟨earlier, remembers known, queued⟩
    · obtain ⟨new, covered⟩ := lines line member
      rcases fresh line new covered with cached | known
      · exact .inl ((announceable line new).mem_asStrList.mpr cached)
      · exact .inr ⟨_, known, new, covered, current, parsed, rfl⟩

theorem Watch.Coherent.request (announces : sweep.news watch ≠ []) :
    (sweep.request digests (sweep.news watch) (asStrList watch.cache ++ sweep.news watch)
      watch).Coherent digests := by
  have announceable : ∀ line ∈ sweep.news watch, Announceable line :=
    fun _ => repeats.announceable
  have released (line : String) (announced : Announceable line)
      (cached : line ∈ asStrList watch.cache) {lines : List String}
      (within : ∀ line ∈ lines, line ∈ sweep.news watch) :
      line ∈ retain lines (asStrList watch.cache ++ sweep.news watch) :=
    mem_retain_of_ne (fun line member => announceable line (within line member)) announced
      (List.mem_append_left _ cached) fun member => (mem_news.mp (within line member)).2 cached
  have unprocessed : Watch.Coherent { watch with
      cache := retain (sweep.news watch) (asStrList watch.cache ++ sweep.news watch) } digests :=
    coherent.of_cache fun line announced cached => released line announced cached fun _ => id
  unfold Sweep.request
  dsimp only
  rcases enqueueRows_cases digests sweep.host (sweep.input (sweep.news watch)) watch.rows with
    (answer | answer) | ⟨current, parsed, answer⟩
  · rw [answer]
    cases sweep.delivery <;> exact unprocessed
  · rw [answer]
    cases sweep.delivery <;> exact unprocessed
  · rw [answer]
    have rejected := (currentMessage_ok announces announceable parsed).2
    cases delivery : sweep.delivery with
    | unsent => exact unprocessed
    | lost =>
        refine coherent.queued repeats announces (by rw [delivery]; exact nofun) parsed
          (fun line announced cached => released line announced cached fun _ => id)
          (List.subset_cons_self _ _) ?_ fun _ _ _ => .inr List.mem_cons_self
        intro earlier member
        rcases List.mem_cons.mp member with rfl | member
        · exact ⟨announces, announceable, rfl⟩
        · exact coherent.formed earlier member
    | answered =>
        refine coherent.queued repeats announces (by rw [delivery]; exact nofun) parsed ?_
          (List.Subset.refl _) coherent.formed ?_
        · intro line announced cached
          unfold Reply.release
          dsimp only
          split
          · exact List.mem_append_left _ cached
          · exact released line announced cached fun line member => (rejected line member).1
        · intro line new covered
          left
          unfold Reply.release
          dsimp only
          split
          · exact List.mem_append_right _ new
          · exact mem_retain_of_ne (fun line member => announceable line (rejected line member).1)
              (announceable line new) (List.mem_append_right _ new)
              fun member => (rejected line member).2 covered

theorem Watch.Coherent.run : (sweep.run digests watch).Coherent digests := by
  unfold Sweep.run
  dsimp only
  split
  · exact coherent
  · rename_i announces
    rw [lastHundred, Nat.sub_eq_zero_of_le repeats.short, List.drop_zero]
    split
    · exact coherent.of_cache fun line _ cached => List.mem_append_left _ cached
    · exact coherent.request repeats announces

end

/-! ## Sequences of sweeps -/

theorem coherent_of_allRepeat {digests : Digests} {sweeps : List Sweep} {watch : Watch}
    (coherent : watch.Coherent digests) (repeats : AllRepeat digests watch sweeps) :
    (sweeps.foldl (Sweep.run digests) watch).Coherent digests := by
  induction sweeps generalizing watch with
  | nil => exact coherent
  | cons sweep sweeps ih => exact ih (coherent.run repeats.1) repeats.2

/-- No line is queued twice for a receiver by sweeps that repeat their unanswered requests. -/
theorem single_of_allRepeat (digests : Digests) (cache : List String) (sweeps : List Sweep)
    (repeats : AllRepeat digests (Watch.start cache) sweeps) :
    (sweeps.foldl (Sweep.run digests) (Watch.start cache)).rows.Single :=
  (coherent_of_allRepeat (coherent_start digests cache) repeats).single

/-! ## A lost answer -/

section

variable {digests : Digests} {sweep : Sweep} (watch : Watch) {news claimed rejected : List String}
  {rows : WechatRows}

theorem Sweep.run_of_news {watch : Watch} (found : sweep.news watch = news) (announces : news ≠ [])
    (addressed : (sweep.input news).receivers ≠ []) :
    sweep.run digests watch =
      sweep.request digests news (lastHundred (asStrList watch.cache ++ news)) watch := by
  unfold Sweep.run
  dsimp only
  rw [found, if_neg announces, if_neg addressed]

variable (processed : enqueueRows digests sweep.host (sweep.input news) watch.rows =
  (rows, .queued rejected))
include processed

theorem Sweep.request_lost (lost : sweep.delivery = .lost) :
    sweep.request digests news claimed watch =
      ⟨retain news claimed, rows,
        ⟨sweep.input news, sweep.host.slots, news⟩ :: watch.unanswered⟩ := by
  unfold Sweep.request
  dsimp only
  rw [processed, lost]
  rfl

theorem Sweep.request_answered (answered : sweep.delivery = .answered) :
    sweep.request digests news claimed watch =
      ⟨(Reply.queued rejected).release news claimed, rows, watch.unanswered⟩ := by
  unfold Sweep.request
  dsimp only
  rw [processed, answered]

end

/-- A court that is free in the evening of one day, and the slot that the host knows. -/
def freeCourt (courtName : String) : NotificationCourt :=
  ⟨20759, weekdayOf 20759, ⟨courtName, [⟨1080, 1140⟩]⟩⟩

def currentCourt (eventKey courtName : String) : CurrentSlot :=
  ⟨eventKey, 20759, courtName.toList, "18:00".toList, "19:00".toList⟩

def sweepOf (data : List NotificationCourt) (delivery : Delivery) : Sweep where
  data := data
  chatrooms := ["群"]
  deviceName := "phone"
  venueId := "dsh"
  host := ⟨true, [currentCourt "a" "1号场", currentCourt "b" "2号场"], 0, 300⟩
  delivery := delivery

/-- The answer of the first sweep is lost; the second sweep finds one more court. -/
def lostAnswer : List Sweep :=
  [sweepOf [freeCourt "1号场"] .lost, sweepOf [freeCourt "1号场", freeCourt "2号场"] .answered]

def firstLine : String :=
  "【1号场】星期一(11-02)空场: 18:00-19:00"

theorem sweepOf_plain {names : List String} {delivery : Delivery}
    (plain : (names.all fun name => name.toList.all fun letter => !lineBreak letter) = true) :
    ∀ entry ∈ (sweepOf (names.map freeCourt) delivery).data,
      ∀ character ∈ entry.court.courtName.toList, lineBreak character = false := by
  intro entry known character inside
  obtain ⟨name, member, rfl⟩ := List.mem_map.mp known
  simpa only [Bool.not_eq_true'] using
    List.all_eq_true.mp (List.all_eq_true.mp plain name member) character inside

def lostSweep : Sweep :=
  sweepOf [freeCourt "1号场"] .lost

/-- The same sweep again, answered. -/
def repeatedSweep : Sweep :=
  sweepOf [freeCourt "1号场"] .answered

/-- A later sweep finds one more court. -/
def widerSweep : Sweep :=
  sweepOf [freeCourt "1号场", freeCourt "2号场"] .answered

def secondLine : String :=
  "【2号场】星期一(11-02)空场: 18:00-19:00"

/-- The message of both lines. -/
def bothLines : CurrentMessage :=
  ⟨firstLine ++ "\n" ++ secondLine, ["a", "b"], []⟩

def lostRequest : Unanswered :=
  ⟨lostSweep.input [firstLine], lostSweep.host.slots, [firstLine]⟩

/-- The row of the lost request. -/
def lostRows : WechatRows :=
  insertReceiver ⟨id⟩ lostSweep.host (lostSweep.input [firstLine]) ⟨firstLine, ["a"], []⟩
    (fun _ => none) "群"

/-- Both rows. -/
def widerRows : WechatRows :=
  insertReceiver ⟨id⟩ widerSweep.host (widerSweep.input [firstLine, secondLine]) bothLines lostRows
    "群"

def afterLost : Watch :=
  lostSweep.run ⟨id⟩ (Watch.start [])

def afterRepeated : Watch :=
  repeatedSweep.run ⟨id⟩ afterLost

/-- What the sweeps find. -/
theorem sweeps_lines :
    (lostSweep.lines = [firstLine] ∧ widerSweep.lines = [firstLine, secondLine]) ∧
      asStrList [firstLine] = [firstLine] ∧
      retain [firstLine] (lastHundred ((asStrList []) ++ [firstLine])) = [] := by
  decide +kernel

/-- What the host makes of the requests. -/
theorem sweeps_prepared :
    (validEnqueue (lostSweep.input [firstLine]) = true ∧
      currentMessage (lostSweep.input [firstLine]).message lostSweep.host.slots =
        .ok ⟨firstLine, ["a"], []⟩) ∧
    validEnqueue (widerSweep.input [firstLine, secondLine]) = true ∧
      currentMessage (widerSweep.input [firstLine, secondLine]).message widerSweep.host.slots =
        .ok bothLines := by
  decide +kernel

theorem sweepOf_receivers (data : List NotificationCourt) (delivery : Delivery)
    (news : List String) : ((sweepOf data delivery).input news).receivers = ["群"] := by
  change (["群"].map strip).filter (· != "") = _
  decide

theorem sweepOf_addressed (data : List NotificationCourt) (delivery : Delivery)
    (news : List String) : ((sweepOf data delivery).input news).receivers ≠ [] := by
  rw [sweepOf_receivers]
  exact List.cons_ne_nil _ _

/-- What a valid request of such a sweep does to the queue. -/
theorem sweepOf_queued {data : List NotificationCourt} {delivery : Delivery} {news : List String}
    {current : CurrentMessage} (rows : WechatRows)
    (valid : validEnqueue ((sweepOf data delivery).input news) = true)
    (prepared : currentMessage ((sweepOf data delivery).input news).message
      (sweepOf data delivery).host.slots = .ok current)
    (vouched : current.keys ≠ []) :
    enqueueRows ⟨id⟩ (sweepOf data delivery).host ((sweepOf data delivery).input news) rows =
      (insertReceiver ⟨id⟩ (sweepOf data delivery).host ((sweepOf data delivery).input news)
        current rows "群", .queued current.rejected) := by
  have receivers : (["群"].map strip).eraseDups = ["群"] := by decide
  rw [enqueueRows_of_current valid rfl prepared vouched, sweepOf_receivers, receivers,
    List.foldl_cons, List.foldl_nil]

/-- The host queues the first line alone, whatever becomes of its answer. -/
theorem lostSweep_queued (rows : WechatRows) :
    enqueueRows ⟨id⟩ lostSweep.host (lostSweep.input [firstLine]) rows =
      (insertReceiver ⟨id⟩ lostSweep.host (lostSweep.input [firstLine]) ⟨firstLine, ["a"], []⟩
        rows "群", .queued []) :=
  sweepOf_queued rows sweeps_prepared.1.1 sweeps_prepared.1.2 (List.cons_ne_nil _ _)

theorem widerSweep_queued (rows : WechatRows) :
    enqueueRows ⟨id⟩ widerSweep.host (widerSweep.input [firstLine, secondLine]) rows =
      (insertReceiver ⟨id⟩ widerSweep.host (widerSweep.input [firstLine, secondLine]) bothLines
        rows "群", .queued []) :=
  sweepOf_queued rows sweeps_prepared.2.1 sweeps_prepared.2.2 (List.cons_ne_nil _ _)

theorem afterLost_eq : afterLost = ⟨[], lostRows, [lostRequest]⟩ := by
  have news : lostSweep.news (Watch.start []) = [firstLine] := by
    rw [Sweep.news, sweeps_lines.1.1]
    rfl
  have forgotten : retain [firstLine] (lastHundred (asStrList (Watch.start []).cache ++
      [firstLine])) = [] :=
    sweeps_lines.2.2
  have processed := lostSweep_queued (Watch.start []).rows
  rw [afterLost, Sweep.run_of_news news (List.cons_ne_nil _ _) (sweepOf_addressed _ _ _),
    Sweep.request_lost _ processed rfl, forgotten]
  rfl

theorem repeatedSweep_news : repeatedSweep.news ⟨[], lostRows, [lostRequest]⟩ = [firstLine] := by
  have lines : repeatedSweep.lines = [firstLine] := sweeps_lines.1.1
  rw [Sweep.news, lines]
  rfl

/-- The answered sweep takes its line into the cache. -/
theorem afterRepeated_eq : ∃ rows, afterRepeated = ⟨[firstLine], rows, [lostRequest]⟩ := by
  have processed : enqueueRows ⟨id⟩ repeatedSweep.host (repeatedSweep.input [firstLine]) lostRows =
      (insertReceiver ⟨id⟩ lostSweep.host (lostSweep.input [firstLine]) ⟨firstLine, ["a"], []⟩
        lostRows "群", .queued []) :=
    lostSweep_queued lostRows
  rw [afterRepeated, afterLost_eq,
    Sweep.run_of_news repeatedSweep_news (List.cons_ne_nil _ _) (sweepOf_addressed _ _ _),
    Sweep.request_answered ⟨[], lostRows, [lostRequest]⟩ processed rfl]
  exact ⟨_, rfl⟩

def lostId : String :=
  Digests.wechatId ⟨id⟩ (lostSweep.input [firstLine]) "群" ⟨firstLine, ["a"], []⟩

def widerId : String :=
  Digests.wechatId ⟨id⟩ (widerSweep.input [firstLine, secondLine]) "群" bothLines

/-- The rows under these ids. -/
def lostRow : WechatRow :=
  newWechat (lostSweep.input [firstLine]) "群" ⟨firstLine, ["a"], []⟩ lostSweep.host.expiresAt
    lostSweep.host.begun

def widerRow : WechatRow :=
  newWechat (widerSweep.input [firstLine, secondLine]) "群" bothLines widerSweep.host.expiresAt
    widerSweep.host.begun

/-- Two rows with the first line. -/
theorem sweeps_rows :
    lostId ≠ widerId ∧ firstLine ∈ splitLines lostRow.message ∧
      firstLine ∈ splitLines widerRow.message := by
  decide +kernel

/-- The line of the first court is free throughout and is queued twice. -/
theorem lostAnswer_repeats :
    (∀ sweep ∈ lostAnswer, firstLine ∈ sweep.lines) ∧
      ¬(lostAnswer.foldl (Sweep.run ⟨id⟩) (Watch.start [])).rows.Single := by
  have sweeps : lostAnswer = [lostSweep, widerSweep] := rfl
  constructor
  · intro sweep member
    rw [sweeps] at member
    rcases List.mem_cons.mp member with rfl | member
    · rw [sweeps_lines.1.1]
      exact List.mem_singleton_self _
    · rw [List.mem_singleton.mp member, sweeps_lines.1.2]
      exact List.mem_cons_self
  · intro single
    have news : widerSweep.news ⟨[], lostRows, [lostRequest]⟩ = [firstLine, secondLine] := by
      rw [Sweep.news, sweeps_lines.1.2]
      rfl
    have processed := widerSweep_queued lostRows
    rw [sweeps, List.foldl_cons, List.foldl_cons, List.foldl_nil, ← afterLost, afterLost_eq,
      Sweep.run_of_news news (List.cons_ne_nil _ _) (sweepOf_addressed _ _ _),
      Sweep.request_answered ⟨[], lostRows, [lostRequest]⟩ processed rfl] at single
    dsimp only at single
    rw [← widerRows] at single
    obtain ⟨apart, member, member'⟩ := sweeps_rows
    have kept : widerRows lostId = some lostRow := by
      rw [widerRows, insertReceiver, ← widerId, WechatRows.insert_of_ne apart, lostRows,
        insertReceiver, ← lostId, WechatRows.insert_self rfl, lostRow]
    have absent : lostRows widerId = none := by
      rw [lostRows, insertReceiver, ← lostId, WechatRows.insert_of_ne apart.symm]
    have queued : widerRows widerId = some widerRow := by
      rw [widerRows, insertReceiver, ← widerId, WechatRows.insert_self absent, widerRow]
    have receiver : lostRow.receiver = widerRow.receiver := by
      rw [lostRow, widerRow, newWechat, newWechat]
    exact apart
      (single lostId lostRow widerId widerRow firstLine kept queued receiver member member')

theorem lostSweep_repeats : lostSweep.Repeats (Watch.start []) where
  plain := @sweepOf_plain ["1号场"] _ (by decide)
  short := by
    rw [Sweep.news, sweeps_lines.1.1]
    decide
  repeated _ _ known := absurd known List.not_mem_nil

theorem repeatedSweep_repeats : repeatedSweep.Repeats afterLost where
  plain := @sweepOf_plain ["1号场"] _ (by decide)
  short := by
    rw [afterLost_eq, repeatedSweep_news]
    decide
  repeated := by
    intro _ earlier known line _ _ _ _
    rw [afterLost_eq] at known ⊢
    rw [List.mem_singleton.mp known, repeatedSweep_news]
    exact ⟨rfl, rfl, fun _ => Iff.rfl, fun _ _ => rfl⟩

theorem widerSweep_repeats : widerSweep.Repeats afterRepeated where
  plain := @sweepOf_plain ["1号场", "2号场"] _ (by decide)
  short := by
    obtain ⟨rows, found⟩ := afterRepeated_eq
    have few : [firstLine].length + [firstLine, secondLine].length ≤ 100 := by decide
    rw [found, sweeps_lines.2.1, Sweep.news, sweeps_lines.1.2, List.length_append]
    exact le_trans (Nat.add_le_add_left (List.length_filter_le _ _) _) few
  repeated := by
    obtain ⟨rows, found⟩ := afterRepeated_eq
    intro _ earlier known line inside new _ _
    rw [found] at known new
    rw [List.mem_singleton.mp known] at inside
    rw [List.mem_singleton.mp inside, mem_news, sweeps_lines.2.1] at new
    exact absurd (List.mem_singleton_self _) new.2

/-- A lost request that is repeated as it was queues nothing twice. -/
theorem repeatedSweep_single :
    ([lostSweep, repeatedSweep, widerSweep].foldl (Sweep.run ⟨id⟩) (Watch.start [])).rows.Single :=
  single_of_allRepeat ⟨id⟩ [] [lostSweep, repeatedSweep, widerSweep]
    ⟨lostSweep_repeats, repeatedSweep_repeats, widerSweep_repeats, trivial⟩

end TennisAlerts.Watchers
