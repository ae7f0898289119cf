import TennisAlerts.Properties.PreparedMessages

/-!
# The order of the rows

The query for the slots of a venue has no order.  Which lines are retained does not depend
on the order of the rows, but which keys are used does, when slots that start together
reach the end of a line.
-/

namespace TennisAlerts.HostCore

open TennisAlerts.Intervals
open TennisAlerts.Watchers (mem_sortedSet sortedSet_congr HostView Reply WechatRows enqueueRows
  insertReceiver)

/-! ## Which slots a line uses -/

/-- The slot overlaps the line, and every slot that reaches its end starts later. -/
def Line.Forced (line : Line) (slots : List CurrentSlot) (slot : CurrentSlot) : Prop :=
  line.Meets slot ∧ ∀ other ∈ slots, line.Meets other → line.goal ≤ other.endTime →
    slot.startTime < other.startTime

/-- The slot overlaps the line, and starts together with the first ones that reach its end. -/
def Line.Tied (line : Line) (slots : List CurrentSlot) (slot : CurrentSlot) : Prop :=
  line.Meets slot ∧
    (∃ other ∈ slots, line.Meets other ∧ line.goal ≤ other.endTime ∧
      other.startTime = slot.startTime) ∧
    ∀ other ∈ slots, line.Meets other → line.goal ≤ other.endTime →
      slot.startTime ≤ other.startTime

/-- The slot reaches the end of the line, and every other one that does starts later. -/
def Line.Sole (line : Line) (slots : List CurrentSlot) (slot : CurrentSlot) : Prop :=
  line.Meets slot ∧ line.goal ≤ slot.endTime ∧
    ∀ other ∈ slots, line.Meets other → line.goal ≤ other.endTime →
      other = slot ∨ slot.startTime < other.startTime

theorem meeting_alive (line : Line) (slots : List CurrentSlot) :
    ∀ slot ∈ line.meeting slots, line.start < slot.endTime :=
  fun _ member => (mem_meeting.mp member).2.2.2

section

variable {line : Line} {slots : List CurrentSlot} {slot : CurrentSlot}

theorem forced_iff : line.Forced slots slot ↔ line.Meets slot ∧
    Early CurrentSlot.startTime CurrentSlot.endTime line.goal (line.meeting slots) slot := by
  simp only [Line.Forced, Early, mem_meeting, and_imp]

theorem tied_iff : line.Tied slots slot ↔ line.Meets slot ∧
    Tied CurrentSlot.startTime CurrentSlot.endTime line.goal (line.meeting slots) slot := by
  simp only [Line.Tied, Tied, mem_meeting, and_imp, and_assoc]

theorem sole_iff : line.Sole slots slot ↔ line.Meets slot ∧
    Sole CurrentSlot.startTime CurrentSlot.endTime line.goal (line.meeting slots) slot := by
  simp only [Line.Sole, Sole, mem_meeting, and_imp]

variable (covered : line.Covered slots) (meets : ∃ slot ∈ slots, line.Meets slot)

include covered in
theorem swept_arrived : line.goal ≤ (line.swept slots).1 :=
  not_lt.mp (mt (swept_lt_iff line slots).mp (not_not.mpr covered))

include covered meets

theorem swept_cases (used : slot ∈ (line.swept slots).2) :
    line.Forced slots slot ∨ line.Tied slots slot := by
  have overlaps : line.Meets slot := (mem_candidates.mp ((run_initial _ _).subset used)).2
  rw [forced_iff, tied_iff, and_iff_right overlaps, and_iff_right overlaps]
  exact used_cases (meeting_alive line slots) (swept_arrived covered)
    ((swept_nonempty_iff covered).mpr meets) used

theorem swept_of_forced (member : slot ∈ slots) (forced : line.Forced slots slot) :
    slot ∈ (line.swept slots).2 :=
  used_of_early (meeting_alive line slots) (swept_arrived covered)
    ((swept_nonempty_iff covered).mpr meets) (mem_meeting.mpr ⟨member, forced.1⟩)
    (forced_iff.mp forced).2

theorem swept_of_sole (member : slot ∈ slots) (sole : line.Sole slots slot) :
    slot ∈ (line.swept slots).2 :=
  used_of_sole (meeting_alive line slots) (swept_arrived covered)
    ((swept_nonempty_iff covered).mpr meets) (mem_meeting.mpr ⟨member, sole.1⟩)
    (sole_iff.mp sole).2

end

/-- A tied slot in the first row is used. -/
theorem swept_of_tied {line : Line} {slots : List CurrentSlot} {slot : CurrentSlot}
    (covered : line.Covered (slot :: slots)) (tied : line.Tied (slot :: slots) slot) :
    slot ∈ (line.swept (slot :: slots)).2 := by
  have meets : ∃ other ∈ slot :: slots, line.Meets other := ⟨slot, List.mem_cons_self, tied.1⟩
  have front : line.meeting (slot :: slots) = slot :: line.meeting slots := by
    have kept : slot ∈ line.meeting [slot] := mem_meeting.mpr ⟨List.mem_cons_self, tied.1⟩
    rw [Line.meeting, List.mem_filter] at kept
    rw [Line.meeting, List.filter_cons, if_pos kept.2]
    rfl
  have alive := meeting_alive line (slot :: slots)
  have arrived := swept_arrived covered
  have needed := (swept_nonempty_iff covered).mpr meets
  have tied' := (tied_iff.mp tied).2
  rw [Line.swept, candidates_eq] at arrived needed ⊢
  rw [front] at alive arrived needed tied' ⊢
  exact used_of_tied alive arrived needed tied'

/-- A used slot in the last row is forced, or the sole one. -/
theorem sole_of_swept {line : Line} {slots : List CurrentSlot} {slot : CurrentSlot}
    (covered : line.Covered (slots ++ [slot])) (distinct : (slots ++ [slot]).Nodup)
    (used : slot ∈ (line.swept (slots ++ [slot])).2) :
    line.Forced (slots ++ [slot]) slot ∨ line.Sole (slots ++ [slot]) slot := by
  have overlaps : line.Meets slot := (mem_candidates.mp ((run_initial _ _).subset used)).2
  have meets : ∃ other ∈ slots ++ [slot], line.Meets other :=
    ⟨slot, List.mem_append_right _ (List.mem_singleton_self slot), overlaps⟩
  have back : line.meeting (slots ++ [slot]) = line.meeting slots ++ [slot] := by
    have kept : slot ∈ line.meeting [slot] := mem_meeting.mpr ⟨List.mem_cons_self, overlaps⟩
    rw [Line.meeting, List.mem_filter] at kept
    rw [Line.meeting, List.filter_append, List.filter_cons, if_pos kept.2]
    rfl
  have alive := meeting_alive line (slots ++ [slot])
  have arrived := swept_arrived covered
  have needed := (swept_nonempty_iff covered).mpr meets
  have single : (line.meeting (slots ++ [slot])).Nodup := distinct.filter _
  rw [forced_iff, sole_iff, and_iff_right overlaps, and_iff_right overlaps]
  rw [Line.swept, candidates_eq] at arrived needed used
  rw [back] at alive arrived needed single used ⊢
  exact Classical.or_iff_not_imp_left.mpr fun late =>
    sole_of_used alive arrived needed single used late

/-! ## The keys of a message -/

/-- The line stands in the message and is vouched for. -/
def Stands (message : String) (slots : List CurrentSlot) (line : Line) : Prop :=
  ∃ text ∈ splitLines message, parseLine (strip text).toList = some line ∧ line.WellFormed ∧
    line.Covered slots ∧ ∃ slot ∈ slots, line.Meets slot

/-- The keys of a message are those of the slots that its lines use. -/
theorem mem_keys {message key : String} {slots : List CurrentSlot} :
    key ∈ (preparedMessage message slots).keys ↔
      ∃ line, Stands message slots line ∧ ∃ slot ∈ (line.swept slots).2, slot.eventKey = key := by
  have found {text : String} (member : text ∈ splitLines message) {line : Line}
      (parsed : parseLine (strip text).toList = some line) (wellFormed : line.WellFormed)
      (covered : line.Covered slots) (meets : ∃ slot ∈ slots, line.Meets slot) :
      keysOf slots (strip text) = sortedSet ((line.swept slots).2.map (·.eventKey)) := by
    have whole := whole_of_wellFormed member ⟨line, parsed, wellFormed⟩
    rw [keysOf, coveredEvents_of_covered whole ((strip_strip text).symm ▸ parsed) wellFormed slots
      covered, if_neg ((swept_nonempty_iff covered).mpr meets)]
  rw [preparedMessage, mem_sortedSet, List.mem_flatMap]
  constructor
  · rintro ⟨_, known, used⟩
    obtain ⟨text, member, rfl⟩ := mem_strippedLines.mp known
    have accepted : Watchers.Covered slots (strip text) := by
      unfold keysOf at used
      split at used
      · rename_i keys result
        exact ⟨keys, result⟩
      · exact absurd used List.not_mem_nil
    obtain ⟨line, parsed, wellFormed, covered, meets⟩ :=
      (covered_iff_vouched member slots).mp accepted
    rw [found member parsed wellFormed covered meets, mem_sortedSet, List.mem_map] at used
    exact ⟨line, ⟨text, member, parsed, wellFormed, covered, meets⟩, used⟩
  · rintro ⟨line, ⟨text, member, parsed, wellFormed, covered, meets⟩, used⟩
    refine ⟨strip text, mem_strippedLines.mpr ⟨text, member, rfl⟩, ?_⟩
    rw [found member parsed wellFormed covered meets, mem_sortedSet, List.mem_map]
    exact used

/-! ## Rows in another order -/

section

variable {slots slots' : List CurrentSlot} (same : ∀ slot, slot ∈ slots' ↔ slot ∈ slots)
include same

theorem sound_congr {message : String} : Sound message slots' ↔ Sound message slots := by
  simp only [sound_iff, MidnightMet, same]

theorem stands_congr {message : String} {line : Line} :
    Stands message slots' line ↔ Stands message slots line := by
  simp only [Stands, Line.Covered, same]

theorem forced_congr {line : Line} {slot : CurrentSlot} :
    line.Forced slots' slot ↔ line.Forced slots slot := by
  simp only [Line.Forced, same]

theorem tied_congr {line : Line} {slot : CurrentSlot} :
    line.Tied slots' slot ↔ line.Tied slots slot := by
  simp only [Line.Tied, same]

theorem sole_congr {line : Line} {slot : CurrentSlot} :
    line.Sole slots' slot ↔ line.Sole slots slot := by
  simp only [Line.Sole, same]

/-- Rows in another order retain the same lines. -/
theorem prepared_congr {message : String}
    (keys : (preparedMessage message slots').keys = (preparedMessage message slots).keys) :
    preparedMessage message slots' = preparedMessage message slots := by
  have retained : ∀ line ∈ strippedLines message, retains slots' line = retains slots line := by
    intro line known
    obtain ⟨text, member, rfl⟩ := mem_strippedLines.mp known
    rw [Bool.eq_iff_iff, retains_iff, retains_iff, covered_iff_vouched member,
      covered_iff_vouched member]
    simp only [Vouched, Line.Covered, same]
  have lines : (strippedLines message).filter (retains slots') =
      (strippedLines message).filter (retains slots) :=
    List.filter_congr retained
  have others : ((strippedLines message).filter fun line => !retains slots' line) =
      (strippedLines message).filter fun line => !retains slots line :=
    List.filter_congr fun line known => by rw [retained line known]
  unfold preparedMessage at keys ⊢
  rw [lines, others, CurrentMessage.mk.injEq]
  exact ⟨rfl, keys, rfl⟩

end

/-- In a message that is prepared, a slot that starts together with the first ones that reach
the end of a line is used by some line whatever the order. -/
def TiesSettled (message : String) (slots : List CurrentSlot) : Prop :=
  (∀ text ∈ splitLines message, WellFormedText (strip text)) → MidnightMet message slots →
    ∀ line, Stands message slots line → ∀ slot ∈ slots, line.Tied slots slot →
      ∃ other, Stands message slots other ∧ (other.Forced slots slot ∨ other.Sole slots slot)

theorem settled_congr {message : String} {slots slots' : List CurrentSlot}
    (same : ∀ slot, slot ∈ slots' ↔ slot ∈ slots) :
    TiesSettled message slots' ↔ TiesSettled message slots := by
  simp only [TiesSettled, MidnightMet, stands_congr same, forced_congr same, tied_congr same,
    sole_congr same, same]

/-- When ties are settled, keys are used whatever the order. -/
theorem keys_subset {message : String} {slots slots' : List CurrentSlot}
    (same : ∀ slot, slot ∈ slots' ↔ slot ∈ slots) (sound : Sound message slots)
    (settled : TiesSettled message slots) {key : String}
    (used : key ∈ (preparedMessage message slots').keys) :
    key ∈ (preparedMessage message slots).keys := by
  obtain ⟨line, stands', slot, taken, rfl⟩ := mem_keys.mp used
  have stands := (stands_congr same).mp stands'
  have member : slot ∈ slots :=
    (same slot).mp (mem_candidates.mp ((run_initial _ _).subset taken)).1
  obtain ⟨text, -, -, -, covered', meets'⟩ := stands'
  rcases swept_cases covered' meets' taken with forced | tied
  · have known := stands
    obtain ⟨text, -, -, -, covered, meets⟩ := known
    exact mem_keys.mpr ⟨line, stands, slot,
      swept_of_forced covered meets member ((forced_congr same).mp forced), rfl⟩
  · obtain ⟨wellFormed, met⟩ := sound_iff.mp sound
    obtain ⟨other, stands, settled⟩ :=
      settled wellFormed met line stands slot member ((tied_congr same).mp tied)
    have known := stands
    obtain ⟨text, -, -, -, covered, meets⟩ := known
    refine mem_keys.mpr ⟨other, stands, slot, ?_, rfl⟩
    exact settled.elim (swept_of_forced covered meets member) (swept_of_sole covered meets member)

theorem prepared_eq_of_settled {message : String} {slots slots' : List CurrentSlot}
    (same : ∀ slot, slot ∈ slots' ↔ slot ∈ slots) (sound : Sound message slots)
    (settled : TiesSettled message slots) :
    preparedMessage message slots' = preparedMessage message slots := by
  refine prepared_congr same ?_
  have keys : ∀ key, key ∈ (preparedMessage message slots').keys ↔
      key ∈ (preparedMessage message slots).keys := fun key =>
    ⟨keys_subset same sound settled, keys_subset (fun slot => (same slot).symm)
      ((sound_congr same).mpr sound) ((settled_congr same).mpr settled)⟩
  simp only [preparedMessage, mem_sortedSet] at keys ⊢
  exact sortedSet_congr keys

/-! ## Enqueued rows -/

theorem insert_isSome {rows : WechatRows} {id key : String} {row : WechatRow}
    (present : (rows key).isSome) : (rows.insert id row key).isSome := by
  unfold WechatRows.insert
  split
  · exact present
  · by_cases equal : key = id
    · rw [equal, Function.update_self]
      rfl
    · rwa [Function.update_of_ne equal]

section

variable {digests : Digests} {host host' : HostView} {input : EnqueueInput}
  {current : CurrentMessage} {receivers : List String} {rows : WechatRows}

theorem insertReceivers_isSome {key : String} (present : (rows key).isSome) :
    (receivers.foldl (insertReceiver digests host input current) rows key).isSome := by
  induction receivers generalizing rows with
  | nil => exact present
  | cons receiver receivers ih => exact ih (insert_isSome present)

/-- Afterwards every receiver has a row. -/
theorem insertReceivers_present {receiver : String} (member : receiver ∈ receivers) :
    (receivers.foldl (insertReceiver digests host input current) rows
      (digests.wechatId input receiver current)).isSome := by
  induction receivers generalizing rows with
  | nil => exact absurd member List.not_mem_nil
  | cons head receivers ih =>
      rcases List.mem_cons.mp member with rfl | member
      · rw [List.foldl_cons]
        refine insertReceivers_isSome ?_
        unfold insertReceiver WechatRows.insert
        split
        · assumption
        · rw [Function.update_self]
          rfl
      · exact ih member

/-- No row is inserted for receivers that have one. -/
theorem insertReceivers_of_present
    (present : ∀ receiver ∈ receivers, (rows (digests.wechatId input receiver current)).isSome) :
    receivers.foldl (insertReceiver digests host input current) rows = rows := by
  induction receivers with
  | nil => rfl
  | cons receiver receivers ih =>
      have kept : insertReceiver digests host input current rows receiver = rows :=
        if_pos (present receiver List.mem_cons_self)
      rw [List.foldl_cons, kept]
      exact ih fun other member => present other (List.mem_cons_of_mem receiver member)

/-- A queued request that is repeated with the same current message inserts nothing. -/
theorem enqueueRows_retry {rejected : List String}
    (same : currentMessage input.message host'.slots = currentMessage input.message host.slots)
    (queued : (enqueueRows digests host input rows).2 = .queued rejected) :
    (enqueueRows digests host' input (enqueueRows digests host input rows).1).1 =
      (enqueueRows digests host input rows).1 := by
  unfold enqueueRows at queued ⊢
  rw [same]
  split at queued
  · rename_i valid
    split at queued
    · rename_i subscribed
      split at queued
      · exact nomatch queued
      · rename_i current prepared
        split at queued
        · exact nomatch queued
        · rename_i needed
          rw [if_pos valid, if_pos valid, if_pos subscribed]
          dsimp only
          rw [if_neg needed]
          split
          · exact insertReceivers_of_present fun receiver member => insertReceivers_present member
          · rfl
    · exact nomatch queued
  · exact nomatch queued

end

/-! ## The claim of the row id -/

/-- The current message, the row ids and the rows after a retry do not depend on the order
of the rows. -/
structure OrderFree (message : String) (slots : List CurrentSlot) : Prop where
  result : ∀ slots' : List CurrentSlot, slots'.Perm slots →
    currentMessage message slots' = currentMessage message slots
  ids : ∀ (slots' : List CurrentSlot) current current', slots'.Perm slots →
    currentMessage message slots = .ok current → currentMessage message slots' = .ok current' →
      ∀ (digests : Digests) input receiver,
        digests.wechatId input receiver current' = digests.wechatId input receiver current
  rows : ∀ digests (host host' : HostView) input rows rejected, input.message = message →
    host.slots = slots → host'.slots.Perm slots →
      (enqueueRows digests host input rows).2 = .queued rejected →
        (enqueueRows digests host' input (enqueueRows digests host input rows).1).1 =
          (enqueueRows digests host input rows).1

theorem OrderFree.of_result {message : String} {slots : List CurrentSlot}
    (result : ∀ slots' : List CurrentSlot, slots'.Perm slots →
      currentMessage message slots' = currentMessage message slots) : OrderFree message slots where
  result := result
  ids slots' current current' perm prepared prepared' digests input receiver := by
    have same := result slots' perm
    rw [prepared, prepared', Except.ok.injEq] at same
    rw [same]
  rows digests host host' input rows rejected text view perm queued := by
    refine enqueueRows_retry ?_ queued
    rw [text, view]
    exact result _ perm

/-- The order of rows with different keys does not matter exactly when ties are settled. -/
theorem orderFree_iff_tiesSettled {message : String} {slots : List CurrentSlot}
    (distinct : (slots.map (·.eventKey)).Nodup) :
    OrderFree message slots ↔ TiesSettled message slots := by
  constructor
  · intro free wellFormed met line stands slot member tied
    have sound := sound_iff.mpr ⟨wellFormed, met⟩
    have first : (slot :: slots.erase slot).Perm slots := (List.perm_cons_erase member).symm
    have last : (slots.erase slot ++ [slot]).Perm slots :=
      (List.perm_append_singleton slot _).trans first
    have prepared {slots' : List CurrentSlot} (perm : slots'.Perm slots) :
        preparedMessage message slots' = preparedMessage message slots := by
      have same := free.result slots' perm
      rw [currentMessage_eq sound,
        currentMessage_eq ((sound_congr fun _ => perm.mem_iff).mpr sound),
        Except.ok.injEq] at same
      exact same
    have known {slots' : List CurrentSlot} (perm : slots'.Perm slots) :
        ∀ other, other ∈ slots' ↔ other ∈ slots := fun _ => perm.mem_iff
    have used : slot.eventKey ∈ (preparedMessage message (slot :: slots.erase slot)).keys := by
      have stands' := (stands_congr (known first)).mpr stands
      have kept := stands'
      obtain ⟨text, -, -, -, covered, -⟩ := kept
      exact mem_keys.mpr ⟨line, stands', slot,
        swept_of_tied covered ((tied_congr (known first)).mpr tied), rfl⟩
    rw [prepared first, ← prepared last] at used
    obtain ⟨other, stands', slot', used, key⟩ := mem_keys.mp used
    have member' : slot' ∈ slots :=
      (known last slot').mp (mem_candidates.mp ((run_initial _ _).subset used)).1
    have equal : slot' = slot := List.inj_on_of_nodup_map distinct member' member key
    rw [equal] at used
    have single : (slots.erase slot ++ [slot]).Nodup := last.nodup_iff.mpr (distinct.of_map _)
    refine ⟨other, (stands_congr (known last)).mp stands', ?_⟩
    obtain ⟨text, -, -, -, covered, -⟩ := stands'
    rw [← forced_congr (known last), ← sole_congr (known last)]
    exact sole_of_swept covered single used
  · refine fun settled => OrderFree.of_result fun slots' perm => ?_
    have same : ∀ slot, slot ∈ slots' ↔ slot ∈ slots := fun _ => perm.mem_iff
    by_cases sound : Sound message slots
    · rw [currentMessage_eq sound, currentMessage_eq ((sound_congr same).mpr sound),
        prepared_eq_of_settled same sound settled]
    · rw [currentMessage_of_invalid sound,
        currentMessage_of_invalid (mt (sound_congr same).mp sound)]

theorem orderFree_iff_tiesSettled_evening :
    OrderFree eveningText eveningSlots ↔ TiesSettled eveningText eveningSlots :=
  orderFree_iff_tiesSettled (by decide)

/-- Two slots of one court that start together, the shorter one first. -/
def tiedSlots : List CurrentSlot :=
  [⟨"short", 20758, "1号场".toList, clock 1080, clock 1200⟩,
    ⟨"long", 20758, "1号场".toList, clock 1080, clock 1439⟩]

theorem tied_ordered : ¬OrderFree eveningText tiedSlots := by
  intro free
  have result : currentMessage eveningText tiedSlots =
      .ok ⟨eveningText, ["long", "short"], []⟩ := by decide +kernel
  have result' : currentMessage eveningText tiedSlots.reverse =
      .ok ⟨eveningText, ["long"], []⟩ := by decide +kernel
  have same := free.result tiedSlots.reverse (List.reverse_perm tiedSlots)
  rw [result, result', Except.ok.injEq, CurrentMessage.mk.injEq] at same
  exact absurd same.2.1 (by decide)

end TennisAlerts.HostCore
