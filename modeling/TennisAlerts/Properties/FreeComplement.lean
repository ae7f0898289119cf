import TennisAlerts.Watchers.Crland

/-!
# Free ranges of CRLand courts

The free ranges of a court are computed as what its booked cells leave of the opening
hours.  Here is when they are exactly that, and when no cell that cannot be reserved is
announced as free.
-/

namespace TennisAlerts.Watchers

open TennisAlerts.HostCore TennisAlerts.Intervals TennisAlerts.Tables

/-! ## The complement -/

/-- The free ranges are what is left of the opening hours exactly when the hours are not
empty where nothing is booked, and every minute from their end to a booked range is booked. -/
theorem findAvailableSlots_complement_iff {booked : List (Nat × Nat)} {opening : Nat × Nat}
    (ordered : opening.1 ≤ opening.2) (filled : ∀ range ∈ booked, range.1 < range.2) :
    Complement opening.1 opening.2 booked (findAvailableSlots booked opening) ↔
      (booked = [] → opening.1 < opening.2) ∧ Bridged opening.2 booked := by
  unfold findAvailableSlots
  split
  · rename_i empty
    subst empty
    have bridged : Bridged opening.2 ([] : List (Nat × Nat)) :=
      fun _ member => absurd member List.not_mem_nil
    have nothing (minute : Nat) : ¬Inside ([] : List (Nat × Nat)) minute :=
      fun ⟨_, member, _⟩ => List.not_mem_nil member
    rw [and_iff_left bridged, imp_iff_right rfl]
    constructor
    · exact fun complement => complement.canonical.filled opening List.mem_cons_self
    · intro ahead
      refine ⟨⟨fun range member => ?_, .singleton _⟩, fun range member => ?_, fun minute => ?_⟩
      · rwa [List.mem_singleton.mp member]
      · rw [List.mem_singleton.mp member]
        exact ⟨le_refl _, le_refl _⟩
      · rw [inside_cons]
        simp only [nothing, or_false, not_false_eq_true, and_true]
  · rename_i some
    rw [complement_gaps_iff ordered filled, and_iff_right fun empty => absurd empty some]

theorem findAvailableSlots_complement_evening :
    Complement 540 1260 [(1200, 1320)] (findAvailableSlots [(1200, 1320)] (540, 1260)) := by
  refine (@findAvailableSlots_complement_iff [(1200, 1320)] (540, 1260) (by decide)
    (by decide)).mpr ⟨fun empty => (nomatch empty), ?_⟩
  intro range member point after before
  rw [List.mem_singleton.mp member] at before
  dsimp only at after before
  omega

/-- A range that is booked behind the opening hours lengthens the last free one. -/
theorem lateBooking_overruns :
    ¬Complement 540 1260 [(1290, 1350)] (findAvailableSlots [(1290, 1350)] (540, 1260)) := by
  intro complement
  have kept : (540, 1290) ∈ findAvailableSlots [(1290, 1350)] (540, 1260) := by decide
  exact absurd (complement.within _ kept).2 (by decide)

/-! ## Booked courts -/

/-- A cell that cannot be reserved, of a court of the name. -/
def Taken (names : List (Value × String)) (result : MatrixResult) (name : String)
    (cell : MatrixCell) : Prop :=
  ∃ row ∈ result.matrix, rowName names row = some name ∧ cell ∈ row.matrix ∧
    cell.isAbleReserve = false

/-- The minute lies in a cell of the name whose two times can be read. -/
def Readable (names : List (Value × String)) (result : MatrixResult) (name : String)
    (minute : Nat) : Prop :=
  ∃ cell start finish, Taken names result name cell ∧ cellMinute cell.startTime = some start ∧
    cellMinute cell.endTime = some finish ∧ start ≤ minute ∧ minute < finish

variable {names : List (Value × String)} {result : MatrixResult}

theorem bookedSlot_eq_some_iff {cell : MatrixCell} {range : Nat × Nat} :
    bookedSlot cell = some range ↔ cell.isAbleReserve = false ∧
      cellMinute cell.startTime = some range.1 ∧ cellMinute cell.endTime = some range.2 := by
  unfold bookedSlot
  cases cell.isAbleReserve with
  | true => simp
  | false =>
      cases cellMinute cell.startTime with
      | none => simp
      | some start =>
          cases cellMinute cell.endTime with
          | none => simp
          | some finish => simp [Prod.ext_iff, eq_comm]

/-- Every named row has its court, with the ranges of all rows of its name. -/
theorem gathers_bookedCourtInfos (names : List (Value × String)) (result : MatrixResult) :
    Gathers (fun name => ∃ row ∈ result.matrix, rowName names row = some name)
      (fun name range => ∃ cell, Taken names result name cell ∧ bookedSlot cell = some range)
      (bookedCourtInfos names result) := by
  refine (gathers_gather (bookedRow names) result.matrix).congr (fun name => ?_)
    fun name range => ?_
  · refine exists_congr fun row => and_congr_right fun _ => ?_
    simp only [bookedRow, Option.map_eq_some_iff, Prod.mk.injEq]
    exact ⟨fun ⟨_, _, found, same, _⟩ => same ▸ found, fun found => ⟨_, name, found, rfl, rfl⟩⟩
  · simp only [bookedRow, Option.map_eq_some_iff, Prod.mk.injEq]
    constructor
    · rintro ⟨row, member, _, ⟨_, found, rfl, rfl⟩, inside⟩
      obtain ⟨cell, listed, read⟩ := List.mem_filterMap.mp inside
      exact ⟨cell, ⟨row, member, found, listed, (bookedSlot_eq_some_iff.mp read).1⟩, read⟩
    · rintro ⟨cell, ⟨row, member, found, listed, -⟩, read⟩
      exact ⟨row, member, _, ⟨name, found, rfl, rfl⟩, List.mem_filterMap.mpr ⟨cell, listed, read⟩⟩

/-- The booked minutes of a court are those of its readable cells. -/
theorem inside_booked_iff {court : String × List (Nat × Nat)}
    (member : court ∈ bookedCourtInfos names result) {minute : Nat} :
    Inside court.2 minute ↔ Readable names result court.1 minute := by
  have items := (gathers_bookedCourtInfos names result).items court member
  constructor
  · rintro ⟨range, inside, after, before⟩
    obtain ⟨cell, taken, read⟩ := (items range).mp inside
    obtain ⟨-, start, finish⟩ := bookedSlot_eq_some_iff.mp read
    exact ⟨cell, range.1, range.2, taken, start, finish, after, before⟩
  · rintro ⟨cell, start, finish, taken, first, last, after, before⟩
    obtain ⟨row, -, -, -, free⟩ := id taken
    refine ⟨(start, finish), (items _).mpr ⟨cell, taken, ?_⟩, after, before⟩
    exact bookedSlot_eq_some_iff.mpr ⟨free, first, last⟩

/-- Within the opening hours the free minutes are those that are not booked. -/
theorem inside_findAvailableSlots {booked : List (Nat × Nat)} {opening : Nat × Nat} {minute : Nat}
    (after : opening.1 ≤ minute) (before : minute < opening.2) :
    Inside (findAvailableSlots booked opening) minute ↔ ¬Inside booked minute := by
  unfold findAvailableSlots
  split
  · rename_i empty
    subst empty
    exact ⟨fun _ ⟨_, member, _⟩ => List.not_mem_nil member,
      fun _ => ⟨opening, List.mem_cons_self, after, before⟩⟩
  · rw [inside_gaps]
    exact ⟨fun kept => kept.2.1, fun outside => ⟨after, outside, .inl before⟩⟩

/-! ## Published courts -/

variable {courtNamePrefix : String} {opening : Nat × Nat}
  {published : List (String × List (Nat × Nat))}

theorem published_eq (listed : venueNameInfos courtNamePrefix result = .ok names)
    (found : freeCourtInfos courtNamePrefix opening result = .ok published) :
    published = (bookedCourtInfos names result).filterMap fun court =>
      if findAvailableSlots court.2 opening = [] then none
      else some (court.1, findAvailableSlots court.2 opening) := by
  unfold freeCourtInfos at found
  rw [listed] at found
  simp only [bind, Except.bind] at found
  split at found
  · exact (Except.ok.inj found).symm
  · exact nomatch found

/-- No cell that cannot be reserved and that starts in the opening hours is published as free. -/
def NeverFree (names : List (Value × String)) (opening : Nat × Nat) (result : MatrixResult)
    (published : List (String × List (Nat × Nat))) : Prop :=
  ∀ name cell minute, Taken names result name cell → cellMinute cell.startTime = some minute →
    opening.1 ≤ minute → minute < opening.2 →
      ∀ court ∈ published, court.1 = name → ¬Inside court.2 minute

/-- No such cell is published as free exactly when each of them starts in a cell of a court
of its name, perhaps itself, whose two times can be read. -/
theorem neverFree_iff (listed : venueNameInfos courtNamePrefix result = .ok names)
    (found : freeCourtInfos courtNamePrefix opening result = .ok published) :
    NeverFree names opening result published ↔
      ∀ name cell minute, Taken names result name cell → cellMinute cell.startTime = some minute →
        opening.1 ≤ minute → minute < opening.2 → Readable names result name minute := by
  have built := published_eq listed found
  constructor
  · intro safe name cell minute taken start after before
    by_contra unread
    obtain ⟨row, member, named, -⟩ := id taken
    obtain ⟨court, inside, rfl⟩ := List.mem_map.mp
      (((gathers_bookedCourtInfos names result).keys name).mpr ⟨row, member, named⟩)
    have free : Inside (findAvailableSlots court.2 opening) minute :=
      (inside_findAvailableSlots after before).mpr (mt (inside_booked_iff inside).mp unread)
    have some : findAvailableSlots court.2 opening ≠ [] := by
      rintro empty
      rw [empty] at free
      obtain ⟨_, none, -⟩ := free
      exact List.not_mem_nil none
    refine safe court.1 cell minute taken start after before
      (court.1, findAvailableSlots court.2 opening) ?_ rfl free
    rw [built]
    exact List.mem_filterMap.mpr ⟨court, inside, if_neg some⟩
  · intro read name cell minute taken start after before court member named free
    rw [built] at member
    obtain ⟨court', inside, kept⟩ := List.mem_filterMap.mp member
    split at kept
    · exact nomatch kept
    · cases kept
      refine (inside_findAvailableSlots after before).mp free ((inside_booked_iff inside).mpr ?_)
      exact named ▸ read name cell minute taken start after before

/-- One court with one cell that cannot be reserved. -/
def evening (endTime : String) : MatrixResult :=
  ⟨[(.text "a", .text "1号场")], [⟨.text "a", [⟨false, .text "20:00", .text endTime⟩]⟩]⟩

theorem neverFree_evening :
    NeverFree [(.text "a", "1号场")] (540, 1260) (evening "21:00")
      [("1号场", [(540, 1200)])] := by
  refine (@neverFree_iff _ (evening "21:00") "" (540, 1260) _ (by decide)
    (by decide)).mpr ?_
  rintro name cell minute ⟨row, member, named, inside, free⟩ start after before
  cases List.mem_singleton.mp member
  cases List.mem_singleton.mp inside
  have twenty : cellMinute (.text "20:00") = some 1200 := by decide
  cases twenty.symm.trans start
  exact ⟨_, 1200, 1260, ⟨_, member, named, inside, free⟩, twenty, by decide, by decide, by decide⟩

/-- A cell without an end is published as free. -/
theorem endlessCell_free :
    venueNameInfos "" (evening "") = .ok [(.text "a", "1号场")] ∧
      ∃ published, freeCourtInfos "" (540, 1260) (evening "") = .ok published ∧
        ¬NeverFree [(.text "a", "1号场")] (540, 1260) (evening "") published := by
  refine ⟨by decide, [("1号场", [(540, 1260)])], by decide, fun safe => ?_⟩
  refine safe "1号场" ⟨false, .text "20:00", .text ""⟩ 1200
    ⟨_, List.mem_cons_self, by decide, List.mem_cons_self, rfl⟩ (by decide) (by decide)
    (by decide) _ List.mem_cons_self rfl ?_
  exact ⟨(540, 1260), List.mem_cons_self, by decide, by decide⟩

end TennisAlerts.Watchers
