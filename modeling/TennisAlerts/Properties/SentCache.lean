import TennisAlerts.Watchers.SentCache
import TennisAlerts.Concurrent.RelyGuarantee
import Mathlib.Data.List.Perm.Subperm
import Mathlib.Data.List.Count
import Mathlib.Data.List.FinRange

/-!
# The cache keeps what was announced

As long as every written value replaces the value that its task read, the cache holds
every announced line that was not released, and no released line.
-/

namespace TennisAlerts.Watchers

open TennisAlerts.HostCore TennisAlerts.Concurrent Protocol

/-- The next run announces no line again and withholds no released line. -/
def Shared.Kept (shared : Shared) : Prop :=
  (∀ line ∈ shared.announced, line ∉ shared.released → line ∈ shared.cache) ∧
    ∀ line ∈ shared.released, line ∉ shared.cache

/-! ## Lines of the days -/

/-- Court names without line boundaries. -/
def Availability.Plain (found : Availability) : Prop :=
  ∀ court ∈ found.data, ∀ character ∈ court.courtName.toList, lineBreak character = false

theorem Availability.of_mem_lines {found : Availability} {today : Int} {day : Fin 3} {line : String}
    (member : line ∈ found.lines today day) :
    ∃ court ∈ found.data, ∃ slot,
      line = notification (weekdayText found.weekday) (monthDay (today + day.val))
        court.courtName slot := by
  obtain ⟨court, known, inside⟩ := List.mem_flatMap.mp member
  obtain ⟨slot, -, rfl⟩ := List.mem_map.mp inside
  exact ⟨court, known, slot, rfl⟩

/-- Different days have different lines. -/
theorem lines_apart {found found' : Availability} {today : Int} {day day' : Fin 3}
    {line : String} (member : line ∈ found.lines today day)
    (member' : line ∈ found'.lines today day') : day = day' := by
  obtain ⟨court, -, slot, rfl⟩ := Availability.of_mem_lines member
  obtain ⟨court', -, slot', same⟩ := Availability.of_mem_lines member'
  have dates := date_of_notification (monthDay_length _) (monthDay_length _) same
  by_contra different
  rcases lt_or_gt_of_ne different with less | more
  · have gap : today + (day'.val : Int) = today + (day.val : Int) + (day'.val - day.val : Int) := by
      omega
    rw [gap] at dates
    exact monthDay_ne _ (by omega) (by omega) dates.symm
  · have gap : today + (day.val : Int) = today + (day'.val : Int) + (day.val - day'.val : Int) := by
      omega
    rw [gap] at dates
    exact monthDay_ne _ (by omega) (by omega) dates

theorem Availability.Plain.announceable {found : Availability} (plain : found.Plain)
    {today : Int} {day : Fin 3} {lines : List String} (own : lines ⊆ found.lines today day)
    {line : String} (member : line ∈ lines) : Announceable line := by
  obtain ⟨court, inside, slot, rfl⟩ := Availability.of_mem_lines (own member)
  exact notification_announceable _ _ (plain court inside) slot

theorem Availability.strip_line {found : Availability} {today : Int} {day : Fin 3}
    {line : String} (member : line ∈ found.lines today day) : strip line = line := by
  obtain ⟨court, -, slot, rfl⟩ := Availability.of_mem_lines member
  exact (notification_visible _ _ _ _).strip

/-! ## Invariant -/

section

variable (today : Int) (found : Fin 3 → Availability) (cache : List String)

/-- All lines that the cache can hold. -/
def totalLines : List String :=
  cache ++ (List.finRange 3).flatMap fun day => (found day).lines today day

structure Sound (shared : Shared) : Prop where
  kept : shared.Kept
  stripped : ∀ line ∈ shared.announced, strip line = line
  few : shared.cache.Subperm (totalLines today found cache)

/-- Other days leave the lines of a day as they are. -/
def dayProtocol : Protocol Shared (Fin 3) where
  invariant := Sound today found cache
  rely day before after := ∀ line ∈ (found day).lines today day,
    (line ∈ after.cache ↔ line ∈ before.cache) ∧ (line ∈ after.released ↔ line ∈ before.released)
  resting _ _ := True

end

section

variable {today : Int} {found : Fin 3 → Availability} {cache : List String} {day : Fin 3}

/-- No line of the day has been released. -/
def Fresh (today : Int) (found : Fin 3 → Availability) (day : Fin 3) (shared : Shared) : Prop :=
  ∀ line ∈ (found day).lines today day, line ∉ shared.released

theorem fresh_stable : (dayProtocol today found cache).Stable day (Fresh today found day) := by
  intro before after _ _ relied fresh line member
  rw [(relied line member).2]
  exact fresh line member

theorem cached_stable {lines : List String} (own : lines ⊆ (found day).lines today day) :
    (dayProtocol today found cache).Stable day fun shared =>
    ∀ line ∈ lines, line ∈ shared.cache := by
  intro before after _ _ relied cached line member
  rw [(relied line (own member)).1]
  exact cached line member

theorem absent_stable {lines : List String} (own : lines ⊆ (found day).lines today day) :
    (dayProtocol today found cache).Stable day fun shared =>
    ∀ line ∈ lines, line ∉ shared.cache := by
  intro before after _ _ relied absent line member
  rw [(relied line (own member)).1]
  exact absent line member

theorem true_stable : (dayProtocol today found cache).Stable day fun _ => True :=
  fun _ _ _ _ _ _ => trivial

/-- A task that touches its own lines only does what the others rely on. -/
theorem guarantees_of_own {before after : Shared} {lines : List String}
    (own : lines ⊆ (found day).lines today day)
    (cached : ∀ line ∉ lines, strip line = line → (line ∈ after.cache ↔ line ∈ before.cache))
    (released : ∀ line ∉ lines, line ∈ after.released ↔ line ∈ before.released) :
    (dayProtocol today found cache).Guarantees day before after := by
  intro other different line member
  have foreign : line ∉ lines := fun inside => different (lines_apart member (own inside))
  exact ⟨cached line foreign (Availability.strip_line member), released line foreign⟩

/-! ## Release -/

theorem valid_noteReleased {lines : List String} (own : lines ⊆ (found day).lines today day) :
    (dayProtocol today found cache).Valid replacesRead day
      (fun shared => ∀ line ∈ lines, line ∉ shared.cache) (noteReleased lines)
      fun _ _ => True := by
  refine valid_act (fun _ _ _ => True) (absent_stable own) ?_
    fun _ _ => valid_ret fun _ _ _ => trivial
  rintro before _ after sound absent - acted
  cases acted
  refine ⟨⟨⟨?_, ?_⟩, sound.stripped, sound.few⟩, guarantees_of_own own (fun _ _ _ => Iff.rfl) ?_,
    trivial⟩
  · intro line announced unreleased
    exact sound.kept.1 line announced fun released =>
      unreleased (List.mem_append_right lines released)
  · intro line released
    rcases List.mem_append.mp released with now | earlier
    · exact absent line now
    · exact sound.kept.2 line earlier
  · intro line foreign
    rw [List.mem_append, or_iff_right foreign]

theorem valid_setRetained (plain : (found day).Plain) {lines current : List String}
    (own : lines ⊆ (found day).lines today day) :
    (dayProtocol today found cache).Valid replacesRead day (fun _ => True)
      (setCache current (retain lines current) lines) fun _ _ => True := by
  refine valid_act (fun _ _ _ => True) true_stable ?_ fun _ _ => valid_ret fun _ _ _ => trivial
  rintro before _ after sound - (same : before.cache = current) acted
  cases acted
  subst same
  refine ⟨⟨⟨?_, ?_⟩, sound.stripped, ?_⟩, guarantees_of_own own ?_ ?_, trivial⟩
  · intro line announced unreleased
    have kept := sound.kept.1 line announced fun released =>
      unreleased (List.mem_append_right lines released)
    refine mem_retain.mpr ⟨kept, ?_⟩
    rw [sound.stripped line announced, mem_suppressedLines fun _ => plain.announceable own]
    exact fun inside => unreleased (List.mem_append_left _ inside)
  · intro line released inside
    obtain ⟨inside, stays⟩ := mem_retain.mp inside
    rcases List.mem_append.mp released with now | earlier
    · rw [Availability.strip_line (own now), mem_suppressedLines fun _ => plain.announceable own]
        at stays
      exact stays now
    · exact sound.kept.2 line earlier inside
  · exact (List.Sublist.subperm List.filter_sublist).trans sound.few
  · intro line foreign stripped
    rw [mem_retain, stripped, mem_suppressedLines fun _ => plain.announceable own]
    exact and_iff_left foreign
  · intro line foreign
    rw [List.mem_append, or_iff_right foreign]

/-- The lines of the message are gone from the cache, or are removed. -/
theorem valid_releaseDedupe (plain : (found day).Plain) {lines : List String}
    (own : lines ⊆ (found day).lines today day) :
    (dayProtocol today found cache).Valid replacesRead day (fun _ => True) (releaseDedupe lines)
      fun _ _ => True := by
  refine valid_act (fun before _ after => after = before) true_stable ?_ ?_
  · rintro before _ after sound - - acted
    cases acted
    exact ⟨sound, guarantees_of_own own (fun _ _ _ => Iff.rfl) fun _ _ => Iff.rfl, rfl⟩
  · intro before _
    change Protocol.Valid _ _ _ _ (if _ then _ else _) _
    split
    · rename_i unchanged
      refine (valid_noteReleased own).mono ?_ fun _ _ _ _ => trivial
      rintro _ - rfl line member inside
      rw [← unchanged] at inside
      obtain ⟨-, stays⟩ := mem_retain.mp inside
      rw [Availability.strip_line (own member), mem_suppressedLines fun _ => plain.announceable own]
        at stays
      exact stays member
    · exact (valid_setRetained plain own).mono (fun _ _ _ => trivial) fun _ _ _ _ => trivial

/-! ## Announcement -/

/-- A request announces lines of the cache; what it rejects is among them. -/
theorem valid_postEnqueue (plain : (found day).Plain) {lines : List String}
    (own : lines ⊆ (found day).lines today day) :
    (dayProtocol today found cache).Valid replacesRead day
      (fun shared => ∀ line ∈ lines, line ∈ shared.cache) (postEnqueue lines)
      fun answer _ => ∀ refused, answer = .rejected refused → refused ⊆ lines := by
  have announce {before : Shared} (sound : Sound today found cache before)
      (cached : ∀ line ∈ lines, line ∈ before.cache) :
      Sound today found cache { before with announced := lines ++ before.announced } ∧
        (dayProtocol today found cache).Guarantees day before
          { before with announced := lines ++ before.announced } := by
    refine ⟨⟨⟨?_, sound.kept.2⟩, ?_, sound.few⟩,
      guarantees_of_own own (fun _ _ _ => Iff.rfl) fun _ _ => Iff.rfl⟩
    · intro line announced unreleased
      rcases List.mem_append.mp announced with now | earlier
      · exact cached line now
      · exact sound.kept.1 line earlier unreleased
    · intro line announced
      rcases List.mem_append.mp announced with now | earlier
      · exact Availability.strip_line (own now)
      · exact sound.stripped line earlier
  refine valid_act
    (fun _ answer _ => ∀ refused, answer = .rejected refused → refused ⊆ lines)
    (cached_stable own) ?_ fun _ _ => valid_ret fun _ _ known => known
  rintro before answer after sound cached - acted
  cases answer with
  | noReceivers =>
      cases acted
      exact ⟨sound, guarantees_of_own own (fun _ _ _ => Iff.rfl) fun _ _ => Iff.rfl, nofun⟩
  | acknowledged | suppressed | failed =>
      cases acted
      exact ⟨(announce sound cached).1, (announce sound cached).2, nofun⟩
  | rejected refused =>
      change (if refused ⊆ (splitLines ("\n".intercalate lines)).map strip then some _ else none) =
        some after at acted
      rw [split_announceable fun _ => plain.announceable own,
        map_strip fun _ => plain.announceable own] at acted
      split at acted
      · rename_i known
        cases acted
        refine ⟨(announce sound cached).1, (announce sound cached).2, ?_⟩
        rintro _ ⟨⟩
        exact known
      · cases acted

theorem valid_sendBestEffort (plain : (found day).Plain) {lines : List String}
    (own : lines ⊆ (found day).lines today day) :
    (dayProtocol today found cache).Valid replacesRead day
      (fun shared => ∀ line ∈ lines, line ∈ shared.cache) (sendBestEffort lines)
      fun _ _ => True := by
  refine Valid.bind _ (valid_postEnqueue plain own) ?_
  intro answer
  cases answer with
  | noReceivers | acknowledged => exact valid_ret fun _ _ _ => trivial
  | suppressed | failed =>
      exact (valid_releaseDedupe plain own).mono (fun _ _ _ => trivial) fun _ _ _ _ => trivial
  | rejected refused =>
      intro shared sound known
      have within := known refused rfl
      change Protocol.Safe _ _ _ _ _ (if _ then _ else _)
      split
      · trivial
      · exact valid_releaseDedupe plain (List.Subset.trans within own) shared sound trivial

/-! ## The claim of new lines -/

/-- Lines of the day that are not in the cache fit into it. -/
theorem claimed_few {current news : List String}
    (few : current.Subperm (totalLines today found cache))
    (same : news = ((found day).lines today day).filter fun line => !current.contains line) :
    (current ++ news).Subperm (totalLines today found cache) := by
  have own : ((found day).lines today day).Sublist (totalLines today found cache) := by
    rw [totalLines, List.flatMap_def]
    refine List.Sublist.trans ?_ (List.sublist_append_right _ _)
    exact List.sublist_flatten_of_mem (List.mem_map.mpr ⟨day, List.mem_finRange day, rfl⟩)
  refine List.subperm_ext_iff.mpr fun line _ => ?_
  rw [List.count_append]
  by_cases inside : line ∈ current
  · have none : news.count line = 0 := by
      rw [List.count_eq_zero, same, List.mem_filter, List.contains_iff_mem.mpr inside]
      exact fun both => absurd both.2 Bool.false_ne_true
    rw [none, Nat.add_zero]
    exact List.subperm_ext_iff.mp few line inside
  · rw [List.count_eq_zero.mpr inside, Nat.zero_add, same]
    exact ((List.filter_sublist).trans own).count_le line

theorem valid_claim (short : (totalLines today found cache).length < 100)
    {sent news : List String}
    (same : news = ((found day).lines today day).filter fun line => !sent.contains line) :
    (dayProtocol today found cache).Valid replacesRead day (Fresh today found day)
      (setCache sent (lastHundred (sent ++ news)) [])
      fun _ shared => ∀ line ∈ news, line ∈ shared.cache := by
  have own : news ⊆ (found day).lines today day := by
    rw [same]
    exact List.filter_subset_self _
  refine valid_act (fun _ _ after => ∀ line ∈ news, line ∈ after.cache) fresh_stable ?_
    fun _ _ => valid_ret fun _ _ known => known
  rintro before _ after sound fresh (read : before.cache = sent) acted
  cases acted
  have few := claimed_few (read ▸ sound.few) same
  have whole : lastHundred (sent ++ news) = sent ++ news := by
    have length := few.length_le
    rw [lastHundred, Nat.sub_eq_zero_of_le (by omega), List.drop_zero]
  dsimp only
  rw [whole, List.nil_append]
  subst read
  refine ⟨⟨⟨?_, ?_⟩, sound.stripped, few⟩,
    guarantees_of_own own ?_ fun _ _ => Iff.rfl, fun line member => List.mem_append_right _ member⟩
  · intro line announced unreleased
    exact List.mem_append_left _ (sound.kept.1 line announced unreleased)
  · intro line released inside
    rcases List.mem_append.mp inside with earlier | now
    · exact sound.kept.2 line released earlier
    · exact fresh line (own now) released
  · intro line foreign _
    rw [List.mem_append, or_iff_left foreign]

theorem valid_checkAndNotifyForDay (short : (totalLines today found cache).length < 100)
    (plain : (found day).Plain) :
    (dayProtocol today found cache).Valid replacesRead day (Fresh today found day)
      (checkAndNotifyForDay today day (found day)) fun _ _ => True := by
  unfold checkAndNotifyForDay
  split
  · exact valid_ret fun _ _ _ => trivial
  · refine valid_act (fun _ _ => Fresh today found day) fresh_stable ?_ ?_
    · rintro before _ after sound fresh - acted
      cases acted
      exact ⟨sound, guarantees_of_own (List.Subset.refl _) (fun _ _ _ => Iff.rfl)
        fun _ _ => Iff.rfl, fresh⟩
    · intro before _
      change Protocol.Valid _ _ _ _ (if _ then _ else _) _
      split
      · exact valid_ret fun _ _ _ => trivial
      · refine Valid.bind _ (valid_claim short rfl) fun _ => valid_sendBestEffort plain ?_
        exact List.filter_subset_self _

/-! ## Runs -/

theorem dayTasks_follows :
    (dayProtocol today found cache).Follows dayTasks replacesRead where
  restingStable _ := true_stable
  operations _ _ operation := operation.elim
  crashes _ _ sound := ⟨sound, fun _ _ _ _ => ⟨Iff.rfl, Iff.rfl⟩, trivial⟩
  environments _ _ _ change := change.elim

/-- No line is lost and no released line stays while no task overwrites what another
task has written since its own reading. -/
theorem kept_of_replacesRead {today : Int} {found : Fin 3 → Availability} {cache : List String}
    (short : (totalLines today found cache).length < 100) (plain : ∀ day, (found day).Plain)
    {config : Config Shared Answer Label (Fin 3)}
    (reachable : dayTasks.Reachable replacesRead (dayRun today found cache) config) :
    config.shared.Kept := by
  have started : (dayProtocol today found cache).Covered replacesRead
      (dayRun today found cache) := by
    have sound : Sound today found cache ⟨cache, [], []⟩ :=
      ⟨⟨nofun, nofun⟩, nofun, (List.sublist_append_left _ _).subperm⟩
    exact ⟨sound, fun day => valid_checkAndNotifyForDay short (plain day) _ sound
      fun _ _ => List.not_mem_nil⟩
  exact (dayTasks_follows.covered_of_run started reachable).1.kept

end

/-! ## Two days at once -/

/-- One free court on each of the first two days. -/
def twoDays : Fin 3 → Availability
  | 0 => ⟨0, [⟨"1号场", [⟨1080, 1140⟩]⟩]⟩
  | 1 => ⟨1, [⟨"2号场", [⟨1200, 1320⟩]⟩]⟩
  | 2 => ⟨2, []⟩

theorem twoDays_short : (totalLines 20759 twoDays []).length < 100 := by
  decide

theorem twoDays_plain (day : Fin 3) : (twoDays day).Plain := by
  have names : ∀ day : Fin 3, (twoDays day).data.all
      (fun court => court.courtName.toList.all fun letter => !lineBreak letter) = true := by
    decide
  intro court known character inside
  have name := List.all_eq_true.mp (names day) court known
  simpa only [Bool.not_eq_true'] using List.all_eq_true.mp name character inside

def finished : Task Unit → Bool
  | .ret _ => true
  | .act _ _ _ => false

def allFinished (config : Config Shared Answer Label (Fin 3)) : Bool :=
  (List.finRange 3).all fun day => finished (config.threads day)

/-- The second day reads before the first day writes. -/
def crossedMoves : List (Move Shared Answer Label (Fin 3)) :=
  [.act 0 .acknowledged, .act 1 .acknowledged, .act 0 .acknowledged, .act 1 .acknowledged,
    .act 0 .acknowledged, .act 1 .acknowledged]

/-- The line of the first day was announced and is no longer in the cache. -/
theorem crossedMoves_lose :
    (totalLines 20759 twoDays []).length < 100 ∧
      ∃ config, dayTasks.Reachable System.anyAction (dayRun 20759 twoDays []) config ∧
        allFinished config = true ∧ ¬config.shared.Kept := by
  have legal : ∀ move ∈ crossedMoves, dayTasks.Legal move := by
    simp only [crossedMoves, List.forall_mem_cons]
    exact ⟨trivial, trivial, trivial, trivial, trivial, trivial, nofun⟩
  let check (config : Config Shared Answer Label (Fin 3)) : Bool :=
    allFinished config && config.shared.announced.any fun line =>
      !config.shared.released.contains line && !config.shared.cache.contains line
  obtain ⟨config, reachable, lost⟩ := System.exists_reachable_of_replay legal
    (show (System.replay dayTasks System.anyAction (dayRun 20759 twoDays []) crossedMoves).any
      check = true by decide)
  obtain ⟨finished, line, announced, gone⟩ :=
    (Bool.and_eq_true_iff.mp lost).imp_right List.any_eq_true.mp
  simp only [Bool.and_eq_true, Bool.not_eq_true', ← Bool.not_eq_true, List.contains_iff_mem] at gone
  exact ⟨twoDays_short, config, reachable, finished,
    fun kept => gone.2 (kept.1 line announced gone.1)⟩

/-- The second day writes after the first, and its request fails. -/
def orderedMoves : List (Move Shared Answer Label (Fin 3)) :=
  System.acts 0 .acknowledged 3 ++ System.acts 1 .failed 5

theorem orderedMoves_keep :
    ∃ config, dayTasks.Reachable replacesRead (dayRun 20759 twoDays []) config ∧
      (config.shared.announced.length = 2 ∧ config.shared.released.length = 1) ∧
      config.shared.Kept := by
  have legal : ∀ move ∈ orderedMoves, dayTasks.Legal move := by
    simp only [orderedMoves, List.forall_mem_append]
    exact ⟨System.legal_acts, System.legal_acts⟩
  obtain ⟨config, reachable, checked⟩ := System.exists_reachable_of_replay legal
    (show (System.replay dayTasks replacesRead (dayRun 20759 twoDays []) orderedMoves).any
      (fun config => decide (config.shared.announced.length = 2 ∧
        config.shared.released.length = 1)) = true by decide)
  exact ⟨config, reachable, of_decide_eq_true checked,
    kept_of_replacesRead twoDays_short twoDays_plain reachable⟩

end TennisAlerts.Watchers
