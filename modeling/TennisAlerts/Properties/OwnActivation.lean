import TennisAlerts.Recovery.Procedure

/-!
# Recovery and the activations of others

A recovery enables delivery from the row that it observed first and pauses the row that
it wrote itself.  The container that it stops serves no activation of another operator
unless one was made after the last look at the control row.
-/

namespace TennisAlerts.Recovery

open TennisAlerts.Concurrent

/-! ## Histories -/

/-- The row that a snapshot of the recovery has seen. -/
def Event.seen : Event → Option ControlRow
  | .looked row => some row
  | _ => none

/-- The row that the recovery observed at its start. -/
def firstLook (log : List Event) : Option ControlRow :=
  (log.filterMap Event.seen).getLast?

def Event.byRecovery : Event → Bool
  | .wrote operator _ _ => operator = .recovery
  | _ => true

/-- The event enables delivery. -/
def Event.activates : Event → Bool
  | .wrote _ _ after => after.deliveryEnabled
  | _ => false

/-- What a recovery does with the activations. -/
structure Careful (log : List Event) : Prop where
  enables : ∀ before after, .wrote .recovery before after ∈ log → after.deliveryEnabled = true →
    firstLook log = some before
  pauses : ∀ before after, .wrote .recovery before after ∈ log → after.deliveryEnabled = false →
    before.deliveryEnabled = true ∧ ∃ earlier, .wrote .recovery earlier before ∈ log
  keeps : ∀ before after, .wrote .recovery before after ∈ log →
    after.wechatEnabled = before.wechatEnabled ∧ after.deploymentCommit = before.deploymentCommit
  stops : ∀ row writer, .stopped row writer ∈ log → row.deliveryEnabled = true →
    writer = some .recovery

/-- The container is stopped before another operator enables delivery again. -/
def Undisturbed (_ : Operator) (label : Label) (desk : Desk) (_ : Input) : Prop :=
  label = .stop → (desk.log.takeWhile fun event => !event.byRecovery).all (!·.activates) = true

instance (actor : Operator) (label : Label) (desk : Desk) (input : Input) :
    Decidable (Undisturbed actor label desk input) :=
  inferInstanceAs (Decidable (label = .stop → _))

theorem firstLook_cons {log : List Event} {row : ControlRow} (first : firstLook log = some row)
    (event : Event) : firstLook (event :: log) = some row := by
  unfold firstLook at first ⊢
  cases seen : event.seen with
  | none => rw [List.filterMap_cons_none seen, first]
  | some other =>
      rw [List.filterMap_cons_some seen, List.getLast?_cons, first]
      rfl

theorem firstLook_append {log : List Event} {row : ControlRow} (first : firstLook log = some row)
    (news : List Event) : firstLook (news ++ log) = some row := by
  induction news with
  | nil => exact first
  | cons event news ih => exact firstLook_cons ih event

/-- What an event that follows a history must be. -/
structure Event.Careful (log : List Event) (event : Event) : Prop where
  enables : ∀ before after, event = .wrote .recovery before after → after.deliveryEnabled = true →
    firstLook log = some before
  pauses : ∀ before after, event = .wrote .recovery before after → after.deliveryEnabled = false →
    before.deliveryEnabled = true ∧ ∃ earlier, .wrote .recovery earlier before ∈ log
  keeps : ∀ before after, event = .wrote .recovery before after →
    after.wechatEnabled = before.wechatEnabled ∧ after.deploymentCommit = before.deploymentCommit
  stops : ∀ row writer, event = .stopped row writer → row.deliveryEnabled = true →
    writer = some .recovery

theorem Careful.cons {log : List Event} (careful : Careful log) {event : Event}
    (next : event.Careful log) : Careful (event :: log) where
  enables before after member enabled := by
    rcases List.mem_cons.mp member with same | member
    · exact firstLook_cons (next.enables before after same.symm enabled) event
    · exact firstLook_cons (careful.enables before after member enabled) event
  pauses before after member disabled := by
    rcases List.mem_cons.mp member with same | member
    · exact (next.pauses before after same.symm disabled).imp_right fun ⟨earlier, member⟩ =>
        ⟨earlier, List.mem_cons_of_mem event member⟩
    · exact (careful.pauses before after member disabled).imp_right fun ⟨earlier, member⟩ =>
        ⟨earlier, List.mem_cons_of_mem event member⟩
  keeps before after member := by
    rcases List.mem_cons.mp member with same | member
    · exact next.keeps before after same.symm
    · exact careful.keeps before after member
  stops row writer member enabled := by
    rcases List.mem_cons.mp member with same | member
    · exact next.stops row writer same.symm enabled
    · exact careful.stops row writer member enabled

/-- An event that is neither a write of the recovery nor a stop. -/
theorem Event.careful_of_other {log : List Event} {event : Event}
    (write : ∀ before after, event ≠ .wrote .recovery before after)
    (stop : ∀ row writer, event ≠ .stopped row writer) : event.Careful log where
  enables before after same := absurd same (write before after)
  pauses before after same := absurd same (write before after)
  keeps before after same := absurd same (write before after)
  stops row writer same := absurd same (stop row writer)

/-! ## The protocol -/

/-- What a step of another operator leaves. -/
structure OthersStep (before after : Desk) : Prop where
  written : before.written <:+ after.written
  control : after.control = before.control ∨
    (after.written.Nodup → after.control.updatedAt ∉ before.written)
  log : ∃ news, after.log = news ++ before.log ∧ news.all (!·.byRecovery) = true ∧
    (after.control.deliveryEnabled = true → before.control.deliveryEnabled = true ∨
      news.any (·.activates) = true)

/-- Whatever was written has its own time, and the recovery is careful. -/
structure Desk.Sound (desk : Desk) : Prop where
  written : desk.control.updatedAt ∈ desk.written
  careful : desk.written.Nodup → Careful desk.log

def controlProtocol : Protocol Desk Operator where
  invariant := Desk.Sound
  rely
    | .recovery, before, after => OthersStep before after
    | .other _, _, _ => True
  resting _ _ := True

theorem OthersStep.refl (desk : Desk) : OthersStep desk desk where
  written := List.suffix_refl _
  control := .inl rfl
  log := ⟨[], rfl, rfl, .inl⟩

theorem Desk.othersStep_write (desk : Desk) (number : Nat) (row : ControlRow) :
    OthersStep desk (desk.write (.other number) row) where
  written := List.suffix_cons _ _
  control := .inr fun distinct => (List.nodup_cons.mp distinct).1
  log := by
    refine ⟨[.wrote (.other number) desk.control row], rfl, rfl, fun enabled => .inr ?_⟩
    rw [List.any_cons, List.any_nil, Bool.or_false]
    exact enabled

theorem Desk.Sound.othersWrite {desk : Desk} (sound : desk.Sound) (number : Nat)
    (row : ControlRow) : (desk.write (.other number) row).Sound where
  written := List.mem_cons_self
  careful distinct :=
    (sound.careful (List.nodup_cons.mp distinct).2).cons
      (Event.careful_of_other (by rintro _ _ ⟨⟩) (by rintro _ _ ⟨⟩))

/-! ## What the recovery remembers -/

/-- The row was in force, and is in force again only with its own time. -/
def Remembers (row : ControlRow) (desk : Desk) : Prop :=
  row.updatedAt ∈ desk.written ∧
    (desk.written.Nodup → desk.control.updatedAt = row.updatedAt → desk.control = row)

/-- The row was observed first. -/
def Observed (row : ControlRow) (desk : Desk) : Prop :=
  Remembers row desk ∧ firstLook desk.log = some row

/-- The recovery has enabled delivery with the row. -/
def Activated (row : ControlRow) (desk : Desk) : Prop :=
  Remembers row desk ∧ row.deliveryEnabled = true ∧
    ∃ earlier, .wrote .recovery earlier row ∈ desk.log

/-- Delivery is disabled, unless it was enabled after the latest event of the recovery. -/
def Settled (desk : Desk) : Prop :=
  ∃ news own older, desk.log = news ++ own :: older ∧ own.byRecovery = true ∧
    news.all (!·.byRecovery) = true ∧
    (desk.control.deliveryEnabled = true → news.any (·.activates) = true)

theorem Settled.quiet {desk : Desk} (settled : Settled desk)
    (quiet : (desk.log.takeWhile fun event => !event.byRecovery).all (!·.activates) = true) :
    desk.control.deliveryEnabled = false := by
  obtain ⟨news, own, older, log, mine, others, enabled⟩ := settled
  have since : desk.log.takeWhile (fun event => !event.byRecovery) = news := by
    rw [log,
      List.takeWhile_append_of_pos fun event member => List.all_eq_true.mp others event member,
      List.takeWhile_cons_of_neg (by rw [mine]; decide), List.append_nil]
  rw [since] at quiet
  by_contra active
  obtain ⟨event, member, activates⟩ := List.any_eq_true.mp (enabled (by simpa using active))
  have idle := List.all_eq_true.mp quiet event member
  rw [activates] at idle
  exact absurd idle (by decide)

section

variable {before after : Desk} (step : OthersStep before after) {row : ControlRow}
include step

theorem OthersStep.remembers (remembers : Remembers row before) : Remembers row after := by
  refine ⟨step.written.mem remembers.1, fun distinct same => ?_⟩
  rcases step.control with kept | fresh
  · rw [kept] at same ⊢
    exact remembers.2 (distinct.sublist step.written.sublist) same
  · exact absurd (same ▸ remembers.1) (fresh distinct)

theorem OthersStep.observed (observed : Observed row before) : Observed row after := by
  obtain ⟨news, log, -, -⟩ := step.log
  exact ⟨step.remembers observed.1, log ▸ firstLook_append observed.2 news⟩

theorem OthersStep.activated (activated : Activated row before) : Activated row after := by
  obtain ⟨remembers, enabled, earlier, member⟩ := activated
  obtain ⟨news, log, -, -⟩ := step.log
  exact ⟨step.remembers remembers, enabled, earlier, log ▸ List.mem_append_right news member⟩

theorem OthersStep.settled (settled : Settled before) : Settled after := by
  obtain ⟨news, own, older, log, mine, others, enabled⟩ := settled
  obtain ⟨news', log', others', enabled'⟩ := step.log
  refine ⟨news' ++ news, own, older, ?_, mine, ?_, ?_⟩
  · rw [log', log, List.append_assoc]
  · rw [List.all_append, others', others]
    rfl
  · intro active
    rw [List.any_append]
    rcases enabled' active with active | activates
    · rw [enabled active, Bool.or_true]
    · rw [activates, Bool.true_or]

end

theorem stable_of_othersStep {assertion : Desk → Prop}
    (kept : ∀ before after, OthersStep before after → assertion before → assertion after) :
    controlProtocol.Stable .recovery assertion :=
  fun before after _ _ step holds => kept before after step holds

theorem stable_observed (row : ControlRow) : controlProtocol.Stable .recovery (Observed row) :=
  stable_of_othersStep fun _ _ step => step.observed

theorem stable_activated (row : ControlRow) : controlProtocol.Stable .recovery (Activated row) :=
  stable_of_othersStep fun _ _ step => step.activated

/-- Nobody relies on the recovery. -/
theorem guarantees_recovery (before after : Desk) :
    controlProtocol.Guarantees .recovery before after := by
  intro other different
  cases other with
  | recovery => exact absurd rfl different
  | other number => trivial

/-! ## Actions -/

/-- The triples of the recovery. -/
abbrev Recovers {α : Type} (pre : Desk → Prop) (program : Procedure α) (post : α → Desk → Prop)
    (failed : String → Desk → Prop) : Prop :=
  controlProtocol.Holds Undisturbed .recovery pre program post failed

section

variable {assertion : Desk → Prop} (stable : controlProtocol.Stable .recovery assertion)
include stable

/-- An action that leaves the desk alone keeps what the recovery asserts. -/
theorem recovers_reading {α : Type} {label : Label}
    {effect : Desk → Input → Option (Desk × Except String α)}
    (unchanged : ∀ desk input after result, effect desk input = some (after, result) →
      after = desk) :
    Recovers assertion (Failing.action label effect) (fun _ => assertion) fun _ => assertion := by
  refine Protocol.holds_action stable ?_
  intro before input after result sound holds _ acted
  rw [unchanged before input after result acted]
  refine ⟨sound, guarantees_recovery before before, ?_⟩
  cases result <;> exact holds

theorem recovers_readContainers (expected : String) (allowApiStopped : Bool) :
    Recovers assertion (readContainers expected allowApiStopped) (fun _ => assertion)
      fun _ => assertion := by
  refine recovers_reading stable ?_
  intro desk input after result acted
  split at acted
  · cases acted
    rfl
  · exact nomatch acted

theorem recovers_readEndpoints (expected : String) :
    Recovers assertion (readEndpoints expected) (fun _ => assertion) fun _ => assertion := by
  refine recovers_reading stable ?_
  intro desk input after result acted
  split at acted
  · cases acted
    rfl
  · exact nomatch acted

theorem recovers_deadlinePassed :
    Recovers assertion deadlinePassed (fun _ => assertion) fun _ => assertion := by
  refine recovers_reading stable ?_
  intro desk input after result acted
  split at acted
  · cases acted
    rfl
  · exact nomatch acted

omit stable in
theorem recovers_check {α : Type} (result : Except String α) :
    Recovers assertion (Failing.ofExcept result) (fun _ => assertion) fun _ => assertion := by
  refine Protocol.holds_ofExcept fun state _ holds => ?_
  cases result <;> exact holds

end

/-- A snapshot fails, or is recorded and shows the row in force unless it is lost. -/
theorem of_runSnapshot {expected : String} {found : Surroundings} {fate : Fate}
    {before after : Desk} {result : Except String Snapshot}
    (acted : runSnapshot expected found fate before = (after, result)) :
    (after = before ∧ ∃ failure, result = .error failure) ∨
      (after = before.record (.looked before.control) ∧
        ((∃ failure, result = .error failure) ∨
          ∃ value, result = .ok value ∧ value.state = stateSummary before.control)) := by
  unfold runSnapshot at acted
  split at acted
  · cases acted
    exact .inl ⟨rfl, _, rfl⟩
  · split at acted
    · rename_i result read
      cases acted
      refine .inr ⟨rfl, ?_⟩
      cases fate with
      | delivered => exact .inr ⟨result, rfl, snapshot_state read⟩
      | lost => exact .inl ⟨_, rfl⟩
      | unreached => exact .inl ⟨_, rfl⟩
    · cases acted
      refine .inl ⟨rfl, ?_⟩
      cases fate <;> exact ⟨_, rfl⟩

theorem recovers_probeSnapshot {assertion : Desk → Prop}
    (stable : controlProtocol.Stable .recovery assertion) (expected : String)
    {post : Snapshot → Desk → Prop} {failed : Desk → Prop}
    (fails : ∀ desk, assertion desk → failed desk)
    (records : ∀ desk, assertion desk → failed (desk.record (.looked desk.control)))
    (reads : ∀ desk result, desk.Sound → assertion desk →
      result.state = stateSummary desk.control →
      post result (desk.record (.looked desk.control))) :
    Recovers assertion (probeSnapshot expected) post fun _ => failed := by
  refine Protocol.holds_action stable ?_
  intro before input after result sound holds _ acted
  split at acted
  · have recorded : (before.record (.looked before.control)).Sound :=
      ⟨sound.written, fun distinct =>
        (sound.careful distinct).cons
          (Event.careful_of_other (by rintro _ _ ⟨⟩) (by rintro _ _ ⟨⟩))⟩
    rcases of_runSnapshot (Option.some.inj acted) with
      ⟨rfl, failure, rfl⟩ | ⟨rfl, ⟨failure, rfl⟩ | ⟨value, rfl, shows⟩⟩
    · exact ⟨sound, guarantees_recovery _ _, fails after holds⟩
    · exact ⟨recorded, guarantees_recovery _ _, records before holds⟩
    · exact ⟨recorded, guarantees_recovery _ _, reads before value sound holds shows⟩
  · exact nomatch acted

/-- A probe of `mutate` fails, or writes a row and returns its time unless it is lost. -/
theorem of_runMutate {expected : String} {operation : Operation} {token : Int}
    {found : Surroundings} {fate : Fate} {before after : Desk} {result : Except String Int}
    (acted : runMutate expected operation token found fate before = (after, result)) :
    (after = before ∧ ∃ failure, result = .error failure) ∨
      ∃ row, after = before.write .recovery row ∧
        Mutates operation token found.now before.control row ∧
        ((∃ failure, result = .error failure) ∨ result = .ok row.updatedAt) := by
  unfold runMutate at acted
  split at acted
  · cases acted
    exact .inl ⟨rfl, _, rfl⟩
  · split at acted
    · rename_i row changed
      cases acted
      refine .inr ⟨row, rfl, mutates_of_mutate changed, ?_⟩
      cases fate with
      | delivered => exact .inr rfl
      | lost => exact .inl ⟨_, rfl⟩
      | unreached => exact .inl ⟨_, rfl⟩
    · cases acted
      refine .inl ⟨rfl, ?_⟩
      cases fate <;> exact ⟨_, rfl⟩

/-- The rule of a write: it keeps the protocol, and what follows from it. -/
theorem recovers_probeMutate {assertion : Desk → Prop}
    (stable : controlProtocol.Stable .recovery assertion) (expected : String)
    (operation : Operation) (token : Int) {post : Int → Desk → Prop} {failed : Desk → Prop}
    (fails : ∀ desk, assertion desk → failed desk)
    (writes : ∀ desk row now, desk.Sound → assertion desk →
      Mutates operation token now desk.control row →
      (desk.write .recovery row).Sound ∧ failed (desk.write .recovery row) ∧
        post row.updatedAt (desk.write .recovery row)) :
    Recovers assertion (probeMutate expected operation token) post fun _ => failed := by
  refine Protocol.holds_action stable ?_
  intro before input after result sound holds _ acted
  split at acted
  · rcases of_runMutate (Option.some.inj acted) with
      ⟨rfl, failure, rfl⟩ | ⟨row, rfl, mutates, ends⟩
    · exact ⟨sound, guarantees_recovery _ _, fails after holds⟩
    · obtain ⟨kept, failed, wrote⟩ := writes before row _ sound holds mutates
      refine ⟨kept, guarantees_recovery _ _, ?_⟩
      rcases ends with ⟨failure, rfl⟩ | rfl
      · exact failed
      · exact wrote
  · exact nomatch acted

/-- A container command is recorded, whether it fails or not. -/
theorem recovers_docker {assertion : Desk → Prop}
    (stable : controlProtocol.Stable .recovery assertion) (label : Label) (event : Desk → Event)
    {post : Desk → Prop}
    (records : ∀ desk input, desk.Sound → assertion desk →
      Undisturbed .recovery label desk input →
      (desk.record (event desk)).Sound ∧ post (desk.record (event desk))) :
    Recovers assertion (docker label event) (fun _ => post) fun _ => post := by
  refine Protocol.holds_action stable ?_
  intro before input after result sound holds quiet acted
  obtain ⟨recorded, kept⟩ := records before input sound holds quiet
  split at acted
  · cases acted
    exact ⟨recorded, guarantees_recovery _ _, kept⟩
  · cases acted
    exact ⟨recorded, guarantees_recovery _ _, kept⟩
  · exact nomatch acted

/-! ## Parts of the procedure -/

theorem Observed.recorded {row : ControlRow} {desk : Desk} (observed : Observed row desk)
    (event : Event) : Observed row (desk.record event) :=
  ⟨observed.1, firstLook_cons observed.2 event⟩

theorem Activated.recorded {row : ControlRow} {desk : Desk} (activated : Activated row desk)
    (event : Event) : Activated row (desk.record event) :=
  let ⟨remembers, enabled, earlier, member⟩ := activated
  ⟨remembers, enabled, earlier, List.mem_cons_of_mem event member⟩

/-- Waiting keeps what records keep. -/
theorem recovers_waitForWorker {assertion : Desk → Prop}
    (stable : controlProtocol.Stable .recovery assertion)
    (records : ∀ desk event, assertion desk → assertion (desk.record event)) (expected : String)
    (identities : Identities) (token since : Int) (active : Bool) (rounds : Nat) :
    Recovers assertion (waitForWorker expected identities token since active rounds)
      (fun _ => assertion) fun _ => assertion := by
  induction rounds with
  | zero => exact Protocol.holds_throw fun _ _ holds => holds
  | succ rounds ih =>
      unfold waitForWorker
      refine Protocol.Holds.bind (recovers_deadlinePassed stable) fun late => ?_
      refine Protocol.Holds.bind (recovers_check _) fun _ => ?_
      refine Protocol.Holds.bind (recovers_readContainers stable expected false) fun current => ?_
      refine Protocol.Holds.bind (recovers_check _) fun _ => ?_
      refine Protocol.Holds.bind (recovers_check _) fun _ => ?_
      refine Protocol.Holds.bind (recovers_probeSnapshot stable expected (fun _ holds => holds)
        (fun desk holds => records desk _ holds) fun desk _ _ holds _ => records desk _ holds)
        fun snapshot => ?_
      refine Protocol.Holds.bind (recovers_check _) fun _ => ?_
      refine Protocol.Holds.bind (recovers_check _) fun _ => ?_
      split
      · exact Protocol.holds_pure fun _ _ holds => holds
      · exact ih

/-- The container is stopped while delivery is disabled. -/
theorem recovers_stopMail : Recovers Settled stopMail (fun _ _ => True) fun _ _ => True := by
  refine recovers_docker (stable_of_othersStep fun _ _ step => step.settled) .stop _ ?_
  intro desk input sound settled quiet
  have disabled := settled.quiet (quiet rfl)
  refine ⟨⟨sound.written, fun distinct => (sound.careful distinct).cons ?_⟩, trivial⟩
  refine ⟨by rintro _ _ ⟨⟩, by rintro _ _ ⟨⟩, by rintro _ _ ⟨⟩, ?_⟩
  rintro row writer ⟨⟩ enabled
  rw [disabled] at enabled
  exact nomatch enabled

/-- The recovery enables delivery from the row that it observed. -/
theorem recovers_enable (row : ControlRow) (expected : String) :
    Recovers (Observed row) (probeMutate expected .enable row.updatedAt)
      (fun token desk => ∃ enabled, enabled.updatedAt = token ∧ Activated enabled desk)
      fun _ => Observed row := by
  refine recovers_probeMutate (stable_observed row) expected .enable _ (fun _ holds => holds) ?_
  intro desk after now sound observed mutates
  have wrote : firstLook (desk.write .recovery after).log = some row :=
    firstLook_cons observed.2 _
  refine ⟨⟨List.mem_cons_self, fun distinct => ?_⟩, ⟨⟨?_, ?_⟩, wrote⟩, after, rfl,
    ⟨List.mem_cons_self, fun _ _ => rfl⟩, mutates.enabled, _, List.mem_cons_self⟩
  · have older := (List.nodup_cons.mp distinct).2
    refine (sound.careful older).cons ⟨?_, ?_, ?_, by rintro _ _ ⟨⟩⟩
    · rintro _ _ ⟨⟩ _
      rw [observed.1.2 older mutates.previous]
      exact observed.2
    · rintro _ _ ⟨⟩ paused
      rw [mutates.enabled] at paused
      exact nomatch paused
    · rintro _ _ ⟨⟩
      exact ⟨mutates.wechatEnabled, mutates.deploymentCommit⟩
  · exact List.mem_cons_of_mem _ observed.1.1
  · intro distinct same
    have fresh := (List.nodup_cons.mp distinct).1
    exact absurd (same ▸ observed.1.1) fresh

/-- The recovery pauses the row that it wrote. -/
theorem recovers_pause (row : ControlRow) (expected : String) :
    Recovers (Activated row) (probeMutate expected .pause row.updatedAt) (fun _ => Settled)
      fun _ _ => True := by
  refine recovers_probeMutate (stable_activated row) expected .pause _ (fun _ _ => trivial) ?_
  intro desk after now sound activated mutates
  refine ⟨⟨List.mem_cons_self, fun distinct => ?_⟩, trivial, [], _, desk.log, rfl, rfl, rfl, ?_⟩
  · have older := (List.nodup_cons.mp distinct).2
    refine (sound.careful older).cons ⟨?_, ?_, ?_, by rintro _ _ ⟨⟩⟩
    · rintro _ _ ⟨⟩ enabled
      rw [mutates.enabled] at enabled
      exact nomatch enabled
    · rintro _ _ ⟨⟩ _
      rw [activated.1.2 older mutates.previous]
      exact activated.2
    · rintro _ _ ⟨⟩
      exact ⟨mutates.wechatEnabled, mutates.deploymentCommit⟩
  · intro enabled
    exact nomatch mutates.enabled.symm.trans enabled

/-! ## Rolling back -/

/-- The snapshot of a rollback, from one container or the other. -/
theorem recovers_lastLook {assertion : Desk → Prop}
    (stable : controlProtocol.Stable .recovery assertion)
    (records : ∀ desk event, assertion desk → assertion (desk.record event)) (expected : String)
    {post : Snapshot → Desk → Prop}
    (reads : ∀ desk result, desk.Sound → assertion desk →
      result.state = stateSummary desk.control →
      post result (desk.record (.looked desk.control))) :
    Recovers assertion (tryCatch (probeSnapshot expected) fun _ => probeSnapshot expected) post
      fun _ => assertion :=
  have probed := recovers_probeSnapshot stable expected (fun _ holds => holds)
    (fun desk holds => records desk _ holds) reads
  Protocol.Holds.tryCatch probed fun _ => probed

/-- A look at disabled delivery settles it. -/
theorem settled_of_look {desk : Desk} {result : Snapshot}
    (shows : result.state = stateSummary desk.control) :
    result.state.deliveryEnabled = false → Settled (desk.record (.looked desk.control)) := by
  intro disabled
  rw [shows] at disabled
  exact ⟨[], _, desk.log, rfl, rfl, rfl, fun enabled => nomatch disabled.symm.trans enabled⟩

theorem recovers_rollback {assertion : Desk → Prop}
    (stable : controlProtocol.Stable .recovery assertion)
    (records : ∀ desk event, assertion desk → assertion (desk.record event)) (expected : String)
    (identities : Identities) (before : Snapshot) {enabledToken : Option Int}
    (pauses : ∀ token, enabledToken = some token →
      Recovers assertion (probeMutate expected .pause token) (fun _ => Settled) fun _ _ => True) :
    Recovers assertion (rollback expected identities before enabledToken) (fun _ _ => True)
      fun _ _ => True := by
  have body : Recovers assertion (rollbackBody expected identities before enabledToken)
      (fun _ _ => True) fun _ _ => True := by
    have ends {pre : Desk → Prop} (result : Rollback) :
        Recovers pre (pure result) (fun _ _ => True) fun _ _ => True :=
      Protocol.holds_pure fun _ _ _ => trivial
    have weakened {α : Type} {pre : Desk → Prop} {program : Procedure α} {post : α → Desk → Prop}
        (holds : Recovers pre program post fun _ => assertion) :
        Recovers pre program post fun _ _ => True :=
      holds.mono (fun _ _ held => held) (fun _ _ _ held => held) fun _ _ _ _ => trivial
    have stops : Recovers Settled (stopMail >>= fun _ => pure Rollback.stopped)
        (fun _ _ => True) fun _ _ => True :=
      recovers_stopMail.bind fun _ => ends _
    unfold rollbackBody
    refine Protocol.Holds.bind
      (weakened (recovers_readContainers stable expected true)) fun current => ?_
    refine Protocol.Holds.bind (weakened (recovers_check _)) fun _ => ?_
    cases enabledToken with
    | some token =>
        refine Protocol.Holds.bind (weakened (recovers_lastLook stable records expected
          fun desk _ _ holds _ => records desk _ holds)) fun found => ?_
        dsimp only
        split
        · exact ends _
        · split
          · exact ends _
          · exact Protocol.Holds.bind (pauses token rfl) fun _ => stops
    | none =>
        have looks : Recovers assertion
            (tryCatch (probeSnapshot expected) fun _ => probeSnapshot expected)
            (fun result desk => result.state.deliveryEnabled = false → Settled desk)
            fun _ => assertion :=
          recovers_lastLook stable records expected fun _ _ _ _ shows => settled_of_look shows
        refine Protocol.Holds.bind (weakened looks) fun found => ?_
        dsimp only
        split
        · exact ends _
        · split
          · exact ends _
          · rename_i matched
            have disabled : found.state.deliveryEnabled = false := by
              simp only [Bool.or_eq_true, not_or, Bool.not_eq_true] at matched
              exact matched.2
            exact stops.mono (fun _ _ settled => settled disabled) (fun _ _ _ held => held)
              fun _ _ _ held => held
  exact Protocol.Holds.tryCatch body fun _ => Protocol.holds_pure fun _ _ _ => trivial

/-! ## The procedure -/

theorem recovers_finishRecovery (row : ControlRow) (expected : String)
    (identities : Identities) (before : Snapshot) (rounds : Nat) :
    Recovers (Activated row) (finishRecovery expected identities before rounds row.updatedAt)
      (fun _ _ => True) fun _ _ => True := by
  have records : ∀ desk event, Activated row desk → Activated row (desk.record event) :=
    fun _ event activated => activated.recorded event
  have body : Recovers (Activated row)
      (waitForWorker expected identities row.updatedAt row.updatedAt true rounds >>= fun _ =>
        readEndpoints expected >>= fun _ => pure (Report.recovered row.updatedAt))
      (fun _ _ => True) fun _ => Activated row := by
    refine Protocol.Holds.bind
      (recovers_waitForWorker (stable_activated row) records expected identities _ _ _ rounds)
      fun _ => ?_
    exact Protocol.Holds.bind (recovers_readEndpoints (stable_activated row) expected) fun _ =>
      Protocol.holds_pure fun _ _ _ => trivial
  refine Protocol.Holds.tryCatch body fun failure => ?_
  refine Protocol.Holds.bind (recovers_rollback (stable_activated row) records expected identities
    before ?_) fun _ => Protocol.holds_pure fun _ _ _ => trivial
  rintro token ⟨⟩
  exact recovers_pause row expected

theorem recovers_resumeDelivery (row : ControlRow) (expected : String) (identities : Identities)
    (before : Snapshot) (rounds : Nat) (shows : before.state.updatedAt = row.updatedAt) :
    Recovers (Observed row) (resumeDelivery expected identities before rounds) (fun _ _ => True)
      fun _ _ => True := by
  have records : ∀ desk event, Observed row desk → Observed row (desk.record event) :=
    fun _ event observed => observed.recorded event
  have enables : Recovers (Observed row) (enableDelivery expected identities before rounds)
      (fun token desk => ∃ enabled, enabled.updatedAt = token ∧ Activated enabled desk)
      fun _ => Observed row := by
    unfold enableDelivery
    rw [shows]
    refine Protocol.Holds.bind (recovers_docker (stable_observed row) .start _ ?_) fun _ => ?_
    · exact fun desk _ sound observed _ => ⟨⟨sound.written, fun distinct =>
        (sound.careful distinct).cons
          (Event.careful_of_other (by rintro _ _ ⟨⟩) (by rintro _ _ ⟨⟩))⟩, records desk _ observed⟩
    · refine Protocol.Holds.bind
        (recovers_waitForWorker (stable_observed row) records expected identities _ _ _ rounds)
        fun _ => ?_
      refine Protocol.Holds.bind (recovers_readContainers (stable_observed row) expected false)
        fun _ => ?_
      exact Protocol.Holds.bind (recovers_check _) fun _ => recovers_enable row expected
  have tried : Recovers (Observed row) (tryCatch (do
      let token ← enableDelivery expected identities before rounds
      return Except.ok token) fun failure => return Except.error failure)
      (Protocol.Ends (fun token desk => ∃ enabled, enabled.updatedAt = token ∧
        Activated enabled desk) fun (_ : String) => Observed row) fun _ _ => False := by
    refine Protocol.Holds.tryCatch (Protocol.Holds.bind enables fun token => ?_) fun failure => ?_
    · exact Protocol.holds_pure fun _ _ held => held
    · exact Protocol.holds_pure fun _ _ held => held
  unfold resumeDelivery
  refine Protocol.Holds.bind (tried.mono (fun _ _ held => held) (fun _ _ _ held => held)
    fun _ _ _ impossible => impossible.elim) fun enabled => ?_
  cases enabled with
  | ok token =>
      intro desk sound reached
      obtain ⟨written, rfl, activated⟩ := reached
      exact recovers_finishRecovery written expected identities before rounds desk sound activated
  | error failure =>
      exact Protocol.Holds.bind (recovers_rollback (stable_observed row) records expected identities
        before nofun) fun _ => Protocol.holds_pure fun _ _ _ => trivial

/-- No snapshot of the recovery has been recorded. -/
def Unobserved (desk : Desk) : Prop :=
  desk.log.filterMap Event.seen = []

theorem stable_unobserved : controlProtocol.Stable .recovery Unobserved := by
  refine stable_of_othersStep fun before after step unobserved => ?_
  obtain ⟨news, log, others, -⟩ := step.log
  unfold Unobserved
  rw [log, List.filterMap_append, unobserved, List.append_nil, List.filterMap_eq_nil_iff]
  intro event member
  have other := List.all_eq_true.mp others event member
  cases event with
  | looked row => exact nomatch other
  | wrote operator before after => rfl
  | started => rfl
  | stopped row writer => rfl

theorem recovers_recover (expected : String) (operation : RequestedOperation) (rounds : Nat) :
    Recovers Unobserved (recover expected operation rounds) (fun _ _ => True) fun _ _ => True := by
  have weakened {α : Type} {pre kept : Desk → Prop} {program : Procedure α}
      {post : α → Desk → Prop} (holds : Recovers pre program post fun _ => kept) :
      Recovers pre program post fun _ _ => True :=
    holds.mono (fun _ _ held => held) (fun _ _ _ held => held) fun _ _ _ _ => trivial
  have ends {pre : Desk → Prop} (report : Report) :
      Recovers pre (pure report) (fun _ _ => True) fun _ _ => True :=
    Protocol.holds_pure fun _ _ _ => trivial
  have looks : Recovers Unobserved (probeSnapshot expected)
      (fun before desk => ∃ row, before.state = stateSummary row ∧ Observed row desk)
      fun _ _ => True := by
    refine recovers_probeSnapshot stable_unobserved expected (fun _ _ => trivial)
      (fun _ _ => trivial) ?_
    intro desk before sound unobserved shows
    refine ⟨desk.control, shows, ⟨sound.written, fun _ _ => rfl⟩, ?_⟩
    unfold firstLook Desk.record
    rw [List.filterMap_cons_some
      (show (Event.looked desk.control).seen = some desk.control from rfl),
      unobserved]
    rfl
  unfold recover
  refine Protocol.Holds.bind (weakened (recovers_check _)) fun _ => ?_
  refine Protocol.Holds.bind (weakened (recovers_readContainers stable_unobserved expected false))
    fun identities => ?_
  refine Protocol.Holds.bind looks fun before desk sound reached => ?_
  obtain ⟨row, shows, observed⟩ := reached
  have stable := stable_observed row
  have rest : Recovers (Observed row) (do
      Failing.ofExcept (validateSnapshot expected before)
      readEndpoints expected
      if operation = .preflight then
        return .preflight
      if before.state.deliveryEnabled then
        return .alreadyActive (identities.mail.status = "running" &&
          freshHeartbeat expected before.state.updatedAt true before)
      if operation = .status then
        return .paused
      Failing.ofExcept (refuseIf (!(["exited", "created"].contains identities.mail.status))
        "paused recovery requires the existing email worker stopped")
      resumeDelivery expected identities before rounds) (fun _ _ => True) fun _ _ => True := by
    refine Protocol.Holds.bind (weakened (recovers_check _)) fun _ => ?_
    refine Protocol.Holds.bind (weakened (recovers_readEndpoints stable expected)) fun _ => ?_
    split
    · exact ends _
    · split
      · exact ends _
      · split
        · exact ends _
        · exact Protocol.Holds.bind (weakened (recovers_check _)) fun _ =>
            recovers_resumeDelivery row expected identities before rounds (by rw [shows]; rfl)
  exact rest desk sound observed

/-! ## Runs -/

/-- A transaction of another operator leaves the row or writes a new one. -/
theorem valid_transaction (number : Nat) {effect : Desk → Input → Option Desk}
    (changes : ∀ before input after, effect before input = some after →
      after = before ∨ ∃ row, after = before.write (.other number) row) :
    controlProtocol.Valid Undisturbed (.other number) (fun _ => True)
      (.act .write effect fun _ _ => .ret ()) fun _ _ => True := by
  refine Protocol.valid_act (fun _ _ _ => True) (fun _ _ _ _ _ _ => trivial) ?_
    fun _ _ => Protocol.valid_ret fun _ _ _ => trivial
  intro before input after sound _ _ acted
  rcases changes before input after acted with rfl | ⟨row, rfl⟩
  · refine ⟨sound, fun other _ => ?_, trivial⟩
    cases other with
    | recovery => exact .refl after
    | other _ => trivial
  · refine ⟨sound.othersWrite number row, fun other _ => ?_, trivial⟩
    cases other with
    | recovery => exact before.othersStep_write number row
    | other _ => trivial

theorem control_follows : controlProtocol.Follows controlSystem Undisturbed where
  restingStable _ _ _ _ _ _ _ := trivial
  operations actor program operation := by
    cases actor with
    | recovery => exact operation.elim
    | other number =>
        cases operation with
        | switch enabled commitId =>
            refine valid_transaction number ?_
            intro before input after acted
            split at acted
            · split at acted
              · exact .inr ⟨_, (Option.some.inj acted).symm⟩
              · exact .inl (Option.some.inj acted).symm
            · exact nomatch acted
        | mutate expected operation token =>
            refine valid_transaction number ?_
            intro before input after acted
            split at acted
            · split at acted
              · exact .inr ⟨_, (Option.some.inj acted).symm⟩
              · exact .inl (Option.some.inj acted).symm
            · exact nomatch acted
  crashes actor shared sound := by
    refine ⟨sound, ?_, trivial⟩
    intro other _
    cases other with
    | recovery => exact .refl shared
    | other _ => trivial
  environments before after sound same := by
    subst same
    refine ⟨sound, fun actor => ?_⟩
    cases actor with
    | recovery => exact .refl after
    | other _ => trivial

theorem Desk.sound_initial (control : ControlRow) : (Desk.initial control).Sound where
  written := List.mem_cons_self
  careful _ := ⟨fun _ _ member => absurd member List.not_mem_nil,
    fun _ _ member => absurd member List.not_mem_nil,
    fun _ _ member => absurd member List.not_mem_nil,
    fun _ _ member => absurd member List.not_mem_nil⟩

theorem covered_beginning (control : ControlRow) (expected : String)
    (operation : RequestedOperation) (rounds : Nat) :
    controlProtocol.Covered Undisturbed (beginning control expected operation rounds) := by
  refine ⟨Desk.sound_initial control, fun actor => ?_⟩
  cases actor with
  | recovery =>
      exact Protocol.Holds.ended (recovers_recover expected operation rounds) _
        (Desk.sound_initial control) rfl
  | other number => trivial

/-- In every run with distinct times in which nobody enables delivery between the last
look of a rollback and its stop, the recovery is careful. -/
theorem careful_of_undisturbed (control : ControlRow) (expected : String)
    (operation : RequestedOperation) (rounds : Nat) {config : Config Desk Input Label Operator}
    (run : controlSystem.Reachable Undisturbed (beginning control expected operation rounds) config)
    (distinct : config.shared.written.Nodup) : Careful config.shared.log :=
  have covered := control_follows.covered_of_run
    (covered_beginning control expected operation rounds) run
  covered.1.careful
    distinct

/-! ## Two runs -/

def runtimeCommit : String :=
  "0123456789abcdef0123456789abcdef01234567"

def pausedControl : ControlRow :=
  ⟨runtimeCommit, false, false, some 1, 2, "paused"⟩

def inspected (service status : String) : Inspection :=
  ⟨["0123456789ab"], "0123456789ab", "image", [("DEPLOYMENT_COMMIT", runtimeCommit)], some service,
    status, some ["python", "-m", "wechat_airflow.host_core.worker"]⟩

def hostReadings (mail : String) : Input :=
  .readings (.ok ⟨runtimeCommit, "", inspected "zacks-api" "running",
    inspected "zacks-notification-worker" mail, inspected "zacks-wechat-worker" "exited",
    some runtimeCommit⟩)

def healthyEndpoints : Input :=
  .endpoints (.ok ⟨⟨true, some runtimeCommit, some "airflow-host"⟩, true, true,
    ⟨true, some runtimeCommit, some "cloudflare-stateless-edge", some true, some false, some false,
      some "none"⟩, ⟨true, some runtimeCommit, some "airflow-host"⟩⟩)

/-- A probe at a time, with a heartbeat of a worker that owns nothing. -/
def probedAt (now : Int) (fate : Fate) : Input :=
  .probe ⟨some runtimeCommit, .current, true, true,
    some ⟨runtimeCommit, true, now - 1, some "shadow", some false⟩, [⟨true, some now⟩], now⟩ fate

abbrev ControlMove := Move Desk Input Label Operator

def recoveryActs (inputs : List Input) : List ControlMove :=
  inputs.map (.act .recovery)

/-- Another operator enables delivery. -/
def otherEnables : List ControlMove :=
  [.start (.other 0) (switchDelivery 0 true runtimeCommit), .act (.other 0) (.switch true 40)]

theorem legal_recoveryActs (inputs : List Input) :
    ∀ move ∈ recoveryActs inputs, controlSystem.Legal move := by
  intro move member
  obtain ⟨input, -, rfl⟩ := List.mem_map.mp member
  trivial

theorem legal_otherEnables : ∀ move ∈ otherEnables, controlSystem.Legal move := by
  intro move member
  rcases List.mem_cons.mp member with rfl | member
  · exact OtherOperation.switch true runtimeCommit
  · rw [List.mem_singleton.mp member]
    trivial

/-- The recovery up to its first wait. -/
def startInputs : List Input :=
  [hostReadings "exited", probedAt 10 .delivered, healthyEndpoints, .docker none, .clock false,
    hostReadings "running"]

/-- The recovery enables delivery, gives up and pauses; then another operator enables it. -/
def pausedMoves : List ControlMove :=
  recoveryActs (startInputs ++ [probedAt 20 .delivered, hostReadings "running",
    probedAt 25 .delivered, .clock true, hostReadings "running", probedAt 30 .delivered,
    probedAt 35 .delivered, .docker none]) ++ otherEnables

/-- Everything was written at its own time, and the container was stopped. -/
def stoppedDistinctly (config : Config Desk Input Label Operator) : Bool :=
  config.shared.written.Nodup && config.shared.log.any fun event =>
    match event with
    | .stopped _ _ => true
    | _ => false

theorem pausedRecovery_careful :
    ∃ config, controlSystem.Reachable Undisturbed
      (beginning pausedControl runtimeCommit .resume 1) config ∧
      stoppedDistinctly config = true ∧ Careful config.shared.log := by
  have legal : ∀ move ∈ pausedMoves, controlSystem.Legal move := by
    simp only [pausedMoves, List.forall_mem_append]
    exact ⟨legal_recoveryActs _, legal_otherEnables⟩
  obtain ⟨config, run, stopped⟩ := System.exists_reachable_of_replay legal
    (show (System.replay controlSystem Undisturbed
      (beginning pausedControl runtimeCommit .resume 1) pausedMoves).any stoppedDistinctly = true
      by decide)
  refine ⟨config, run, stopped, ?_⟩
  exact careful_of_undisturbed pausedControl runtimeCommit .resume 1 run
    (of_decide_eq_true (Bool.and_eq_true_iff.mp stopped).1)

/-- A wait fails, and another operator enables delivery after the look of the rollback. -/
def disturbedMoves : List ControlMove :=
  recoveryActs (startInputs ++
    [probedAt 20 .lost, hostReadings "running", probedAt 30 .delivered]) ++
    otherEnables ++ recoveryActs [.docker none]

/-- The container was stopped under an activation of the other operator. -/
def stoppedOther (config : Config Desk Input Label Operator) : Bool :=
  config.shared.written.Nodup && config.shared.log.any fun event =>
    match event with
    | .stopped row writer => row.deliveryEnabled && writer = some (.other 0)
    | _ => false

theorem disturbedRecovery_stops :
    ∃ config, controlSystem.Reachable System.anyAction
      (beginning pausedControl runtimeCommit .resume 1) config ∧
      config.shared.written.Nodup ∧ ¬Careful config.shared.log := by
  have legal : ∀ move ∈ disturbedMoves, controlSystem.Legal move := by
    simp only [disturbedMoves, List.forall_mem_append]
    exact ⟨⟨legal_recoveryActs _, legal_otherEnables⟩, legal_recoveryActs _⟩
  obtain ⟨config, run, stopped⟩ := System.exists_reachable_of_replay legal
    (show (System.replay controlSystem System.anyAction
      (beginning pausedControl runtimeCommit .resume 1) disturbedMoves).any stoppedOther = true
      by decide)
  obtain ⟨distinct, others⟩ := Bool.and_eq_true_iff.mp stopped
  refine ⟨config, run, of_decide_eq_true distinct, fun careful => ?_⟩
  obtain ⟨event, member, ended⟩ := List.any_eq_true.mp others
  split at ended
  · obtain ⟨enabled, other⟩ := Bool.and_eq_true_iff.mp ended
    have own := careful.stops _ _ member enabled
    exact absurd (own.symm.trans (of_decide_eq_true other)) (by decide)
  · exact nomatch ended

end TennisAlerts.Recovery
