import TennisAlerts.Concurrent.Past
import TennisAlerts.Properties.ClaimCoherence

/-!
# The retries of a digest

The rows of a digest are judged together: after a rejection the largest attempt count
among them decides whether all fail or all are tried again, and when.
-/

namespace TennisAlerts.HostCore

open TennisAlerts.Concurrent TennisAlerts.Database Script

/-! ## The largest attempt count -/

theorem le_digestAttempts_iff (rows : List ClaimedRow) {count : Nat} (positive : 0 < count) :
    count ≤ digestAttempts rows ↔ ∃ row ∈ rows, count ≤ row.attemptCount := by
  have search (rows : List ClaimedRow) (largest : Nat) :
      count ≤ rows.foldl (fun largest row => max largest row.attemptCount) largest ↔
        count ≤ largest ∨ ∃ row ∈ rows, count ≤ row.attemptCount := by
    induction rows generalizing largest with
    | nil => simp
    | cons row rows ih =>
        rw [List.foldl_cons, ih, le_max_iff, List.exists_mem_cons_iff, or_assoc]
  rw [digestAttempts, search, or_iff_right (Nat.not_le.mpr positive)]

/-! ## Completions -/

/-- The provider rejected the email before it was submitted. -/
def SendOutcome.rejected : SendOutcome → Bool
  | .raised error => retryableSendError error
  | .returned _ _ => false

/-- What a rejected digest makes of each of its rows. -/
structure JudgedTogether (rows : List ClaimedRow) (later : Int) (row : OutboxRow) : Prop where
  failed : row.status = .failed ↔ ∃ claimed ∈ rows, maxAttempts ≤ claimed.attemptCount
  retried : row.status ≠ .failed → row.status = .retry
  retryAt : row.nextAttemptAt = retryAt later (digestAttempts rows)

theorem judgedTogether_of_rejected {rows : List ClaimedRow} {outcome : SendOutcome}
    (rejected : outcome.rejected = true) {worker id : String} {now later : Int}
    {ids : List String} {row new : OutboxRow}
    (completed : completeRow outcome (digestAttempts rows) worker now
      (retryAt later (digestAttempts rows)) ids id row = some new) :
    JudgedTogether rows later new := by
  have phase : outcome.phase (digestAttempts rows) =
      if maxAttempts ≤ digestAttempts rows then .failed else .retry := by
    cases outcome with
    | returned messageId requestId => exact nomatch rejected
    | raised error => exact if_pos rejected
  have limit := le_digestAttempts_iff rows (show 0 < maxAttempts by decide)
  unfold completeRow at completed
  dsimp only at completed
  split at completed
  · cases completed
    refine ⟨?_, fun other => ?_, rfl⟩
    · rw [← limit, phase]
      by_cases reached : maxAttempts ≤ digestAttempts rows
      · simp [reached]
      · simp [reached]
    · rw [phase] at other ⊢
      by_cases reached : maxAttempts ≤ digestAttempts rows
      · rw [if_pos reached] at other
        exact absurd rfl other
      · rw [if_neg reached]
  · exact nomatch completed

/-- One action of a script, with the hosts around it. -/
abbrev Act :=
  Taken Host Input Label

/-- The completion of a call, given the actions before it: it is for rows of the digest
whose call was answered, and it comes right after a reading of the clock.  After a
rejection, the rows that are still in flight under the lease are judged together by the
answer and the clock, and the others stay as they are. -/
structure CompletesCall (channel : Channel) (rows sent : List ClaimedRow) (worker : String)
    (answer read : Act) (call : Call) (outcome : SendOutcome) (past : List Act)
    (ids : List String) (phase : Status) (action : Host → Input → Option Host) : Prop where
  part : sent.Sublist rows
  nonempty : sent ≠ []
  listed : ids = sent.map ClaimedRow.id
  answered : answer ∈ past.tail ∧ answer.label = .outcome call ∧ answer.input = .outcome outcome
  called : call.channel = channel ∧ call.worker = worker ∧ call.rowIds = ids
  reading : past.head? = some read
  phase_eq : phase = outcome.phase (digestAttempts sent)
  judged : outcome.rejected = true → ∀ before input after, action before input = some after →
    ∀ id, ∀ row, ((before.outbox channel).view (.work (.worker worker))).row id = some row →
      ∃ new, ((after.outbox channel).view (.work (.worker worker))).row id = some new ∧
        if id ∈ ids ∧ row.leaseOwner = some worker ∧ row.status = .dispatching then
          JudgedTogether sent read.before.clock new
        else new = row

/-- Every completion is that of a call for rows of the digest. -/
def CompletesTogether (channel : Channel) (rows : List ClaimedRow) (worker : String)
    (past : List Act) (label : Label) (action : Host → Input → Option Host) : Prop :=
  ∀ other owner ids phase, label = .completeUpdate other owner ids phase →
    other = channel ∧ owner = worker ∧ ∃ sent answer read call outcome,
      CompletesCall channel rows sent worker answer read call outcome past ids phase action

/-- Every call that was answered was completed after the answer. -/
def AllCompleted (past : List Act) : Prop :=
  ∀ newer answer older call, past = newer ++ answer :: older → answer.label = .outcome call →
    ∃ completion ∈ newer, ∃ phase,
      completion.label = .completeUpdate call.channel call.worker call.rowIds phase

/-! ### Quiet actions -/

/-- The action ends no call and completes none. -/
def Label.quiet : Label → Bool
  | .outcome _ | .completeUpdate _ _ _ _ => false
  | _ => true

section

variable {channel : Channel} {rows : List ClaimedRow} {worker : String} {past : List Act}

theorem AllCompleted.cons {taken : Act} (quiet : taken.label.quiet = true)
    (completed : AllCompleted past) : AllCompleted (taken :: past) := by
  intro newer answer older call split ended
  cases newer with
  | nil =>
      cases split
      rw [ended] at quiet
      cases quiet
  | cons first newer =>
      obtain ⟨-, rest⟩ := List.cons.inj split
      obtain ⟨completion, member, found⟩ := completed newer answer older call rest ended
      exact ⟨completion, List.mem_cons_of_mem first member, found⟩

/-- No call was answered yet. -/
def Unanswered (past : List Act) : Prop :=
  ∀ taken ∈ past, taken.label.quiet = true

theorem Unanswered.cons {taken : Act} (quiet : taken.label.quiet = true)
    (unanswered : Unanswered past) : Unanswered (taken :: past) :=
  List.forall_mem_cons.mpr ⟨quiet, unanswered⟩

theorem Unanswered.allCompleted (unanswered : Unanswered past) : AllCompleted past := by
  rintro newer answer older call rfl ended
  have quiet := unanswered answer (List.mem_append_right newer List.mem_cons_self)
  rw [ended] at quiet
  cases quiet

/-- Only one call was answered, by the answer. -/
def AnsweredBy (answer : Act) (past : List Act) : Prop :=
  ∃ newer older, past = newer ++ answer :: older ∧ Unanswered newer ∧ Unanswered older

theorem AnsweredBy.cons {answer taken : Act} (quiet : taken.label.quiet = true)
    (answered : AnsweredBy answer past) : AnsweredBy answer (taken :: past) := by
  obtain ⟨newer, older, rfl, newerQuiet, olderQuiet⟩ := answered
  exact ⟨taken :: newer, older, rfl, newerQuiet.cons quiet, olderQuiet⟩

theorem AnsweredBy.mem {answer : Act} (answered : AnsweredBy answer past) : answer ∈ past := by
  obtain ⟨newer, older, rfl, _⟩ := answered
  exact List.mem_append_right newer List.mem_cons_self

/-- The completion of the only answer. -/
theorem AnsweredBy.allCompleted {answer completion : Act} {call : Call} {phase : Status}
    (answered : AnsweredBy answer past) (label : answer.label = .outcome call)
    (completes : completion.label = .completeUpdate call.channel call.worker call.rowIds phase) :
    AllCompleted (completion :: past) := by
  obtain ⟨before, earlier, rfl, beforeQuiet, earlierQuiet⟩ := answered
  intro newer other older call' split ended
  cases newer with
  | nil =>
      cases split
      rw [completes] at ended
      cases ended
  | cons first newer =>
      obtain ⟨rfl, rest⟩ := List.cons.inj split
      have same : call = call' := by
        have member : other ∈ before ++ answer :: earlier := by
          rw [rest]
          exact List.mem_append_right newer List.mem_cons_self
        have loud : other.label.quiet ≠ true := by
          rw [ended]
          exact Bool.false_ne_true
        rcases List.mem_append.mp member with inBefore | inRest
        · exact absurd (beforeQuiet other inBefore) loud
        · rcases List.mem_cons.mp inRest with rfl | inEarlier
          · rw [label] at ended
            cases ended
            rfl
          · exact absurd (earlierQuiet other inEarlier) loud
      subst same
      exact ⟨completion, List.mem_cons_self, phase, completes⟩

theorem completesTogether_of_quiet (past : List Act) (label : Label)
    (action : Host → Input → Option Host) (quiet : label.quiet = true) :
    CompletesTogether channel rows worker past label action := by
  rintro other owner ids phase rfl
  cases quiet

/-- Quiet actions keep what every quiet action keeps. -/
theorem along_quiet {α : Type} {kept : List Act → Prop} {script : Script α}
    (keeps : ∀ taken past, taken.label.quiet = true → kept past → kept (taken :: past))
    (each : script.Forall fun label _ => label.quiet = true) (start : kept past) :
    script.Along (CompletesTogether channel rows worker) (fun _ => kept) past :=
  Program.along_of_labels (fun past label action => completesTogether_of_quiet past label action)
    keeps each start

/-- Quiet actions in front of a script. -/
theorem along_behind {α β : Type} {kept : List Act → Prop} {done : β → List Act → Prop}
    {first : Script α} {rest : α → Script β}
    (keeps : ∀ taken past, taken.label.quiet = true → kept past → kept (taken :: past))
    (each : first.Forall fun label _ => label.quiet = true) (start : kept past)
    (continues : ∀ value later, kept later →
      (rest value).Along (CompletesTogether channel rows worker) done later) :
    (first >>= rest).Along (CompletesTogether channel rows worker) done past :=
  Program.Along.bind (along_quiet keeps each start) continues

/-- A quiet action of its own. -/
theorem forall_quiet {α : Type} {label : Label} {action : Host → Input → Option Host}
    {value : Host → Input → α} (quiet : label.quiet = true) :
    (.act label action fun host input => .ret (value host input) : Script α).Forall
      fun label _ => label.quiet = true :=
  ⟨quiet, fun _ _ => trivial⟩

theorem forall_when {condition : Prop} [Decidable condition] {script : Script Unit}
    (body : script.Forall fun label _ => label.quiet = true) :
    (when condition script).Forall fun label _ => label.quiet = true := by
  unfold when
  split
  · exact body
  · trivial

/-! ### The scripts -/

/-- The update of the rows that were sent. -/
theorem judged_completeUpdate {sent : List ClaimedRow} {outcome : SendOutcome}
    (rejected : outcome.rejected = true) {begun later : Int} {before after : Host}
    (acted : before.execute (.outbox channel) (.work (.worker worker)) (fun key row =>
      (completeRow outcome (digestAttempts sent) worker begun
        (retryAt later (digestAttempts sent)) (sent.map ClaimedRow.id) key row).map some) =
          some after)
    {id : String} {row : OutboxRow}
    (seen : ((before.outbox channel).view (.work (.worker worker))).row id = some row) :
    ∃ new, ((after.outbox channel).view (.work (.worker worker))).row id = some new ∧
      if id ∈ sent.map ClaimedRow.id ∧ row.leaseOwner = some worker ∧
          row.status = .dispatching then
        JudgedTogether sent later new
      else new = row := by
  obtain ⟨-, next⟩ := execute_eq_some acted
  have table : (after.outbox channel) = ((before.outbox channel).write (.work (.worker worker))
      fun key row => (completeRow outcome (digestAttempts sent) worker begun
        (retryAt later (digestAttempts sent)) (sent.map ClaimedRow.id) key row).map some) := by
    rw [next]
    exact Function.update_self ..
  rw [VersionedTable.row_view] at seen ⊢
  rw [table, VersionedTable.view_write, seen, Option.bind_some]
  cases completed : completeRow outcome (digestAttempts sent) worker begun
    (retryAt later (digestAttempts sent)) (sent.map ClaimedRow.id) id row with
  | none =>
      refine ⟨row, rfl, ?_⟩
      rw [if_neg]
      intro flying
      rw [completeRow, if_pos flying] at completed
      cases completed
  | some new =>
      refine ⟨new, rfl, ?_⟩
      rw [if_pos]
      · exact judgedTogether_of_rejected rejected completed
      · by_contra landed
        rw [completeRow, if_neg landed] at completed
        cases completed

/-- The completion, behind the answer to the call. -/
theorem along_completeEmail {sent : List ClaimedRow} {attemptId : String}
    {outcome : SendOutcome} {answer : Act} {call : Call} (part : sent.Sublist rows)
    (nonempty : sent ≠ []) (label : answer.label = .outcome call)
    (input : answer.input = .outcome outcome)
    (called : call.channel = channel ∧ call.worker = worker ∧
      call.rowIds = sent.map ClaimedRow.id)
    (answered : AnsweredBy answer past) :
    (completeEmail channel sent worker attemptId outcome).Along
      (CompletesTogether channel rows worker) (fun _ => AllCompleted) past := by
  unfold completeEmail
  apply along_behind (fun _ _ => AnsweredBy.cons) (forall_quiet rfl) answered
  intro begun past answered
  apply along_behind (fun _ _ => AnsweredBy.cons) (forall_quiet rfl) answered
  intro _ past answered
  -- the second clock is read by the action right before the update
  refine ⟨completesTogether_of_quiet _ _ _ rfl, ?_⟩
  rintro reading _ _ ⟨⟩
  refine ⟨?_, ?_⟩
  · rintro other owner ids phase ⟨⟩
    refine ⟨rfl, rfl, sent, answer, _, call, outcome, part, nonempty, rfl,
      ⟨answered.mem, label, input⟩, called, rfl, rfl, ?_⟩
    intro rejected before input after acted id row seen
    exact judged_completeUpdate rejected acted seen
  · intro before _ after _
    apply along_quiet (fun _ _ => AllCompleted.cons)
    · apply Program.Forall.bind (Program.forall_ret ())
      intro _
      apply Program.Forall.bind (forall_when (forall_quiet rfl))
      exact fun _ => forall_quiet rfl
    · apply AnsweredBy.allCompleted (AnsweredBy.cons rfl answered) label
      rw [called.1, called.2.1, called.2.2]

/-- The call, its answer and its completion. -/
theorem along_sendEmail {sent : List ClaimedRow} {attemptId : String} (part : sent.Sublist rows)
    (unanswered : Unanswered past) :
    (sendEmail channel sent worker attemptId).Along (CompletesTogether channel rows worker)
      (fun _ => AllCompleted) past := by
  unfold sendEmail
  split
  · exact along_quiet (fun _ _ => AllCompleted.cons) (forall_quiet rfl) unanswered.allCompleted
  · rename_i email composed
    have nonempty : sent ≠ [] := by
      rintro rfl
      cases channel with
      | system => cases composed
      | subscriber => cases composed
    refine ⟨completesTogether_of_quiet _ _ _ rfl, ?_⟩
    intro before _ after _
    refine ⟨?_, ?_⟩
    · rintro other owner ids phase ⟨⟩
    · intro asked input told answered
      cases input with
      | outcome outcome =>
          exact along_completeEmail part nonempty rfl rfl ⟨rfl, rfl, rfl⟩
            ⟨[], _, rfl, fun _ member => absurd member List.not_mem_nil, unanswered.cons rfl⟩
      | _ => cases answered

theorem along_dispatchEmail (unanswered : Unanswered past) :
    (dispatchEmail channel rows worker).Along (CompletesTogether channel rows worker)
      (fun _ => AllCompleted) past := by
  unfold dispatchEmail
  apply along_behind (fun _ _ => Unanswered.cons) (forall_quiet rfl) unanswered
  intro now past unanswered
  apply along_behind (fun _ _ => Unanswered.cons) (forall_quiet rfl) unanswered
  intro valid past unanswered
  apply along_behind (fun _ _ => Unanswered.cons) (forall_when (forall_quiet rfl)) unanswered
  intro _ past unanswered
  split
  · apply along_quiet (fun _ _ => AllCompleted.cons) _ unanswered.allCompleted
    exact Program.Forall.bind (forall_when (forall_quiet rfl)) fun _ => forall_quiet rfl
  · apply along_behind (fun _ _ => Unanswered.cons) (forall_quiet rfl) unanswered
    intro attemptId past unanswered
    apply along_behind (fun _ _ => Unanswered.cons) (forall_quiet rfl) unanswered
    intro _ past unanswered
    apply along_behind (fun _ _ => Unanswered.cons) (forall_quiet rfl) unanswered
    intro _ past unanswered
    apply along_behind (fun _ _ => Unanswered.cons) (forall_quiet rfl) unanswered
    intro _ past unanswered
    exact along_sendEmail List.filter_sublist unanswered

end

/-! ## Rows of different ages -/

/-- Two rows for one slot, of which the older one was tried four times. -/
def mixedHost : Host :=
  { digestHost with
    outbox := fun channel =>
      match channel with
      | .system => .empty
      | .subscriber => VersionedTable.commit (.work (.worker "")) <|
          VersionedTable.insert (.work (.worker "")) "new"
            { systemEmail "a@example.com" "" "" "b" 0 none with
              subscriptionId := "subscription"
              eventKey := "slot"
              venueId := "szw" } <|
          .singleton "old"
            { systemEmail "a@example.com" "" "" "b" 0 none with
              subscriptionId := "subscription"
              eventKey := "slot"
              venueId := "szw"
              status := .retry
              attemptCount := 4 } }

/-- The provider rejects the call and the worker completes it. -/
def rejectedCall (worker : String) : List (Move Host Input Label Actor) :=
  .act (.worker worker) (.outcome (.raised (.provider "LimitExceeded"))) ::
    System.acts (.worker worker) .none 6

/-- The row was given up after a rejection of a digest with it, before its last attempt. -/
def givenUpEarly (id : String) (host : Host) : Bool :=
  (host.notification id).base.any (fun row =>
      decide (row.status = .failed) && decide (row.attemptCount < maxAttempts)) &&
    host.log.any fun event =>
      match event with
      | .ended call outcome => outcome.rejected && decide (call.channel = .subscriber) &&
          decide (id ∈ call.rowIds)
      | _ => false

theorem legal_rejectedCall (worker : String) :
    ∀ move ∈ rejectedCall worker, (hostSystem plainDigests anySettings).Legal move := by
  simp only [rejectedCall, List.forall_mem_cons]
  exact ⟨trivial, System.legal_acts⟩

end TennisAlerts.HostCore
