import TennisAlerts.Properties.LedgerProtocol

/-!
# One submission for each idempotency key

The history of the sender shows at most one request that passes the checkpoint
of a key, whatever the requests, crashes and ledger failures.  That this request
is also the only one to click needs the device lock: two requests of one process
without it share the warm operator and its progress object, and the checkpoint
of one lets the other click.
-/

namespace TennisAlerts.Sender

open TennisAlerts.Concurrent

/-! ## Assertions of a handler -/

section

variable (locked : Bool) (handler : Handler) (ticket : Nat) (key : String) (agent : Agent)

/-- The device lock is held, where there is one. -/
def Holding : Prop :=
  locked = true → agent.deviceLock handler.process = some handler

/-- The operator refers to the progress of the request. -/
def Uses (operator : OperatorId) : Prop :=
  locked = true → agent.operatorProgress operator = ticket

/-- The request was received and has neither clicked nor answered. -/
structure Unclicked : Prop where
  owns : Owns handler ticket agent
  unclicked : ∀ key, .clicked ticket key ∉ agent.log
  unanswered : ∀ reply, .responded ticket reply ∉ agent.log

/-- The request has not reached the ledger. -/
structure Waiting : Prop extends Unclicked handler ticket agent where
  unclaimed : ∀ key hash answer, .claimed ticket key hash answer ∉ agent.log

/-- The request claimed its key; a click shows in its progress. -/
structure Sending : Prop where
  owns : Owns handler ticket agent
  unanswered : ∀ reply, .responded ticket reply ∉ agent.log
  claimed : ∃ hash, .claimed ticket key hash .claimed ∈ agent.log
  started : locked = true → ∀ other, .clicked ticket other ∈ agent.log →
    (agent.progress ticket).submissionStarted = true

/-- A started submission has passed the checkpoint. -/
structure Running : Prop extends Sending locked handler ticket key agent where
  checkpoint : locked = true → (agent.progress ticket).key = key
  passed : locked = true → (agent.progress ticket).submissionStarted = true →
    .passed ticket key ∈ agent.log

/-- The answer is settled: after a click it does not invite a retry. -/
structure Settled (reply : Reply) : Prop where
  owns : Owns handler ticket agent
  unanswered : ∀ reply, .responded ticket reply ∉ agent.log
  final : locked = true → ∀ key, .clicked ticket key ∈ agent.log → reply.final

end

section

variable {locked : Bool} {handler : Handler} {ticket : Nat} {key : String}
  {before after agent : Agent}

theorem Owns.stable (owns : Owns handler ticket before)
    (relied : SenderRely locked handler before after) : Owns handler ticket after := by
  obtain ⟨request, member⟩ := owns
  exact ⟨request, (relied.own ticket ⟨request, member⟩ _ rfl).mpr member⟩

theorem stable_true : (senderProtocol locked).Stable handler fun _ => True :=
  fun _ _ _ _ _ _ => trivial

theorem stable_holding :
    (senderProtocol locked).Stable handler (Holding locked handler) := by
  intro before after _ _ relied holds isLocked
  exact relied.lock (holds isLocked)

theorem stable_uses {operator : OperatorId} (own : operator.process = handler.process) :
    (senderProtocol locked).Stable handler fun agent =>
      Holding locked handler agent ∧ Uses locked ticket agent operator := by
  rintro before after beforeInv afterInv relied ⟨holds, uses⟩
  refine ⟨stable_holding beforeInv afterInv relied holds, ?_⟩
  intro isLocked
  rw [relied.operators isLocked (holds isLocked) operator own]
  exact uses isLocked

theorem stable_unclicked :
    (senderProtocol locked).Stable handler (Unclicked handler ticket) := by
  intro before after _ _ relied holds
  have own := relied.own ticket holds.owns
  constructor
  · exact holds.owns.stable relied
  · exact fun other member => holds.unclicked other ((own _ rfl).mp member)
  · exact fun reply member => holds.unanswered reply ((own _ rfl).mp member)

theorem stable_waiting :
    (senderProtocol locked).Stable handler (Waiting handler ticket) := by
  intro before after beforeInv afterInv relied holds
  have own := relied.own ticket holds.owns
  refine ⟨stable_unclicked beforeInv afterInv relied holds.toUnclicked, ?_⟩
  exact fun key hash answer member => holds.unclaimed key hash answer ((own _ rfl).mp member)

theorem stable_sending :
    (senderProtocol locked).Stable handler (Sending locked handler ticket key) := by
  intro before after _ _ relied holds
  have own := relied.own ticket holds.owns
  constructor
  · exact holds.owns.stable relied
  · exact fun reply member => holds.unanswered reply ((own _ rfl).mp member)
  · obtain ⟨hash, claimed⟩ := holds.claimed
    exact ⟨hash, (own _ rfl).mpr claimed⟩
  · intro isLocked other member
    rw [relied.progress isLocked ticket holds.owns]
    exact holds.started isLocked other ((own _ rfl).mp member)

theorem stable_running :
    (senderProtocol locked).Stable handler (Running locked handler ticket key) := by
  intro before after beforeInv afterInv relied holds
  refine ⟨stable_sending beforeInv afterInv relied holds.toSending, ?_, ?_⟩
  · intro isLocked
    rw [relied.progress isLocked ticket holds.owns]
    exact holds.checkpoint isLocked
  · intro isLocked started
    rw [relied.progress isLocked ticket holds.owns] at started
    exact (relied.own ticket holds.owns _ rfl).mpr (holds.passed isLocked started)

theorem stable_settled {reply : Reply} :
    (senderProtocol locked).Stable handler
      (fun agent => Settled locked handler ticket agent reply) := by
  intro before after _ _ relied holds
  have own := relied.own ticket holds.owns
  constructor
  · exact holds.owns.stable relied
  · exact fun other member => holds.unanswered other ((own _ rfl).mp member)
  · exact fun isLocked other member => holds.final isLocked other ((own _ rfl).mp member)

theorem Unclicked.settled (holds : Unclicked handler ticket agent) (reply : Reply) :
    Settled locked handler ticket agent reply where
  owns := holds.owns
  unanswered := holds.unanswered
  final _ other member := absurd member (holds.unclicked other)

/-! ## Single actions -/

theorem SenderMove.still : SenderMove locked handler agent agent where
  rows _ := .same
  log := Or.inl rfl
  warm _ _ warm := Or.inl warm
  progress _ _ := Or.inl rfl
  lock _ _ held := held
  operators _ _ := Or.inl rfl

theorem SenderMove.record {event : Event} (justified :
    Justified locked handler agent (agent.record event) event) :
    SenderMove locked handler agent (agent.record event) where
  rows _ := .same
  log := Or.inr ⟨event, rfl, justified⟩
  warm _ _ warm := Or.inl warm
  progress _ _ := Or.inl rfl
  lock _ _ held := held
  operators _ _ := Or.inl rfl

/-- The progress of the handler's own request changes. -/
theorem SenderMove.ofProgress {target : Nat} {change : Progress → Progress}
    (own : locked = true → Owns handler target agent) :
    SenderMove locked handler agent (agent.onProgress target change) where
  rows _ := .same
  log := Or.inl rfl
  warm _ _ warm := Or.inl warm
  progress isLocked other := by
    by_cases same : other = target
    · subst same
      exact Or.inr (own isLocked)
    · exact Or.inl (Function.update_of_ne same _ _)
  lock _ _ held := held
  operators _ _ := Or.inl rfl

theorem SenderMove.ofLedger {ledger : Ledger}
    (rows : ∀ key, RowChange (agent.ledger key) (ledger key)) :
    SenderMove locked handler agent { agent with ledger := ledger } where
  rows := rows
  log := Or.inl rfl
  warm _ _ warm := Or.inl warm
  progress _ _ := Or.inl rfl
  lock _ _ held := held
  operators _ _ := Or.inl rfl

theorem SenderMove.discard {process : String} :
    SenderMove locked handler agent (agent.discardWarmOperator process) where
  rows _ := .same
  log := Or.inl rfl
  warm other operator warm := by
    change Function.update agent.warm process none other = some operator at warm
    by_cases same : other = process
    · subst same
      rw [Function.update_self] at warm
      cases warm
    · rw [Function.update_of_ne same] at warm
      exact Or.inl warm
  progress _ _ := Or.inl rfl
  lock _ _ held := held
  operators _ _ := Or.inl rfl

variable {α : Type} {pre : Agent → Prop} {post : α → Agent → Prop}

/-- The rule for an action that is a move. -/
theorem valid_move {label : Label} {action : Agent → Input → Option Agent}
    {next : Agent → Input → Script α} (middle : Agent → Input → Agent → Prop)
    (stable : (senderProtocol locked).Stable handler pre)
    (moves : ∀ before input after, SenderInvariant locked before → pre before →
      action before input = some after →
      SenderMove locked handler before after ∧ middle before input after)
    (rest : ∀ before input, (senderProtocol locked).Valid System.anyAction handler
      (middle before input) (next before input) post) :
    (senderProtocol locked).Valid System.anyAction handler pre (.act label action next) post := by
  apply Protocol.valid_act middle stable _ rest
  intro before input after invariant holds _ acted
  obtain ⟨move, reached⟩ := moves before input after invariant holds acted
  exact ⟨move.invariant invariant, move.guarantees invariant, reached⟩

/-- The rule for an action whose continuation only returns a value. -/
theorem valid_last {label : Label} {action : Agent → Input → Option Agent}
    {value : Agent → Input → α} (stable : (senderProtocol locked).Stable handler pre)
    (moves : ∀ before input after, SenderInvariant locked before → pre before →
      action before input = some after →
      SenderMove locked handler before after ∧ post (value before input) after) :
    (senderProtocol locked).Valid System.anyAction handler pre
      (.act label action fun agent input => .ret (value agent input)) post := by
  apply valid_move (fun before input after => post (value before input) after) stable moves
  exact fun _ _ => Protocol.valid_ret fun _ _ holds => holds

theorem valid_perform {action : Agent → Agent} {done : Agent → Prop}
    (stable : (senderProtocol locked).Stable handler pre)
    (moves : ∀ before, SenderInvariant locked before → pre before →
      SenderMove locked handler before (action before) ∧ done (action before)) :
    (senderProtocol locked).Valid System.anyAction handler pre
      (Script.perform fun agent => some (action agent)) fun _ => done := by
  apply valid_last stable
  rintro before input after invariant holds ⟨⟩
  exact moves before invariant holds

theorem valid_awaitRaised (stable : (senderProtocol locked).Stable handler pre) :
    (senderProtocol locked).Valid System.anyAction handler pre Script.awaitRaised
      fun _ => pre := by
  apply valid_last stable
  intro before input after _ holds acted
  cases input with
  | raised error =>
      cases acted
      exact ⟨.still, holds⟩
  | _ => cases acted

theorem valid_awaitFlag (stable : (senderProtocol locked).Stable handler pre) :
    (senderProtocol locked).Valid System.anyAction handler pre Script.awaitFlag
      fun _ => pre := by
  apply valid_last stable
  intro before input after _ holds acted
  cases input with
  | flag value =>
      cases acted
      exact ⟨.still, holds⟩
  | _ => cases acted

/-! ## Sending -/

section

variable {operator : OperatorId}

/-- What a request knows while it works with its operator. -/
def Working (locked : Bool) (handler : Handler) (ticket : Nat) (key : String)
    (operator : OperatorId) (agent : Agent) : Prop :=
  Running locked handler ticket key agent ∧ Holding locked handler agent ∧
    Uses locked ticket agent operator

/-- A request that may click next. -/
def Cleared (locked : Bool) (handler : Handler) (ticket : Nat) (key : String)
    (operator : OperatorId) (agent : Agent) : Prop :=
  Working locked handler ticket key operator agent ∧
    (locked = true → (agent.progress ticket).submissionStarted = true)

/-- What is left of it after an exception. -/
def Failed (locked : Bool) (handler : Handler) (ticket : Nat) (key : String)
    (agent : Agent) : Prop :=
  Sending locked handler ticket key agent ∧ Holding locked handler agent

theorem stable_working (own : operator.process = handler.process) :
    (senderProtocol locked).Stable handler (Working locked handler ticket key operator) :=
  stable_running.and (stable_uses own)

theorem stable_cleared (own : operator.process = handler.process) :
    (senderProtocol locked).Stable handler (Cleared locked handler ticket key operator) := by
  rintro before after beforeInv afterInv relied ⟨working, started⟩
  refine ⟨stable_working own beforeInv afterInv relied working, ?_⟩
  intro isLocked
  rw [relied.progress isLocked ticket working.1.owns]
  exact started isLocked

theorem stable_failed :
    (senderProtocol locked).Stable handler (Failed locked handler ticket key) :=
  stable_sending.and stable_holding

theorem Working.failed (working : Working locked handler ticket key operator agent) :
    Failed locked handler ticket key agent :=
  ⟨working.1.toSending, working.2.1⟩

/-- The progress that `submitting` and `confirm` change is the request's own. -/
theorem Working.ownProgress (working : Working locked handler ticket key operator agent)
    (isLocked : locked = true) : Owns handler (agent.operatorProgress operator) agent := by
  rw [working.2.2 isLocked]
  exact working.1.owns

/-- After the first half of `submitting` the checkpoint is still to be marked. -/
def Marking (locked : Bool) (handler : Handler) (ticket : Nat) (key marked : String)
    (operator : OperatorId) (agent : Agent) : Prop :=
  Failed locked handler ticket key agent ∧ Uses locked ticket agent operator ∧
    (locked = true → marked = key ∧ (agent.progress ticket).key = key ∧
      (agent.progress ticket).submissionStarted = true)

theorem stable_marking {marked : String} (own : operator.process = handler.process) :
    (senderProtocol locked).Stable handler
      (Marking locked handler ticket key marked operator) := by
  rintro before after beforeInv afterInv relied ⟨⟨sending, holds⟩, uses, progress⟩
  have held := stable_uses own beforeInv afterInv relied ⟨holds, uses⟩
  refine ⟨⟨stable_sending beforeInv afterInv relied sending, held.1⟩, held.2, ?_⟩
  intro isLocked
  rw [relied.progress isLocked ticket sending.owns]
  exact progress isLocked

theorem valid_beginSubmission (own : operator.process = handler.process) :
    (senderProtocol locked).Valid System.anyAction handler
      (Working locked handler ticket key operator) (beginSubmission operator)
      fun marked agent => match marked with
        | none => Cleared locked handler ticket key operator agent
        | some marked => Marking locked handler ticket key marked operator agent := by
  apply valid_last (stable_working own)
  rintro before input after _ working ⟨⟩
  refine ⟨.ofProgress working.ownProgress, ?_⟩
  obtain ⟨running, holds, uses⟩ := working
  -- with the lock the operator refers to this request, so its own flag was set
  have progress : locked = true →
      (before.onProgress (before.operatorProgress operator) Progress.start).progress ticket =
        (before.progress ticket).start := by
    intro isLocked
    rw [uses isLocked, Agent.progress_onProgress]
  have sending : Sending locked handler ticket key
      (before.onProgress (before.operatorProgress operator) Progress.start) := by
    refine ⟨running.owns, running.unanswered, running.claimed, ?_⟩
    intro isLocked other _
    rw [progress isLocked]
    rfl
  by_cases started : (before.progress (before.operatorProgress operator)).submissionStarted
  · rw [if_pos started]
    refine ⟨⟨⟨sending, ?_, ?_⟩, holds, uses⟩, ?_⟩
    · intro isLocked
      rw [progress isLocked]
      exact running.checkpoint isLocked
    · intro isLocked _
      rw [uses isLocked] at started
      exact running.passed isLocked started
    · intro isLocked
      rw [progress isLocked]
      rfl
  · rw [if_neg started]
    refine ⟨⟨sending, holds⟩, uses, ?_⟩
    intro isLocked
    rw [progress isLocked, uses isLocked]
    exact ⟨running.checkpoint isLocked, running.checkpoint isLocked, rfl⟩

theorem valid_markSubmitting {marked : String} (own : operator.process = handler.process) :
    (senderProtocol locked).Valid System.anyAction handler
      (Marking locked handler ticket key marked operator)
      (Script.markSubmitting ticket marked)
      fun returned agent => if returned then Cleared locked handler ticket key operator agent
        else Failed locked handler ticket key agent := by
  apply valid_last (stable_marking own)
  rintro before input after _ ⟨⟨sending, holds⟩, uses, progress⟩ acted
  have failed : Failed locked handler ticket key before := ⟨sending, holds⟩
  cases input with
  | fault fault =>
      cases fault with
      | before =>
          cases acted
          exact ⟨.still, failed⟩
      | none =>
          dsimp only at acted
          cases crossed : before.ledger.markSubmitting marked
              (currentTimestamp before.clock) with
          | none =>
              rw [crossed] at acted
              cases acted
              exact ⟨.still, failed⟩
          | some ledger =>
              rw [crossed] at acted
              cases acted
              refine ⟨⟨fun _ => Ledger.rowChange_markSubmitting crossed,
                Or.inr ⟨_, rfl, sending.owns, _, crossed⟩, fun _ _ warm => Or.inl warm,
                fun _ _ => Or.inl rfl, fun _ _ held => held, fun _ _ => Or.inl rfl⟩, ?_⟩
              obtain ⟨request, received⟩ := sending.owns
              obtain ⟨hash, claimed⟩ := sending.claimed
              have sending' : Sending locked handler ticket key
                  ({ before with ledger := ledger }.record (.passed ticket marked)) := by
                constructor
                · exact ⟨request, List.mem_cons_of_mem _ received⟩
                · intro reply member
                  rcases List.mem_cons.mp member with impossible | old
                  · cases impossible
                  · exact sending.unanswered reply old
                · exact ⟨hash, List.mem_cons_of_mem _ claimed⟩
                · intro isLocked other member
                  rcases List.mem_cons.mp member with impossible | old
                  · cases impossible
                  · exact sending.started isLocked other old
              refine ⟨⟨⟨sending', ?_, ?_⟩, holds, uses⟩, ?_⟩
              · exact fun isLocked => (progress isLocked).2.1
              · intro isLocked _
                rw [← (progress isLocked).1]
                exact List.mem_cons_self
              · exact fun isLocked => (progress isLocked).2.2
      | after =>
          dsimp only at acted
          cases crossed : before.ledger.markSubmitting marked
              (currentTimestamp before.clock) with
          | none =>
              rw [crossed] at acted
              cases acted
              exact ⟨.still, failed⟩
          | some ledger =>
              rw [crossed] at acted
              cases acted
              exact ⟨.ofLedger fun _ => Ledger.rowChange_markSubmitting crossed,
                ⟨sending.owns, sending.unanswered, sending.claimed, sending.started⟩, holds⟩
  | _ => cases acted

theorem valid_submitting (own : operator.process = handler.process) :
    (senderProtocol locked).Valid System.anyAction handler
      (Working locked handler ticket key operator) (submitting ticket operator)
      fun returned agent => if returned then Cleared locked handler ticket key operator agent
        else Failed locked handler ticket key agent := by
  apply Protocol.Valid.bind _ (valid_beginSubmission own)
  intro marked
  cases marked with
  | none => exact Protocol.valid_ret fun _ _ cleared => cleared
  | some marked => exact valid_markSubmitting own

theorem valid_click (own : operator.process = handler.process) :
    (senderProtocol locked).Valid System.anyAction handler
      (Cleared locked handler ticket key operator) (click ticket key)
      fun _ => Working locked handler ticket key operator := by
  apply valid_perform (stable_cleared own)
  rintro before _ ⟨⟨running, holds, uses⟩, started⟩
  refine ⟨.record ⟨running.owns, running.claimed, ?_, running.unanswered⟩, ⟨⟨?_, ?_, ?_⟩,
    holds, uses⟩⟩
  · exact fun isLocked => running.passed isLocked (started isLocked)
  · obtain ⟨request, received⟩ := running.owns
    obtain ⟨hash, claimed⟩ := running.claimed
    constructor
    · exact ⟨request, List.mem_cons_of_mem _ received⟩
    · intro reply member
      rcases List.mem_cons.mp member with impossible | old
      · cases impossible
      · exact running.unanswered reply old
    · exact ⟨hash, List.mem_cons_of_mem _ claimed⟩
    · exact fun isLocked _ _ => started isLocked
  · exact running.checkpoint
  · exact fun isLocked began => List.mem_cons_of_mem _ (running.passed isLocked began)

theorem valid_confirm (own : operator.process = handler.process) :
    (senderProtocol locked).Valid System.anyAction handler
      (Working locked handler ticket key operator) (confirm operator)
      fun _ => Working locked handler ticket key operator := by
  apply valid_perform (stable_working own)
  intro before _ working
  refine ⟨.ofProgress working.ownProgress, ?_⟩
  obtain ⟨running, holds, uses⟩ := working
  have progress : locked = true →
      (before.onProgress (before.operatorProgress operator) Progress.confirm).progress ticket =
        (before.progress ticket).confirm := by
    intro isLocked
    rw [uses isLocked, Agent.progress_onProgress]
  refine ⟨⟨⟨running.owns, running.unanswered, running.claimed, ?_⟩, ?_, ?_⟩, holds, uses⟩
  · intro isLocked other clicked
    rw [progress isLocked]
    exact running.started isLocked other clicked
  · intro isLocked
    rw [progress isLocked]
    exact running.checkpoint isLocked
  · intro isLocked started
    rw [progress isLocked] at started
    exact running.passed isLocked started

theorem valid_sendMessages (own : operator.process = handler.process)
    (messages : List String) :
    (senderProtocol locked).Valid System.anyAction handler
      (Working locked handler ticket key operator) (sendMessages ticket key operator messages)
      fun _ => Failed locked handler ticket key := by
  induction messages with
  | nil => exact Protocol.valid_ret fun _ _ working => working.failed
  | cons message messages ih =>
      apply Protocol.Valid.bind _ (valid_awaitRaised (stable_working own))
      intro raised
      cases raised with
      | some error => exact Protocol.valid_ret fun _ _ working => working.failed
      | none =>
          apply Protocol.Valid.bind _ (valid_submitting own)
          intro returned
          cases returned with
          | false => exact Protocol.valid_ret fun _ _ failed => failed
          | true =>
              apply Protocol.Valid.bind _ (valid_click own)
              intro _
              apply Protocol.Valid.bind _ (valid_awaitRaised (stable_working own))
              intro raised
              cases raised with
              | some error => exact Protocol.valid_ret fun _ _ working => working.failed
              | none =>
                  apply Protocol.Valid.bind _ (valid_confirm own)
                  exact fun _ => ih

end

/-! ## Whole requests -/

/-- What a request knows while it has no operator yet. -/
def Starting (locked : Bool) (handler : Handler) (ticket : Nat) (key : String)
    (agent : Agent) : Prop :=
  Running locked handler ticket key agent ∧ Holding locked handler agent

theorem stable_starting :
    (senderProtocol locked).Stable handler (Starting locked handler ticket key) :=
  stable_running.and stable_holding

theorem Starting.failed (starting : Starting locked handler ticket key agent) :
    Failed locked handler ticket key agent :=
  ⟨starting.1.toSending, starting.2⟩

theorem valid_newOperator :
    (senderProtocol locked).Valid System.anyAction handler
      (Starting locked handler ticket key) (newOperator handler.process)
      fun operator agent => Starting locked handler ticket key agent ∧
        operator.process = handler.process := by
  apply valid_last stable_starting
  rintro before input after _ ⟨running, holds⟩ ⟨⟩
  exact ⟨⟨fun _ => .same, Or.inl rfl, fun _ _ warm => Or.inl warm, fun _ _ => Or.inl rfl,
    fun _ _ held => held, fun _ _ => Or.inl rfl⟩,
    ⟨⟨⟨running.owns, running.unanswered, running.claimed, running.started⟩,
      running.checkpoint, running.passed⟩, holds⟩, rfl⟩

theorem valid_chooseOperator {existing : Option OperatorId}
    (own : ∀ operator, existing = some operator → operator.process = handler.process) :
    (senderProtocol locked).Valid System.anyAction handler
      (Starting locked handler ticket key) (chooseOperator handler.process existing)
      fun operator agent => Starting locked handler ticket key agent ∧
        operator.process = handler.process := by
  cases existing with
  | none => exact valid_newOperator
  | some operator =>
      apply Protocol.Valid.bind _ (valid_awaitFlag stable_starting)
      intro usable
      cases usable with
      | false => exact valid_newOperator
      | true => exact Protocol.valid_ret fun _ _ starting => ⟨starting, own operator rfl⟩

theorem valid_assignProgress {operator : OperatorId} (own : operator.process = handler.process) :
    (senderProtocol locked).Valid System.anyAction handler
      (Starting locked handler ticket key) (assignProgress operator ticket)
      fun _ => Working locked handler ticket key operator := by
  apply valid_perform stable_starting
  rintro before _ ⟨running, holds⟩
  refine ⟨⟨fun _ => .same, Or.inl rfl, fun _ _ warm => Or.inl warm, fun _ _ => Or.inl rfl,
    fun _ _ held => held, ?_⟩, ⟨⟨running.owns, running.unanswered, running.claimed,
      running.started⟩, running.checkpoint, running.passed⟩, holds, ?_⟩
  · intro isLocked other
    by_cases same : other = operator
    · subst same
      rw [own]
      exact Or.inr (holds isLocked)
    · exact Or.inl (Function.update_of_ne same _ _)
  · intro _
    exact Function.update_self _ _ _

/-- The operator that stays warm belongs to the process. -/
def Finished (locked : Bool) (handler : Handler) (ticket : Nat) (key : String)
    (result : Except SendError (Option OperatorId)) (agent : Agent) : Prop :=
  Failed locked handler ticket key agent ∧
    ∀ operator, result = .ok (some operator) → operator.process = handler.process

theorem valid_sendTextMessages {existing : Option OperatorId} {messages : List String}
    (own : ∀ operator, existing = some operator → operator.process = handler.process) :
    (senderProtocol locked).Valid System.anyAction handler
      (Starting locked handler ticket key)
      (sendTextMessages ticket key handler.process existing messages)
      (Finished locked handler ticket key) := by
  apply Protocol.Valid.bind _ (valid_awaitRaised stable_starting)
  intro raised
  cases raised with
  | some error => exact Protocol.valid_ret fun _ _ starting => ⟨starting.failed, by rintro _ ⟨⟩⟩
  | none =>
      apply Protocol.Valid.bind _ (valid_chooseOperator own)
      intro operator
      apply Protocol.valid_of_fact
      intro ownOperator
      apply Protocol.Valid.bind _ (valid_assignProgress ownOperator)
      intro _
      apply Protocol.Valid.bind _ (valid_awaitRaised (stable_working ownOperator))
      intro raised
      cases raised with
      | some error =>
          exact Protocol.valid_ret fun _ _ working => ⟨working.failed, by rintro _ ⟨⟩⟩
      | none =>
          apply Protocol.Valid.bind _ (valid_sendMessages ownOperator messages)
          intro raised
          cases raised with
          | some error => exact Protocol.valid_ret fun _ _ failed => ⟨failed, by rintro _ ⟨⟩⟩
          | none =>
              apply Protocol.Valid.bind _ (valid_awaitFlag stable_failed)
              intro warm
              cases warm with
              | false => exact Protocol.valid_ret fun _ _ failed => ⟨failed, by rintro _ ⟨⟩⟩
              | true =>
                  refine Protocol.valid_ret fun _ _ failed => ⟨failed, ?_⟩
                  rintro _ ⟨⟩
                  exact ownOperator

theorem valid_finishKey {outcome : Ledger.Outcome} {result : Payload}
    (stable : (senderProtocol locked).Stable handler pre)
    (kept : ∀ agent ledger, pre agent → pre { agent with ledger := ledger }) :
    (senderProtocol locked).Valid System.anyAction handler pre
      (Script.finishKey key outcome result) fun _ => pre := by
  apply valid_last stable
  intro before input after _ holds acted
  cases input with
  | fault fault =>
      cases fault with
      | before =>
          cases acted
          exact ⟨.still, holds⟩
      | none =>
          cases acted
          exact ⟨.ofLedger fun _ => Ledger.rowChange_finish, kept _ _ holds⟩
      | after =>
          cases acted
          exact ⟨.ofLedger fun _ => Ledger.rowChange_finish, kept _ _ holds⟩
  | _ => cases acted

/-- The answer of the branch is settled and the lock still held. -/
def Replied (locked : Bool) (handler : Handler) (ticket : Nat) (reply : Reply)
    (agent : Agent) : Prop :=
  Settled locked handler ticket agent reply ∧ Holding locked handler agent

theorem stable_replied {reply : Reply} :
    (senderProtocol locked).Stable handler (Replied locked handler ticket reply) :=
  stable_settled.and stable_holding

theorem final_submissionUnknown {status : Nat} :
    (jsonError status "submission_unknown").final := by
  refine ⟨rfl, ?_⟩
  rintro _ ⟨⟩
  decide

theorem final_success {messages : List String} :
    Reply.final ⟨200, successPayload messages⟩ :=
  ⟨rfl, by rintro _ ⟨⟩⟩

theorem final_failure {status : Nat} {error : SendError} {outcome : Ledger.Outcome}
    {progress : Progress} (started : progress.submissionStarted = true) :
    Reply.final ⟨status, failurePayload error outcome progress⟩ := by
  refine ⟨by simp [failurePayload, started], ?_⟩
  rintro _ ⟨⟩
  cases error <;> decide

theorem valid_failSend {error : SendError} :
    (senderProtocol locked).Valid System.anyAction handler
      (Failed locked handler ticket key) (failSend ticket key handler.process error)
      (Replied locked handler ticket) := by
  apply Protocol.Valid.bind (fun _ => Failed locked handler ticket key)
  · apply valid_perform stable_failed
    rintro before _ ⟨sending, holds⟩
    exact ⟨.discard, ⟨sending.owns, sending.unanswered, sending.claimed, sending.started⟩,
      holds⟩
  · intro _
    -- the progress that is read shows every click of the request
    apply Protocol.Valid.bind (fun progress agent => Failed locked handler ticket key agent ∧
      (locked = true → ∀ other, .clicked ticket other ∈ agent.log →
        progress.submissionStarted = true))
    · apply valid_last stable_failed
      rintro before input after _ failed ⟨⟩
      exact ⟨.still, failed, failed.1.started⟩
    · intro progress
      have stable : (senderProtocol locked).Stable handler fun agent =>
          Failed locked handler ticket key agent ∧
            (locked = true → ∀ other, .clicked ticket other ∈ agent.log →
              progress.submissionStarted = true) := by
        rintro before after beforeInv afterInv relied ⟨failed, shown⟩
        refine ⟨stable_failed beforeInv afterInv relied failed, ?_⟩
        intro isLocked other clicked
        exact shown isLocked other ((relied.own ticket failed.1.owns _ rfl).mp clicked)
      apply Protocol.Valid.bind _ (valid_finishKey stable ?_)
      · intro returned
        cases returned with
        | true =>
            refine Protocol.valid_ret fun _ _ holds => ⟨⟨holds.1.1.owns, holds.1.1.unanswered,
              ?_⟩, holds.1.2⟩
            exact fun isLocked other clicked => final_failure (holds.2 isLocked other clicked)
        | false =>
            exact Protocol.valid_ret fun _ _ holds => ⟨⟨holds.1.1.owns, holds.1.1.unanswered,
              fun _ _ _ => final_submissionUnknown⟩, holds.1.2⟩
      · rintro agent ledger ⟨⟨sending, holds⟩, shown⟩
        exact ⟨⟨⟨sending.owns, sending.unanswered, sending.claimed, sending.started⟩, holds⟩,
          shown⟩

theorem valid_completeSend {operator : Option OperatorId} {messages : List String}
    (own : ∀ kept, operator = some kept → kept.process = handler.process) :
    (senderProtocol locked).Valid System.anyAction handler
      (Failed locked handler ticket key) (completeSend key handler.process operator messages)
      (Replied locked handler ticket) := by
  apply Protocol.Valid.bind (fun _ => Failed locked handler ticket key)
  · apply valid_perform stable_failed
    rintro before _ ⟨sending, holds⟩
    refine ⟨⟨fun _ => .same, Or.inl rfl, ?_, fun _ _ => Or.inl rfl, fun _ _ held => held,
      fun _ _ => Or.inl rfl⟩, ⟨sending.owns, sending.unanswered, sending.claimed,
        sending.started⟩, holds⟩
    intro process kept warm
    dsimp only at warm
    by_cases same : process = handler.process
    · subst same
      rw [Function.update_self] at warm
      exact Or.inr (own kept warm)
    · rw [Function.update_of_ne same] at warm
      exact Or.inl warm
  · intro _
    apply Protocol.Valid.bind _ (valid_finishKey stable_failed ?_)
    · intro returned
      cases returned with
      | true =>
          exact Protocol.valid_ret fun _ _ holds => ⟨⟨holds.1.owns, holds.1.unanswered,
            fun _ _ _ => final_success⟩, holds.2⟩
      | false =>
          exact Protocol.valid_ret fun _ _ holds => ⟨⟨holds.1.owns, holds.1.unanswered,
            fun _ _ _ => final_submissionUnknown⟩, holds.2⟩
    · rintro agent ledger ⟨sending, holds⟩
      exact ⟨⟨sending.owns, sending.unanswered, sending.claimed, sending.started⟩, holds⟩

/-- The key was just claimed. -/
def Claimed (locked : Bool) (handler : Handler) (ticket : Nat) (key : String)
    (agent : Agent) : Prop :=
  (Unclicked handler ticket agent ∧ Holding locked handler agent) ∧
    ∃ hash, .claimed ticket key hash .claimed ∈ agent.log

theorem stable_claimed :
    (senderProtocol locked).Stable handler (Claimed locked handler ticket key) := by
  rintro before after beforeInv afterInv relied ⟨⟨unclicked, holds⟩, hash, claimed⟩
  exact ⟨⟨stable_unclicked beforeInv afterInv relied unclicked,
    stable_holding beforeInv afterInv relied holds⟩,
    hash, (relied.own ticket unclicked.owns _ rfl).mpr claimed⟩

theorem valid_sendClaimed {existing : Option OperatorId} {messages : List String}
    (own : ∀ operator, existing = some operator → operator.process = handler.process) :
    (senderProtocol locked).Valid System.anyAction handler
      (Claimed locked handler ticket key)
      (sendClaimed ticket key handler.process existing messages)
      (Replied locked handler ticket) := by
  apply Protocol.Valid.bind (fun _ => Starting locked handler ticket key)
  · apply valid_perform stable_claimed
    rintro before _ ⟨⟨unclicked, holds⟩, claimed⟩
    refine ⟨.ofProgress fun _ => unclicked.owns, ⟨⟨unclicked.owns, unclicked.unanswered, claimed,
      ?_⟩, ?_, ?_⟩, holds⟩
    · exact fun _ other clicked => absurd clicked (unclicked.unclicked other)
    · exact fun _ => by rw [Agent.progress_onProgress]
    · intro _ started
      rw [Agent.progress_onProgress] at started
      cases started
  · intro _
    apply Protocol.Valid.bind _ (valid_sendTextMessages own)
    intro result
    cases result with
    | error error =>
        exact valid_failSend.mono (fun _ _ finished => finished.1) fun _ _ _ replied => replied
    | ok operator =>
        intro state invariant finished
        exact valid_completeSend (fun kept same => finished.2 kept (by rw [same]))
          state invariant finished.1

theorem valid_acquireLease (stable : (senderProtocol locked).Stable handler pre)
    (kept : ∀ agent leased, pre agent → pre { agent with leased := leased }) :
    (senderProtocol locked).Valid System.anyAction handler pre (acquireLease handler.process)
      fun _ => pre := by
  apply valid_last stable
  intro before input after _ holds acted
  cases input with
  | flag value =>
      dsimp only at acted
      split at acted
      · cases acted
        exact ⟨.still, holds⟩
      · cases acted
        exact ⟨⟨fun _ => .same, Or.inl rfl, fun _ _ warm => Or.inl warm, fun _ _ => Or.inl rfl,
          fun _ _ held => held, fun _ _ => Or.inl rfl⟩, kept _ _ holds⟩
  | raised error =>
      cases acted
      exact ⟨.still, holds⟩
  | _ => cases acted

/-- What is known of the request when `ledger.claim` returned or raised. -/
def Answered (locked : Bool) (handler : Handler) (ticket : Nat) (key : String)
    (answer : Option ClaimAnswer) (agent : Agent) : Prop :=
  (Unclicked handler ticket agent ∧ Holding locked handler agent) ∧
    (answer = some .claimed → ∃ hash, .claimed ticket key hash .claimed ∈ agent.log)

theorem Waiting.record_claimed {hash : String} {answer : ClaimAnswer} {ledger : Ledger}
    (waiting : Waiting handler ticket agent) :
    Unclicked handler ticket
      ({ agent with ledger := ledger }.record (.claimed ticket key hash answer)) := by
  obtain ⟨request, received⟩ := waiting.owns
  constructor
  · exact ⟨request, List.mem_cons_of_mem _ received⟩
  · intro other member
    rcases List.mem_cons.mp member with impossible | old
    · cases impossible
    · exact waiting.unclicked other old
  · intro reply member
    rcases List.mem_cons.mp member with impossible | old
    · cases impossible
    · exact waiting.unanswered reply old

theorem valid_claimKey {hash : String} :
    (senderProtocol locked).Valid System.anyAction handler
      (fun agent => Waiting handler ticket agent ∧ Holding locked handler agent)
      (Script.claimKey ticket key hash) (Answered locked handler ticket key) := by
  apply valid_last (stable_waiting.and stable_holding)
  rintro before input after _ ⟨waiting, holds⟩ acted
  -- the claim takes effect, whatever the request learns of it
  have claims : ∀ answer ledger,
      before.ledger.claim key hash (currentTimestamp before.clock) = some (answer, ledger) →
        SenderMove locked handler before
          ({ before with ledger := ledger }.record (.claimed ticket key hash answer)) := by
    intro answer ledger claimed
    exact ⟨fun _ => Ledger.rowChange_claim claimed,
      Or.inr ⟨_, rfl, waiting.owns, waiting.unclaimed, _, claimed⟩, fun _ _ warm => Or.inl warm,
      fun _ _ => Or.inl rfl, fun _ _ held => held, fun _ _ => Or.inl rfl⟩
  cases input with
  | fault fault =>
      cases fault with
      | before =>
          cases acted
          exact ⟨.still, ⟨waiting.toUnclicked, holds⟩, by rintro ⟨⟩⟩
      | none =>
          dsimp only at acted ⊢
          cases claimed : before.ledger.claim key hash (currentTimestamp before.clock) with
          | none =>
              rw [claimed] at acted
              cases acted
              exact ⟨.still, ⟨waiting.toUnclicked, holds⟩, by rintro ⟨⟩⟩
          | some result =>
              obtain ⟨answer, ledger⟩ := result
              rw [claimed] at acted
              cases acted
              refine ⟨claims answer ledger claimed, ⟨waiting.record_claimed, holds⟩, ?_⟩
              rintro ⟨⟩
              exact ⟨hash, List.mem_cons_self⟩
      | after =>
          dsimp only at acted ⊢
          cases claimed : before.ledger.claim key hash (currentTimestamp before.clock) with
          | none =>
              rw [claimed] at acted
              cases acted
              exact ⟨.still, ⟨waiting.toUnclicked, holds⟩, by rintro ⟨⟩⟩
          | some result =>
              obtain ⟨answer, ledger⟩ := result
              rw [claimed] at acted
              cases acted
              exact ⟨claims answer ledger claimed, ⟨waiting.record_claimed, holds⟩,
                by rintro ⟨⟩⟩
  | _ => cases acted

variable {sha256 : String → String} {request : SendRequest} {allowedDevice : String}

theorem valid_sendUnderLock :
    (senderProtocol locked).Valid System.anyAction handler
      (fun agent => Waiting handler ticket agent ∧ Holding locked handler agent)
      (sendUnderLock sha256 request handler.process ticket) (Replied locked handler ticket) := by
  have replies : ∀ {reply : Reply}, (senderProtocol locked).Valid System.anyAction handler
      (fun agent => Unclicked handler ticket agent ∧ Holding locked handler agent)
      (Program.ret reply : Script Reply) (Replied locked handler ticket) :=
    Protocol.valid_ret fun _ _ holds => ⟨holds.1.settled _, holds.2⟩
  have waits : ∀ {reply : Reply}, (senderProtocol locked).Valid System.anyAction handler
      (fun agent => Waiting handler ticket agent ∧ Holding locked handler agent)
      (Program.ret reply : Script Reply) (Replied locked handler ticket) :=
    replies.mono (fun _ _ holds => ⟨holds.1.toUnclicked, holds.2⟩) fun _ _ _ replied => replied
  apply Protocol.Valid.bind (fun existing agent =>
    (Waiting handler ticket agent ∧ Holding locked handler agent) ∧
      ∀ operator, existing = some operator → operator.process = handler.process)
  · apply valid_last (stable_waiting.and stable_holding)
    rintro before input after invariant holds ⟨⟩
    exact ⟨.still, holds, invariant.warm handler.process⟩
  intro existing
  apply Protocol.valid_of_fact
  intro own
  apply Protocol.Valid.bind _ (valid_acquireLease (stable_waiting.and stable_holding) ?_)
  · intro leased
    cases leased with
    | none => exact waits
    | some leased =>
        cases leased with
        | false => exact waits
        | true =>
            apply Protocol.Valid.bind _ valid_claimKey
            intro answer
            cases answer with
            | none => exact replies.mono (fun _ _ holds => holds.1) fun _ _ _ replied => replied
            | some answer =>
                cases answer with
                | claimed =>
                    exact (valid_sendClaimed own).mono
                      (fun _ _ holds => ⟨holds.1, holds.2 rfl⟩) fun _ _ _ replied => replied
                | _ => exact replies.mono (fun _ _ holds => holds.1) fun _ _ _ replied => replied
  · rintro agent leased ⟨waiting, holds⟩
    exact ⟨⟨⟨waiting.owns, waiting.unclicked, waiting.unanswered⟩, waiting.unclaimed⟩, holds⟩

theorem valid_receive :
    (senderProtocol locked).Valid System.anyAction handler (fun _ => True)
      (Script.receive handler ticket request) fun _ => Waiting handler ticket := by
  apply valid_last stable_true
  intro before input after _ _ acted
  split at acted
  · cases acted
  · rename_i unseen
    cases acted
    have fresh : ∀ event ∈ before.log, event.ticket ≠ some ticket := by
      intro event member about
      exact unseen (List.any_eq_true.mpr ⟨event, member, by simpa using about⟩)
    have absent : ∀ event, event.ticket = some ticket → (∀ owner other,
        event ≠ .received owner ticket other) →
          event ∉ (before.record (.received handler ticket request)).log := by
      intro event about different member
      rcases List.mem_cons.mp member with same | old
      · exact different _ _ same
      · exact fresh event old about
    refine ⟨.record ⟨rfl, fresh⟩, ⟨⟨request, List.mem_cons_self⟩, ?_, ?_⟩, ?_⟩
    · exact fun key => absent _ rfl (by rintro _ _ ⟨⟩)
    · exact fun reply => absent _ rfl (by rintro _ _ ⟨⟩)
    · exact fun key hash answer => absent _ rfl (by rintro _ _ ⟨⟩)

theorem valid_respond {reply : Reply} :
    (senderProtocol locked).Valid System.anyAction handler
      (fun agent => Settled locked handler ticket agent reply) (Script.respond ticket reply)
      fun _ _ => True := by
  apply valid_perform stable_settled
  intro before _ settled
  exact ⟨.record ⟨settled.owns, settled.final⟩, trivial⟩

theorem valid_acquireDevice :
    (senderProtocol locked).Valid System.anyAction handler (Waiting handler ticket)
      (acquireDevice locked handler) fun acquired agent => Waiting handler ticket agent ∧
        (acquired = true → Holding locked handler agent) := by
  apply valid_last stable_waiting
  intro before input after _ waiting acted
  cases input with
  | flag value =>
      cases value with
      | false =>
          cases acted
          exact ⟨.still, waiting, by rintro ⟨⟩⟩
      | true =>
          dsimp only at acted
          cases isLocked : locked with
          | false =>
              rw [isLocked, if_neg (by simp)] at acted
              cases acted
              exact ⟨.still, waiting, fun _ impossible => nomatch impossible⟩
          | true =>
              rw [isLocked, if_pos rfl] at acted
              split at acted
              · rename_i free
                cases acted
                refine ⟨⟨fun _ => .same, Or.inl rfl, fun _ _ warm => Or.inl warm,
                  fun _ _ => Or.inl rfl, ?_, fun _ _ => Or.inl rfl⟩,
                  ⟨⟨waiting.owns, waiting.unclicked, waiting.unanswered⟩, waiting.unclaimed⟩, ?_⟩
                · intro other _ held
                  have elsewhere : other.process ≠ handler.process := by
                    intro same
                    rw [same, free] at held
                    cases held
                  dsimp only
                  rw [Function.update_of_ne elsewhere]
                  exact held
                · exact fun _ _ => Function.update_self _ _ _
              · cases acted
  | _ => cases acted

theorem valid_releaseDevice {reply : Reply} :
    (senderProtocol locked).Valid System.anyAction handler (Replied locked handler ticket reply)
      (releaseDevice locked handler.process)
      fun _ agent => Settled locked handler ticket agent reply := by
  apply valid_perform stable_replied
  rintro before _ ⟨settled, holds⟩
  -- first the warm operator is put away, then the lock is given back
  have discarded : ∃ middle : Agent, SenderMove locked handler before middle ∧
      middle.log = before.log ∧ middle.deviceLock = before.deviceLock ∧
      middle.operatorProgress = before.operatorProgress ∧ middle.progress = before.progress ∧
      middle = if before.warm handler.process = none then
        before.discardWarmOperator handler.process else before := by
    split
    · exact ⟨_, .discard, rfl, rfl, rfl, rfl, rfl⟩
    · exact ⟨_, .still, rfl, rfl, rfl, rfl, rfl⟩
  obtain ⟨middle, move, log, lock, operators, progress, rfl⟩ := discarded
  cases isLocked : locked with
  | false =>
      subst isLocked
      rw [if_neg (by simp)]
      refine ⟨move, settled.owns.grows move, ?_, fun impossible => nomatch impossible⟩
      rw [log]
      exact settled.unanswered
  | true =>
      subst isLocked
      rw [if_pos rfl]
      refine ⟨⟨move.rows, Or.inl log, move.warm, move.progress, ?_, move.operators⟩, ?_⟩
      · intro other different held
        have elsewhere : other.process ≠ handler.process := by
          intro same
          rw [same, holds rfl] at held
          cases held
          exact different rfl
        dsimp only
        rw [Function.update_of_ne elsewhere, lock]
        exact held
      · refine ⟨?_, ?_, ?_⟩
        · obtain ⟨request, received⟩ := settled.owns
          exact ⟨request, by dsimp only; rw [log]; exact received⟩
        · dsimp only
          rw [log]
          exact settled.unanswered
        · dsimp only
          rw [log]
          exact settled.final

theorem valid_sendWechat :
    (senderProtocol locked).Valid System.anyAction handler (fun _ => True)
      (sendWechat sha256 request allowedDevice locked handler ticket) fun _ _ => True := by
  have refuses : ∀ {reply : Reply}, (senderProtocol locked).Valid System.anyAction handler
      (Waiting handler ticket) (Script.respond ticket reply) fun _ _ => True :=
    valid_respond.mono (fun _ _ waiting => waiting.toUnclicked.settled _) fun _ _ _ _ => trivial
  apply Protocol.Valid.bind _ valid_receive
  intro _
  split
  · exact refuses
  · split
    · exact refuses
    · apply Protocol.Valid.bind _ valid_acquireDevice
      intro acquired
      cases acquired with
      | false => exact refuses.mono (fun _ _ holds => holds.1) fun _ _ _ _ => trivial
      | true =>
          apply Protocol.Valid.bind _
            (valid_sendUnderLock.mono (fun _ _ holds => ⟨holds.1, holds.2 rfl⟩)
              fun _ _ _ replied => replied)
          intro reply
          apply Protocol.Valid.bind _ valid_releaseDevice
          exact fun _ => valid_respond

theorem valid_sendStatus {hash : String} :
    (senderProtocol locked).Valid System.anyAction handler (fun _ => True)
      (sendStatus locked handler key hash) fun _ _ => True := by
  apply valid_last stable_true
  intro before input after _ _ acted
  dsimp only at acted
  split at acted
  · cases acted
    exact ⟨.still, trivial⟩
  · cases acted
    exact ⟨.record ⟨rfl, rfl⟩, trivial⟩

/-! ## Whole runs -/

/-- A change outside the ledger, the history, the progress, the lock and the
operators disturbs nobody. -/
theorem senderRely_of_same (ledger : after.ledger = before.ledger) (log : after.log = before.log)
    (progress : after.progress = before.progress) (lock : after.deviceLock = before.deviceLock)
    (operators : after.operatorProgress = before.operatorProgress) :
    SenderRely locked handler before after where
  own ticket _ event _ := by rw [log]
  progress _ ticket _ := by rw [progress]
  lock held := by rwa [lock]
  operators _ _ operator _ := by rw [operators]
  kept := by
    rw [ledger]
    exact RowChange.kept fun _ => .same

theorem SenderMove.crash : SenderMove locked handler agent (agent.crash handler) := by
  unfold Agent.crash
  split
  · rename_i held
    have discarded : SenderMove locked handler agent
        (agent.discardWarmOperator handler.process) := .discard
    refine ⟨discarded.rows, discarded.log, discarded.warm, discarded.progress, ?_,
      discarded.operators⟩
    intro other different holds
    have elsewhere : other.process ≠ handler.process := by
      intro same
      rw [same, held] at holds
      cases holds
      exact different rfl
    dsimp only
    rw [Function.update_of_ne elsewhere]
    exact holds
  · exact .still

/-- The sender keeps the protocol of its ledger, with the device lock and without. -/
theorem senderProtocol_follows (sha256 : String → String) (allowedDevice : String)
    (locked : Bool) :
    (senderProtocol locked).Follows (senderSystem sha256 allowedDevice locked)
      System.anyAction where
  restingStable _ := stable_true
  operations handler program operation := by
    cases operation with
    | send ticket request => exact valid_sendWechat
    | status key payloadHash => exact valid_sendStatus
  crashes handler agent invariant := by
    have move : SenderMove locked handler agent (agent.crash handler) := .crash
    exact ⟨move.invariant invariant, move.guarantees invariant, trivial⟩
  environments before after invariant change := by
    cases change with
    | clock elapsed =>
        have move : SenderMove locked ⟨"", 0⟩ before
            { before with clock := before.clock + elapsed } :=
          ⟨fun _ => .same, Or.inl rfl, fun _ _ warm => Or.inl warm, fun _ _ => Or.inl rfl,
            fun _ _ held => held, fun _ _ => Or.inl rfl⟩
        exact ⟨move.invariant invariant, fun _ => senderRely_of_same rfl rfl rfl rfl rfl⟩
    | idle process free =>
        have move : SenderMove locked ⟨"", 0⟩ before (before.discardWarmOperator process) :=
          .discard
        exact ⟨move.invariant invariant, fun _ => senderRely_of_same rfl rfl rfl rfl rfl⟩

theorem senderInvariant_start (locked : Bool) (clock : Int) (ledger : Ledger) :
    SenderInvariant locked (Agent.start clock ledger) := by
  constructor <;> first
    | exact List.Pairwise.nil
    | simp [Agent.start, Owns]

/-- What the ledger guarantees in a state of the sender. -/
structure OneSubmission (locked : Bool) (agent : Agent) : Prop where
  /-- One request passes the checkpoint of a key, no key is claimed after that, and
  another payload is a conflict. -/
  orderly : Orderly agent.log
  refuses : ∀ key row hash now answer later, agent.ledger key = some row →
    row.payloadHash ≠ hash → agent.ledger.claim key hash now = some (answer, later) →
      answer = .conflict
  conflicts : ∀ ticket key hash other, .claimed ticket key hash .conflict ∈ agent.log →
    .clicked ticket other ∉ agent.log
  finishes : ∀ key row result now, agent.ledger key = some row → row.status.crossed = true →
    agent.ledger.finish key .notSubmitted result now = agent.ledger
  passed : ∀ ticket key, .passed ticket key ∈ agent.log →
    ∃ row, agent.ledger key = some row ∧ row.status.crossed = true
  clicks : locked = true → ∀ ticket other key, .clicked ticket key ∈ agent.log →
    .clicked other key ∈ agent.log → ticket = other

theorem Orderly.passed_unique {log : List Event} (orderly : Orderly log) {ticket other : Nat}
    {key : String} (first : .passed ticket key ∈ log) (second : .passed other key ∈ log) :
    ticket = other := by
  induction log with
  | nil => cases first
  | cons event older ih =>
      obtain ⟨follows, rest⟩ := List.pairwise_cons.mp orderly
      rcases List.mem_cons.mp first with rfl | oldFirst
      · rcases List.mem_cons.mp second with same | oldSecond
        · cases same
          rfl
        · exact absurd rfl ((follows _ oldSecond).passed other ticket key rfl)
      · rcases List.mem_cons.mp second with rfl | oldSecond
        · exact absurd rfl ((follows _ oldFirst).passed ticket other key rfl)
        · exact ih rest oldFirst oldSecond

theorem SenderInvariant.oneSubmission (invariant : SenderInvariant locked agent) :
    OneSubmission locked agent where
  orderly := invariant.orderly
  refuses key row hash now answer later := claim_of_ne
  conflicts ticket key hash other refused clicked := by
    obtain ⟨hash', claimed⟩ := invariant.clicked ticket other clicked
    have same := invariant.claimedOnce ticket key hash .conflict other hash' .claimed refused
      claimed
    cases same
  finishes key row result now := Ledger.finish_notSubmitted_of_crossed
  passed := invariant.crossed
  clicks isLocked ticket other key first second :=
    invariant.orderly.passed_unique (invariant.passed isLocked ticket key first)
      (invariant.passed isLocked other key second)

end

/-- In every run of the sender, whatever its ledger held, one request passes the
checkpoint of a key; with the device lock only that request clicks.  No step
changes a sent row or takes a row back across the boundary. -/
theorem oneSubmission_of_reachable (sha256 : String → String) (allowedDevice : String)
    (locked : Bool) (clock : Int) (ledger : Ledger)
    {config : Config Agent Input Label Handler}
    (reachable : (senderSystem sha256 allowedDevice locked).Reachable System.anyAction
      (System.idle (Agent.start clock ledger)) config) :
    OneSubmission locked config.shared ∧
      ∀ target, (senderSystem sha256 allowedDevice locked).Step System.anyAction config target →
        Kept config.shared.ledger target.shared.ledger := by
  have follows := senderProtocol_follows sha256 allowedDevice locked
  have initial := senderInvariant_start locked clock ledger
  constructor
  · exact (follows.invariant_of_reachable initial (fun _ => trivial) reachable).oneSubmission
  · intro target step
    exact follows.related_of_step initial (fun _ => trivial) reachable
      (fun agent => (RowChange.kept fun _ => .same : Kept agent.ledger agent.ledger))
      (fun _ _ _ relied => relied.kept) step

/-! ### Requests on one warm operator -/

def textRequest (key : String) : SendRequest :=
  ⟨"group", ["text"], "phone", some key⟩

/-- A request up to the point where it holds the send button, with the operator
chosen by `choice`. -/
def toButton (locked : Bool) (handler : Handler) (number : Nat) (key : String) (choice : Input) :
    List (Move Agent Input Label Handler) :=
  .start handler (sendWechat id (textRequest key) "phone" locked handler number) ::
    [Input.none, .flag true, .none, .flag true, .fault .none, .none, .raised none, choice, .none,
      .raised none, .raised none].map (Move.act handler)

/-- The rest of a request: checkpoint, click, confirmation and answer. -/
def throughAnswer (handler : Handler) : List (Move Agent Input Label Handler) :=
  [Input.none, .fault .none, .none, .raised none, .none, .flag true, .none, .fault .none, .none,
    .none].map (Move.act handler)

/-- A first request leaves a warm operator.  Two requests with one key take it,
the second one assigns its progress last, the first one passes the checkpoint of
that progress and clicks, and the second one finds its submission started. -/
def sharedOperator : List (Move Agent Input Label Handler) :=
  toButton false ⟨"sender", 0⟩ 0 "first" .none ++ (throughAnswer ⟨"sender", 0⟩ ++
    (toButton false ⟨"sender", 1⟩ 1 "second" (.flag true) ++
      (toButton false ⟨"sender", 2⟩ 2 "second" (.flag true) ++
        ([Input.none, .fault .none, .none].map (Move.act ⟨"sender", 1⟩) ++
          [Input.none, .none].map (Move.act ⟨"sender", 2⟩)))))

theorem legal_toButton (locked : Bool) (handler : Handler) (number : Nat) (key : String)
    (choice : Input) : ∀ move ∈ toButton locked handler number key choice,
      (senderSystem id "phone" locked).Legal move := by
  intro move member
  rcases List.mem_cons.mp member with rfl | member
  · exact .send _ _ _
  · obtain ⟨input, _, rfl⟩ := List.mem_map.mp member
    trivial

theorem legal_map_act {handler : Handler} {inputs : List Input} {locked : Bool} :
    ∀ move ∈ inputs.map (Move.act handler), (senderSystem id "phone" locked).Legal move := by
  intro move member
  obtain ⟨input, _, rfl⟩ := List.mem_map.mp member
  trivial

/-- Without the device lock two requests click for one key. -/
theorem sharedOperator_clicks : ¬∀ config,
    (senderSystem id "phone" false).Reachable System.anyAction
      (System.idle (Agent.start 0 fun _ => none)) config →
      ∀ ticket other key, .clicked ticket key ∈ config.shared.log →
        .clicked other key ∈ config.shared.log → ticket = other := by
  intro once
  have replayed : ((senderSystem id "phone" false).replay System.anyAction
      (System.idle (Agent.start 0 fun _ => none)) sharedOperator).any
      (fun config => decide (.clicked 1 "second" ∈ config.shared.log) &&
        decide (.clicked 2 "second" ∈ config.shared.log)) = true := by
    decide
  have legal : ∀ move ∈ sharedOperator, (senderSystem id "phone" false).Legal move := by
    simp only [sharedOperator, throughAnswer, List.forall_mem_append]
    exact ⟨legal_toButton _ _ _ _ _, legal_map_act, legal_toButton _ _ _ _ _,
      legal_toButton _ _ _ _ _, legal_map_act, legal_map_act⟩
  obtain ⟨config, reachable, clicked⟩ := System.exists_reachable_of_replay legal replayed
  simp only [Bool.and_eq_true, decide_eq_true_eq] at clicked
  have same := once config reachable 1 2 "second" clicked.1 clicked.2
  cases same

/-- Two processes claim one key, each under its own device lock; the first one passes the
checkpoint and sends, the second one is refused there. -/
def lockedRequests : List (Move Agent Input Label Handler) :=
  toButton true ⟨"sender", 0⟩ 0 "only" .none ++ (toButton true ⟨"other", 1⟩ 1 "only" .none ++
    (throughAnswer ⟨"sender", 0⟩ ++
      [Input.none, .fault .none, .none, .none, .fault .none, .none, .none].map
        (Move.act ⟨"other", 1⟩)))

/-- Both requests claim the key, only the first one clicks, and the second one answers. -/
def sentByFirst (agent : Agent) : Bool :=
  decide (.claimed 0 "only" ((textRequest "only").payloadHash id) .claimed ∈ agent.log) &&
    decide (.claimed 1 "only" ((textRequest "only").payloadHash id) .claimed ∈ agent.log) &&
    decide (.clicked 0 "only" ∈ agent.log) && !decide (.clicked 1 "only" ∈ agent.log) &&
    agent.log.any fun event =>
      match event with
      | .responded ticket reply => decide (ticket = 1) && decide (reply.status = 500)
      | _ => false

/-- The run of two requests has the guarantees, and so has every step from its end. -/
theorem lockedRequests_oneSubmission : ∃ config,
    (senderSystem id "phone" true).Reachable System.anyAction
      (System.idle (Agent.start 0 fun _ => none)) config ∧
      sentByFirst config.shared = true ∧ OneSubmission true config.shared ∧
      ∀ target, (senderSystem id "phone" true).Step System.anyAction config target →
        Kept config.shared.ledger target.shared.ledger := by
  have replayed : ((senderSystem id "phone" true).replay System.anyAction
      (System.idle (Agent.start 0 fun _ => none)) lockedRequests).any
      (fun config => sentByFirst config.shared) = true := by
    decide +kernel
  have legal : ∀ move ∈ lockedRequests, (senderSystem id "phone" true).Legal move := by
    simp only [lockedRequests, throughAnswer, List.forall_mem_append]
    exact ⟨legal_toButton _ _ _ _ _, legal_toButton _ _ _ _ _, legal_map_act, legal_map_act⟩
  obtain ⟨config, reachable, sent⟩ := System.exists_reachable_of_replay legal replayed
  exact ⟨config, reachable, sent,
    oneSubmission_of_reachable id "phone" true 0 (fun _ => none) reachable⟩

end TennisAlerts.Sender
