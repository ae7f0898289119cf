import TennisAlerts.Concurrent.RelyGuarantee
import TennisAlerts.Sender.Agent

/-!
# The protocol of the device ledger

What the history of the sender and its ledger say about each other, what a
handler relies on while others use the same process and the same ledger, and the
moves that keep both.
-/

namespace TennisAlerts.Sender

open TennisAlerts.Concurrent

/-! ## The protocol -/

/-- What may follow an entry of the history. -/
structure MayFollow (older newer : Event) : Prop where
  passed : ∀ ticket other key, older = .passed ticket key → newer ≠ .passed other key
  claimed : ∀ ticket other key hash, older = .passed ticket key →
    newer ≠ .claimed other key hash .claimed
  conflict : ∀ ticket key hash other hash' answer, older = .claimed ticket key hash .claimed →
    newer = .claimed other key hash' answer → hash' ≠ hash → answer = .conflict

/-- Every entry may follow each older one. -/
def Orderly (log : List Event) : Prop :=
  log.Pairwise fun newer older => MayFollow older newer

/-- Errors of an answer that leaves the submission open. -/
def outcomeErrors : List String :=
  ["send_failed", "invalid_request", "wechat_not_ready", "contact_not_found", "appium_timeout",
    "submission_unknown"]

/-- The answer does not invite a retry. -/
def Reply.final (reply : Reply) : Prop :=
  reply.payload.safeToRetry = false ∧
    ∀ error, reply.payload.error = some error → error ∈ outcomeErrors

/-- The handler received the request of the ticket. -/
def Owns (handler : Handler) (ticket : Nat) (agent : Agent) : Prop :=
  ∃ request, .received handler ticket request ∈ agent.log

structure SenderInvariant (locked : Bool) (agent : Agent) : Prop where
  orderly : Orderly agent.log
  crossed : ∀ ticket key, .passed ticket key ∈ agent.log →
    ∃ row, agent.ledger key = some row ∧ row.status.crossed = true
  hashes : ∀ ticket key hash, .claimed ticket key hash .claimed ∈ agent.log →
    ∃ row, agent.ledger key = some row ∧ row.payloadHash = hash
  looked : ∀ key hash stamp confirmed count,
    .looked key hash (.found .sent stamp confirmed count) ∈ agent.log →
      ∃ row, agent.ledger key = some row ∧ row.status = .sent ∧ row.payloadHash = hash
  warm : ∀ process operator, agent.warm process = some operator → operator.process = process
  received : ∀ handler other ticket, Owns handler ticket agent → Owns other ticket agent →
    handler = other
  claimedOnce : ∀ ticket key hash answer key' hash' answer',
    .claimed ticket key hash answer ∈ agent.log →
      .claimed ticket key' hash' answer' ∈ agent.log → answer = answer'
  clicked : ∀ ticket key, .clicked ticket key ∈ agent.log →
    ∃ hash, .claimed ticket key hash .claimed ∈ agent.log
  passed : locked = true → ∀ ticket key, .clicked ticket key ∈ agent.log →
    .passed ticket key ∈ agent.log
  answered : locked = true → ∀ ticket key reply, .clicked ticket key ∈ agent.log →
    .responded ticket reply ∈ agent.log → reply.final

/-- Sent rows stay as they are, and rows that crossed the boundary stay there. -/
def Kept (before after : Ledger) : Prop :=
  ∀ key row, before key = some row →
    (row.status = .sent → after key = some row) ∧
      (row.status.crossed = true → ∃ new, after key = some new ∧ new.status.crossed = true)

/-- What a handler relies on: the history of its requests, their progress, and
the operators of its process while it holds the device lock. -/
structure SenderRely (locked : Bool) (handler : Handler) (before after : Agent) : Prop where
  own : ∀ ticket, Owns handler ticket before → ∀ event, event.ticket = some ticket →
    (event ∈ after.log ↔ event ∈ before.log)
  progress : locked = true → ∀ ticket, Owns handler ticket before →
    after.progress ticket = before.progress ticket
  lock : before.deviceLock handler.process = some handler →
    after.deviceLock handler.process = some handler
  operators : locked = true → before.deviceLock handler.process = some handler →
    ∀ operator, operator.process = handler.process →
      after.operatorProgress operator = before.operatorProgress operator
  kept : Kept before.ledger after.ledger

def senderProtocol (locked : Bool) : Protocol Agent Handler where
  invariant := SenderInvariant locked
  rely := SenderRely locked
  resting _ _ := True

/-! ## Moves -/

theorem RowChange.kept {before after : Ledger}
    (rows : ∀ key, RowChange (before key) (after key)) : Kept before after := by
  intro key row found
  have change := rows key
  rw [found] at change
  generalize after key = later at change
  cases change with
  | same => exact ⟨fun _ => rfl, fun crossed => ⟨row, rfl, crossed⟩⟩
  | opened _ absent => cases absent
  | moved _ new was _ unsent keeps =>
      cases was
      exact ⟨fun sent => absurd sent unsent, fun crossed => ⟨new, rfl, keeps crossed⟩⟩

theorem RowChange.payloadHash {before after : Option SendRow} {row : SendRow}
    (change : RowChange before after) (found : before = some row) :
    ∃ new, after = some new ∧ new.payloadHash = row.payloadHash := by
  cases change with
  | same => exact ⟨row, found, rfl⟩
  | opened _ absent =>
      rw [absent] at found
      cases found
  | moved other new was hash =>
      rw [was] at found
      cases found
      exact ⟨new, rfl, hash⟩

/-- What entitles a handler to add an entry to the history. -/
def Justified (locked : Bool) (handler : Handler) (before after : Agent) : Event → Prop
  | .received owner ticket _ =>
      owner = handler ∧ ∀ event ∈ before.log, event.ticket ≠ some ticket
  | .claimed ticket key hash answer =>
      Owns handler ticket before ∧
        (∀ key hash answer, .claimed ticket key hash answer ∉ before.log) ∧
        ∃ now, before.ledger.claim key hash now = some (answer, after.ledger)
  | .passed ticket key =>
      Owns handler ticket before ∧
        ∃ now, before.ledger.markSubmitting key now = some after.ledger
  | .clicked ticket key =>
      Owns handler ticket before ∧
        (∃ hash, .claimed ticket key hash .claimed ∈ before.log) ∧
        (locked = true → .passed ticket key ∈ before.log) ∧
        ∀ reply, .responded ticket reply ∉ before.log
  | .responded ticket reply =>
      Owns handler ticket before ∧
        (locked = true → ∀ key, .clicked ticket key ∈ before.log → reply.final)
  | .looked key hash evidence =>
      evidence = before.ledger.lookup key hash ∧ after.ledger = before.ledger

/-- A change that a handler may make. -/
structure SenderMove (locked : Bool) (handler : Handler) (before after : Agent) : Prop where
  rows : ∀ key, RowChange (before.ledger key) (after.ledger key)
  log : after.log = before.log ∨
    ∃ event, after.log = event :: before.log ∧ Justified locked handler before after event
  warm : ∀ process operator, after.warm process = some operator →
    before.warm process = some operator ∨ operator.process = process
  progress : locked = true → ∀ ticket,
    after.progress ticket = before.progress ticket ∨ Owns handler ticket before
  lock : ∀ other, other ≠ handler → before.deviceLock other.process = some other →
    after.deviceLock other.process = some other
  operators : locked = true → ∀ operator,
    after.operatorProgress operator = before.operatorProgress operator ∨
      before.deviceLock operator.process = some handler

section

variable {locked : Bool} {handler : Handler} {before after : Agent}

theorem SenderMove.mem (move : SenderMove locked handler before after) {event : Event}
    (member : event ∈ after.log) :
    event ∈ before.log ∨ Justified locked handler before after event := by
  rcases move.log with same | ⟨added, extended, justified⟩
  · rw [same] at member
    exact Or.inl member
  · rw [extended] at member
    rcases List.mem_cons.mp member with rfl | old
    · exact Or.inr justified
    · exact Or.inl old

theorem SenderMove.grows (move : SenderMove locked handler before after) {event : Event}
    (member : event ∈ before.log) : event ∈ after.log := by
  rcases move.log with same | ⟨added, extended, _⟩
  · rwa [same]
  · rw [extended]
    exact List.mem_cons_of_mem added member

theorem Owns.grows (move : SenderMove locked handler before after) {other : Handler}
    {ticket : Nat} (owns : Owns other ticket before) : Owns other ticket after := by
  obtain ⟨request, member⟩ := owns
  exact ⟨request, move.grows member⟩

/-- A key that can be claimed has not crossed the boundary. -/
theorem claim_claimed {key hash : String} {now : Int} {ledger later : Ledger}
    (claimed : ledger.claim key hash now = some (.claimed, later)) :
    (∀ row, ledger key = some row → row.status.crossed = false) ∧
      ∃ row, later key = some row ∧ row.payloadHash = hash := by
  unfold Ledger.claim at claimed
  split at claimed
  · rename_i row found
    rw [found]
    split at claimed
    · cases claimed
    · rename_i same
      rw [ne_eq, not_not] at same
      split at claimed
      · obtain ⟨_, _, impossible⟩ := Option.map_eq_some_iff.mp claimed
        cases impossible
      · rename_i status
        cases claimed
        refine ⟨?_, _, Function.update_self _ _ _, same⟩
        rintro _ ⟨⟩
        rw [status]
        rfl
      · rename_i status
        cases claimed
        refine ⟨?_, _, Function.update_self _ _ _, same⟩
        rintro _ ⟨⟩
        rw [status]
        rfl
      · cases claimed
      · cases claimed
  · rename_i missing
    rw [missing]
    cases claimed
    refine ⟨?_, _, Function.update_self _ _ _, rfl⟩
    rintro _ ⟨⟩

/-- Another payload under the key of a row is a conflict. -/
theorem claim_of_ne {key hash : String} {now : Int} {ledger later : Ledger} {row : SendRow}
    {answer : ClaimAnswer} (found : ledger key = some row) (other : row.payloadHash ≠ hash)
    (claimed : ledger.claim key hash now = some (answer, later)) : answer = .conflict := by
  rw [Ledger.claim, found] at claimed
  dsimp only at claimed
  rw [if_pos other] at claimed
  cases claimed
  rfl

theorem markSubmitting_some {key : String} {now : Int} {ledger later : Ledger}
    (marked : ledger.markSubmitting key now = some later) :
    (∃ row, ledger key = some row ∧ row.status = .preparing) ∧
      ∃ row, later key = some row ∧ row.status.crossed = true := by
  unfold Ledger.markSubmitting at marked
  split at marked
  · rename_i row found
    split at marked
    · rename_i preparing
      cases marked
      exact ⟨⟨row, found, preparing⟩, _, Function.update_self _ _ _, rfl⟩
    · cases marked
  · cases marked

theorem mayFollow_of_justified (invariant : SenderInvariant locked before) {older newer : Event}
    (member : older ∈ before.log) (justified : Justified locked handler before after newer) :
    MayFollow older newer := by
  constructor
  · rintro ticket other key rfl rfl
    obtain ⟨_, now, marked⟩ := justified
    obtain ⟨⟨row, found, preparing⟩, _⟩ := markSubmitting_some marked
    obtain ⟨other, found', crossed⟩ := invariant.crossed ticket key member
    rw [found] at found'
    cases found'
    rw [preparing] at crossed
    cases crossed
  · rintro ticket other key hash rfl rfl
    obtain ⟨_, _, now, claimed⟩ := justified
    obtain ⟨row, found, crossed⟩ := invariant.crossed ticket key member
    rw [(claim_claimed claimed).1 row found] at crossed
    cases crossed
  · rintro ticket key hash other hash' answer rfl rfl different
    obtain ⟨_, _, now, claimed⟩ := justified
    obtain ⟨row, found, same⟩ := invariant.hashes ticket key hash member
    apply claim_of_ne found _ claimed
    rw [same]
    exact different.symm

theorem lookup_sent {key hash : String} {ledger : Ledger} {stamp : Int} {confirmed : Bool}
    {count : Nat} (found : ledger.lookup key hash = .found .sent stamp confirmed count) :
    ∃ row, ledger key = some row ∧ row.status = .sent ∧ row.payloadHash = hash := by
  unfold Ledger.lookup at found
  split at found
  · rename_i row selected
    simp only [Option.filter_eq_some_iff, decide_eq_true_eq] at selected
    rw [Evidence.found.injEq] at found
    exact ⟨row, selected.1, found.1, selected.2⟩
  · cases found

/-- A move keeps the invariant. -/
theorem SenderMove.invariant (move : SenderMove locked handler before after)
    (invariant : SenderInvariant locked before) : SenderInvariant locked after := by
  have kept := RowChange.kept move.rows
  have owner : ∀ other ticket, Owns other ticket after →
      Owns other ticket before ∨
        other = handler ∧ ∀ event ∈ before.log, event.ticket ≠ some ticket := by
    rintro other ticket ⟨request, member⟩
    rcases move.mem member with old | new
    · exact Or.inl ⟨request, old⟩
    · exact Or.inr new
  constructor
  · rcases move.log with same | ⟨event, extended, justified⟩
    · rw [same]
      exact invariant.orderly
    · rw [extended]
      exact List.pairwise_cons.mpr
        ⟨fun older member => mayFollow_of_justified invariant member justified,
          invariant.orderly⟩
  · intro ticket key member
    rcases move.mem member with old | ⟨_, now, marked⟩
    · obtain ⟨row, found, crossed⟩ := invariant.crossed ticket key old
      exact (kept key row found).2 crossed
    · exact (markSubmitting_some marked).2
  · intro ticket key hash member
    rcases move.mem member with old | ⟨_, _, now, claimed⟩
    · obtain ⟨row, found, rfl⟩ := invariant.hashes ticket key hash old
      exact (move.rows key).payloadHash found
    · exact (claim_claimed claimed).2
  · intro key hash stamp confirmed count member
    rcases move.mem member with old | ⟨seen, same⟩
    · obtain ⟨row, found, sent, rfl⟩ := invariant.looked key hash stamp confirmed count old
      exact ⟨row, (kept key row found).1 sent, sent, rfl⟩
    · rw [same]
      exact lookup_sent seen.symm
  · intro process operator warm
    rcases move.warm process operator warm with old | own
    · exact invariant.warm process operator old
    · exact own
  · intro first second ticket ownsFirst ownsSecond
    rcases owner first ticket ownsFirst with ⟨request, old⟩ | ⟨rfl, fresh⟩
    · rcases owner second ticket ownsSecond with old' | ⟨rfl, fresh⟩
      · exact invariant.received first second ticket ⟨request, old⟩ old'
      · exact absurd rfl (fresh _ old)
    · rcases owner second ticket ownsSecond with ⟨request, old⟩ | ⟨rfl, _⟩
      · exact absurd rfl (fresh _ old)
      · rfl
  · intro ticket key hash answer key' hash' answer' first second
    rcases move.log with same | ⟨event, extended, justified⟩
    · rw [same] at first second
      exact invariant.claimedOnce ticket key hash answer key' hash' answer' first second
    · rw [extended] at first second
      rcases List.mem_cons.mp first with rfl | oldFirst
      · rcases List.mem_cons.mp second with same | oldSecond
        · cases same
          rfl
        · exact absurd oldSecond (justified.2.1 key' hash' answer')
      · rcases List.mem_cons.mp second with rfl | oldSecond
        · exact absurd oldFirst (justified.2.1 key hash answer)
        · exact invariant.claimedOnce ticket key hash answer key' hash' answer' oldFirst oldSecond
  · intro ticket key member
    rcases move.mem member with old | ⟨_, ⟨hash, claimed⟩, _⟩
    · obtain ⟨hash, claimed⟩ := invariant.clicked ticket key old
      exact ⟨hash, move.grows claimed⟩
    · exact ⟨hash, move.grows claimed⟩
  · intro isLocked ticket key member
    rcases move.mem member with old | ⟨_, _, passed, _⟩
    · exact move.grows (invariant.passed isLocked ticket key old)
    · exact move.grows (passed isLocked)
  · intro isLocked ticket key reply clicked responded
    rcases move.log with same | ⟨event, extended, justified⟩
    · rw [same] at clicked responded
      exact invariant.answered isLocked ticket key reply clicked responded
    · rw [extended] at clicked responded
      rcases List.mem_cons.mp clicked with rfl | oldClick
      · rcases List.mem_cons.mp responded with impossible | oldReply
        · cases impossible
        · exact absurd oldReply (justified.2.2.2 reply)
      · rcases List.mem_cons.mp responded with rfl | oldReply
        · exact justified.2 isLocked key oldClick
        · exact invariant.answered isLocked ticket key reply oldClick oldReply

/-- An entry about a request is added by its handler only. -/
theorem owns_of_justified {event : Event} {ticket : Nat}
    (justified : Justified locked handler before after event)
    (about : event.ticket = some ticket) :
    Owns handler ticket before ∨ ∀ event ∈ before.log, event.ticket ≠ some ticket := by
  cases event with
  | received owner other request =>
      cases about
      exact Or.inr justified.2
  | looked key hash evidence => cases about
  | _ =>
      cases about
      exact Or.inl justified.1

/-- A move leaves the other handlers what they rely on. -/
theorem SenderMove.guarantees (move : SenderMove locked handler before after)
    (invariant : SenderInvariant locked before) :
    (senderProtocol locked).Guarantees handler before after := by
  intro other different
  have foreign : ∀ ticket, Owns other ticket before → ¬Owns handler ticket before :=
    fun ticket owns owns' => different (invariant.received other handler ticket owns owns')
  constructor
  · intro ticket owns event about
    constructor
    · intro member
      rcases move.mem member with old | justified
      · exact old
      · rcases owns_of_justified justified about with mine | fresh
        · exact absurd mine (foreign ticket owns)
        · obtain ⟨request, received⟩ := owns
          exact absurd rfl (fresh _ received)
    · exact move.grows
  · intro isLocked ticket owns
    rcases move.progress isLocked ticket with same | mine
    · exact same
    · exact absurd mine (foreign ticket owns)
  · exact move.lock other different
  · intro isLocked holds operator same
    rcases move.operators isLocked operator with unchanged | mine
    · exact unchanged
    · rw [same, holds] at mine
      cases mine
      exact absurd rfl different
  · exact RowChange.kept move.rows

end

end TennisAlerts.Sender
