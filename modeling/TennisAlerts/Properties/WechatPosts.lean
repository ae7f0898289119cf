import TennisAlerts.Properties.QueueWatch

/-!
# Every row is sent at most once

The consumer posts a row only from the status `processing`, which a row has when all its
earlier posts have ended without a submission.  It ends the row by what the sender says,
and a row whose submission is unknown is ended by evidence from the sender's ledger.
-/

namespace TennisAlerts.HostCore

open TennisAlerts.Concurrent TennisAlerts.Database

section

variable {digests : Digests} {allowed : Actor → Label → Host → Input → Prop} {worker : String}
  {host : Host} {id : String} {claimed : ClaimedWechat}

/-- Nothing follows an exception. -/
theorem valid_stuck {α : Type} {value : α} {pre : Host → Prop} {post : α → Host → Prop}
    (stable : (postProtocol digests).Stable (.wechat worker) pre) :
    (postProtocol digests).Valid allowed (.wechat worker) pre (Script.raise value : Script α)
      post := by
  apply Protocol.valid_act (fun _ _ _ => False) stable
  · rintro before input after _ _ _ ⟨⟩
  · exact fun _ _ => Protocol.valid_ret fun _ _ => False.elim

/-! ## Endings -/

/-- The consumer has the session lock and no row in its transaction. -/
def Attending (worker : String) (host : Host) : Prop :=
  Consuming worker host ∧ Unwriting worker host

theorem attentive_attending : Attentive digests worker (Attending worker) :=
  attentive_consuming.and attentive_unwriting

/-- The consumer sees a row that it may end with the status. -/
def MayEnd (digests : Digests) (worker id : String) (status : WechatStatus) (host : Host) : Prop :=
  Attending worker host ∧ Sees worker id (fun log row => Permits digests log id status row) host

theorem attentive_mayEnd {status : WechatStatus} :
    Attentive digests worker (MayEnd digests worker id status) :=
  attentive_attending.and attentive_sees

theorem valid_finishWechat {status : WechatStatus} {reason : Option String} :
    (postProtocol digests).Valid allowed (.wechat worker) (MayEnd digests worker claimed.id status)
      (finishWechat digests claimed worker status reason) fun _ => Attending worker := by
  apply Protocol.Valid.bind _
    (valid_asideQueue attentive_mayEnd (Script.does_observe AsideQueue.idle))
  intro now
  apply Protocol.Valid.bind (fun _ => Consuming worker)
  · apply valid_update attentive_mayEnd.stable fun _ holds => holds.1.1
    · intro host id row new invariant holds seen written
      simp only [finishRow, Option.ite_none_right_eq_some, Option.some.injEq] at written
      rcases written with ⟨⟨rfl, _⟩, rfl⟩
      rcases holds.2 with ⟨_, same, seen', permits⟩
      rw [seen] at seen'
      cases seen'
      exact permits.congr rfl rfl
    · exact fun _ _ holds => holds.1.1
  intro _
  apply Protocol.Valid.bind (fun _ => Consuming worker)
  · exact valid_asideQueue attentive_consuming
      (Script.does_when fun _ => AsideQueue.does_startCooldown)
  · exact fun _ => valid_workCommit attentive_consuming

theorem valid_retryWechat {reason : String} :
    (postProtocol digests).Valid allowed (.wechat worker)
      (fun host => Attending worker host ∧ Sees worker claimed.id (fun log row =>
        claimed.row.attemptCount < maxWechatAttempts →
          Permits digests log claimed.id .retry row) host)
      (retryWechat digests claimed worker reason) fun _ => Attending worker := by
  unfold retryWechat
  split
  · rename_i more
    apply Protocol.Valid.strengthen valid_finishWechat
    exact fun _ _ holds => ⟨holds.1, holds.2.mono fun row permits => permits more⟩
  · apply Protocol.Valid.strengthen valid_finishWechat
    exact fun _ _ holds => ⟨holds.1, holds.2.mono fun row _ => permits_closed rfl (by simp)⟩

/-! ## The claim -/

/-- The posts of a row that the consumer has claimed once more. -/
structure Retriable (claimed : ClaimedWechat) (log : List Event) : Prop where
  unsent : ∀ post ∈ postsOf claimed.id log, Unsent log post
  counted : (postsOf claimed.id log).length < claimed.row.attemptCount
  bounded : (postsOf claimed.id log).length < maxWechatAttempts

/-- The stored row of a claim. -/
structure Leased (worker : String) (claimed : ClaimedWechat) (log : List Event)
    (row : WechatRow) : Prop where
  owner : row.leaseOwner = some worker
  processing : row.status = .processing
  attempts : row.attemptCount = claimed.row.attemptCount
  receiver : row.receiver = claimed.row.receiver
  device : row.deviceName = claimed.row.deviceName
  retriable : Retriable claimed log

theorem Leased.permits {log : List Event} {row : WechatRow} {status : WechatStatus}
    (leased : Leased worker claimed log row) (unsent : status ≠ .sent) :
    Permits digests log claimed.id status row := by
  constructor
  · intro _
    refine ⟨leased.retriable.unsent, ?_, leased.retriable.bounded⟩
    rw [leased.attempts]
    exact leased.retriable.counted.le
  · exact fun sent => absurd sent unsent

/-- What a claim leaves. -/
def Claims (worker : String) (claim : Option ClaimedWechat) (host : Host) : Prop :=
  Attending worker host ∧
    ∀ claimed, claim = some claimed → Sees worker claimed.id (Leased worker claimed) host

theorem claims_none (attending : Attending worker host) : Claims worker none host :=
  ⟨attending, by simp⟩

theorem untried_of_due {entry : String × WechatRow} {now : Int}
    (invariant : PostInvariant digests host) (due : wechatDue now entry.2 = true)
    (seen : (host.wechat.cell entry.1).view (.work (.wechat worker)) = some entry.2) :
    Untried (postHistory host.log) entry.1 entry.2.attemptCount := by
  simp only [wechatDue, Bool.and_eq_true] at due
  exact (invariant.sound entry.1 entry.2 (Cell.version_of_view seen)).untried due.1.1.1

/-- The lease of the row that the consumer has locked. -/
theorem valid_leaseWechat {entry : String × WechatRow} {now : Int}
    (due : wechatDue now entry.2 = true) :
    (postProtocol digests).Valid allowed (.wechat worker)
      (fun host => Consuming worker host ∧ Sees worker entry.1 (fun _ row => row = entry.2) host)
      (Script.update .wechat (.work (.wechat worker))
        (onKey entry.1 (leaseWechat worker now)))
      fun _ => Sees worker entry.1 (Leased worker
        ⟨entry.1, { entry.2 with attemptCount := entry.2.attemptCount + 1 }⟩) := by
  apply valid_update (attentive_consuming.and attentive_sees).stable fun _ holds => holds.1
  · rintro host id row new invariant ⟨_, _, same, seen', rfl⟩ seen written
    simp only [onKey, Option.ite_none_right_eq_some, Option.some.injEq] at written
    rcases written with ⟨rfl, rfl⟩
    rw [seen] at seen'
    cases seen'
    constructor
    · exact fun _ => (untried_of_due invariant due seen).mono (Nat.le_succ _)
    · rintro ⟨⟩
  · rintro host invariant ⟨_, sees⟩
    have untried : Untried (postHistory host.log) entry.1 entry.2.attemptCount := by
      rcases sees with ⟨_, row, seen, rfl⟩
      exact untried_of_due invariant due seen
    apply sees.update
    rintro row rfl
    rw [onKey, if_pos rfl]
    exact ⟨rfl, rfl, rfl, rfl, rfl, untried.unsent, Nat.lt_succ_of_le untried.counted,
      untried.bounded⟩

theorem valid_claimWechat :
    (postProtocol digests).Valid allowed (.wechat worker) (Attending worker)
      (claimWechat worker) (Claims worker) := by
  apply Protocol.Valid.bind _
    (valid_asideQueue attentive_attending (Script.does_observe AsideQueue.idle))
  intro now
  apply Protocol.Valid.bind (fun _ => Consuming worker)
  · apply valid_update attentive_attending.stable fun _ holds => holds.1
    · intro host id row new invariant _ seen written
      simp only [interruptWechat, Option.ite_none_right_eq_some, Option.some.injEq] at written
      rcases written with ⟨_, rfl⟩
      exact permits_closed rfl (by simp)
    · exact fun _ _ holds => holds.1
  intro _
  apply Protocol.Valid.bind (fun _ => Consuming worker)
  · apply valid_update attentive_consuming.stable fun _ holds => holds
    · intro host id row new invariant _ seen written
      simp only [expireWechat, Option.ite_none_right_eq_some, Option.some.injEq] at written
      rcases written with ⟨_, rfl⟩
      exact permits_closed rfl (by simp)
    · exact fun _ _ holds => holds
  intro _
  apply Protocol.Valid.bind _
    (valid_lockQueue (fun row => wechatDue now row = true) fun _ _ due => due)
  intro entries
  apply Protocol.valid_of_fact
  intro due
  cases entries with
  | nil =>
      apply Protocol.Valid.bind (fun _ => Attending worker)
      · apply Protocol.Valid.strengthen (valid_workCommit attentive_consuming)
        exact fun _ _ holds => holds.1
      · exact fun _ => Protocol.valid_ret fun _ _ => claims_none
  | cons entry rest =>
      apply Protocol.Valid.bind (fun _ => Sees worker entry.1 (Leased worker
        ⟨entry.1, { entry.2 with attemptCount := entry.2.attemptCount + 1 }⟩))
      · apply Protocol.Valid.strengthen (valid_leaseWechat (due entry List.mem_cons_self))
        exact fun _ _ holds => ⟨holds.1, holds.2 entry List.mem_cons_self⟩
      intro _
      apply Protocol.Valid.bind _ (valid_workCommit attentive_sees)
      intro _
      apply Protocol.valid_ret
      rintro host _ ⟨sees, unwriting⟩
      refine ⟨⟨sees.1, unwriting⟩, ?_⟩
      rintro _ ⟨⟩
      exact sees

theorem valid_claimIfEnabled :
    (postProtocol digests).Valid allowed (.wechat worker) (Attending worker)
      (claimIfEnabled worker) (Claims worker) := by
  apply Protocol.Valid.bind _
    (valid_asideQueue attentive_attending (Script.does_awaitFlag AsideQueue.idle))
  intro owned
  split
  · apply Protocol.Valid.bind _ (valid_asideQueue attentive_attending AsideQueue.does_wechatEnabled)
    intro enabled
    split
    · exact valid_claimWechat
    · exact Protocol.valid_ret fun _ _ => claims_none
  · exact Protocol.valid_ret fun _ _ => claims_none

/-! ## The post -/

/-- The stored row of a claim whose text is decided. -/
structure Dispatching (digests : Digests) (claimed : ClaimedWechat) (log : List Event)
    (row : WechatRow) : Prop where
  dispatching : row.status = .dispatching
  attempts : row.attemptCount = claimed.row.attemptCount
  request : wechatRequest digests ⟨claimed.id, row⟩ = wechatRequest digests claimed
  retriable : Retriable claimed log

/-- What the preparation leaves. -/
def Prepares (digests : Digests) (worker : String) (prepared : Option ClaimedWechat)
    (host : Host) : Prop :=
  Attending worker host ∧ ∀ claimed, prepared = some claimed →
    Sees worker claimed.id (Dispatching digests claimed) host

theorem prepares_none (attending : Attending worker host) : Prepares digests worker none host :=
  ⟨attending, by simp⟩

/-- The consumer has claimed the row. -/
def HasLeased (worker : String) (claimed : ClaimedWechat) (host : Host) : Prop :=
  Attending worker host ∧ Sees worker claimed.id (Leased worker claimed) host

theorem attentive_hasLeased : Attentive digests worker (HasLeased worker claimed) :=
  attentive_attending.and attentive_sees

theorem HasLeased.mayEnd {status : WechatStatus} (leased : HasLeased worker claimed host)
    (unsent : status ≠ .sent) : MayEnd digests worker claimed.id status host :=
  ⟨leased.1, leased.2.mono fun _ row => row.permits unsent⟩

theorem valid_finishLeased {status : WechatStatus} {reason : Option String}
    (unsent : status ≠ .sent) :
    (postProtocol digests).Valid allowed (.wechat worker) (HasLeased worker claimed)
      (finishWechat digests claimed worker status reason) fun _ => Attending worker := by
  apply Protocol.Valid.strengthen valid_finishWechat
  exact fun _ _ leased => leased.mayEnd unsent

/-- The row with the text that is to be posted. -/
theorem valid_dispatchRow {current : CurrentMessage} {outbound : String}
    {programId : Option String} {begun : Int} :
    (postProtocol digests).Valid allowed (.wechat worker) (HasLeased worker claimed)
      (Script.update .wechat (.work (.wechat worker)) fun _ id stored =>
        dispatchRow worker outbound (prunedRow claimed.row current).message
          (prunedRow claimed.row current).eventKeys programId begun claimed.id id stored)
      fun _ => Sees worker claimed.id (Dispatching digests ⟨claimed.id,
        { prunedRow claimed.row current with
          outboundMessage := some outbound
          programId := programId }⟩) := by
  apply valid_update attentive_hasLeased.stable fun _ holds => holds.1.1
  · intro host id row new invariant _ seen written
    simp only [dispatchRow, Option.ite_none_right_eq_some, Option.some.injEq] at written
    rcases written with ⟨_, rfl⟩
    exact permits_closed rfl (by simp)
  · rintro host _ ⟨_, sees⟩
    apply sees.update
    intro row leased
    rw [dispatchRow, if_pos ⟨rfl, leased.owner, leased.processing⟩]
    refine ⟨rfl, leased.attempts, ?_, ?_⟩
    · simp [wechatRequest, prunedRow, leased.receiver, leased.device]
    · exact ⟨leased.retriable.unsent, leased.retriable.counted, leased.retriable.bounded⟩

theorem valid_prepareWechat :
    (postProtocol digests).Valid allowed (.wechat worker) (HasLeased worker claimed)
      (prepareWechat digests claimed worker) (Prepares digests worker) := by
  apply Protocol.Valid.bind _
    (valid_asideQueue attentive_hasLeased AsideQueue.does_activeSubscriptionForVenue)
  intro subscribed
  split
  · apply Protocol.Valid.bind _
      (valid_asideQueue attentive_hasLeased (Script.does_observe AsideQueue.idle))
    intro begun
    apply Protocol.Valid.bind _
      (valid_asideQueue attentive_hasLeased (Script.does_observe AsideQueue.idle))
    intro slots
    cases currentMessage claimed.row.message slots with
    | error reason => exact valid_stuck attentive_hasLeased.stable
    | ok current =>
        dsimp only
        split
        · apply Protocol.Valid.bind _ (valid_asideQueue attentive_hasLeased
            (Script.does_commit fun _ => .ended _ rfl (by simp)))
          intro _
          apply Protocol.Valid.bind _ (valid_finishLeased (by simp))
          exact fun _ => Protocol.valid_ret fun _ _ => prepares_none
        · apply Protocol.Valid.bind _
            (valid_asideQueue attentive_hasLeased (Script.does_observe AsideQueue.idle))
          intro now
          apply Protocol.Valid.bind _
            (valid_asideQueue attentive_hasLeased (Script.does_observe AsideQueue.idle))
          intro text
          apply Protocol.Valid.bind _
            (valid_asideQueue attentive_hasLeased (Script.does_observe AsideQueue.idle))
          intro outbound
          apply Protocol.Valid.bind _ valid_dispatchRow
          intro _
          apply Protocol.Valid.bind _ (valid_workCommit attentive_sees)
          intro _
          apply Protocol.valid_ret
          rintro host _ ⟨sees, unwriting⟩
          refine ⟨⟨sees.1, unwriting⟩, ?_⟩
          rintro _ ⟨⟩
          exact sees
  · apply Protocol.Valid.bind _ (valid_finishLeased (by simp))
    exact fun _ => Protocol.valid_ret fun _ _ => prepares_none

/-! ### The post and its answer -/

/-- The row of a post and what is known of the other posts of the row. -/
structure Outstanding (digests : Digests) (claimed : ClaimedWechat) (post : Post)
    (log : List Event) (row : WechatRow) : Prop where
  attempts : row.attemptCount = claimed.row.attemptCount
  own : post.rowId = claimed.id
  request : post.request = wechatRequest digests ⟨claimed.id, row⟩
  posted : Event.posted post ∈ log
  others : ∀ other ∈ postsOf claimed.id log, other ≠ post → Unsent log other
  counted : (postsOf claimed.id log).length ≤ claimed.row.attemptCount

/-- The consumer waits for the answer to its post. -/
def Posting (digests : Digests) (worker : String) (claimed : ClaimedWechat) (post : Post)
    (host : Host) : Prop :=
  Attending worker host ∧ Sees worker claimed.id (fun log row =>
    Outstanding digests claimed post log row ∧ ∀ answer, Event.answered post answer ∉ log) host

/-- The consumer has the answer to its post. -/
def Answered (digests : Digests) (worker : String) (claimed : ClaimedWechat) (post : Post)
    (answer : Answer) (host : Host) : Prop :=
  Attending worker host ∧ Sees worker claimed.id (fun log row =>
    Outstanding digests claimed post log row ∧ Event.answered post answer ∈ log) host

theorem attentive_answered {post : Post} {answer : Answer} :
    Attentive digests worker (Answered digests worker claimed post answer) :=
  attentive_attending.and attentive_sees

/-- A row that the consumer reads and has not in its transaction has one version. -/
theorem PostInvariant.only_version {row new : WechatRow} (invariant : PostInvariant digests host)
    (attending : Attending worker host)
    (seen : (host.wechat.cell id).view (.work (.wechat worker)) = some row)
    (version : (host.wechat.cell id).Version new) :
    (host.wechat.cell id).base = some row ∧ new = row := by
  have base : (host.wechat.cell id).base = some row := by
    rw [← view_eq_base (attending.2 id)]
    exact seen
  refine ⟨base, ?_⟩
  rcases version with stored | ⟨tx, held⟩
  · rw [base] at stored
    cases stored
    rfl
  · rcases invariant.writers id tx _ held with ⟨_, writer⟩
    cases writer with
    | inserting number missing =>
        rw [missing] at base
        cases base
    | consuming other stored alone =>
        cases Consuming.unique invariant.exclusion attending.1 alone
        exact absurd held (attending.2 id _)

theorem valid_beginPost :
    (postProtocol digests).Valid allowed (.wechat worker)
      (fun host => Attending worker host ∧
        Sees worker claimed.id (Dispatching digests claimed) host)
      (Script.beginPost worker claimed.id (wechatRequest digests claimed))
      (Posting digests worker claimed) := by
  apply valid_entry (attentive_attending.and attentive_sees).stable
  rintro before input after invariant ⟨attending, alone, row, seen, dispatching⟩ ⟨⟩
  have stored := invariant.stored_of_view seen
  have retriable := dispatching.retriable
  refine ⟨_, rfl, ?_, attending, alone, row, seen, ?_, ?_⟩
  · refine ⟨alone, rfl, ?_, by simp⟩
    rintro post ⟨⟩
    refine ⟨rfl, stored, ?_, retriable.unsent, retriable.bounded.le, retriable.bounded⟩
    intro new version
    rw [(invariant.only_version attending seen version).2, dispatching.dispatching]
    rfl
  · rw [Host.log_record, postHistory_cons rfl]
    have posts : postsOf claimed.id (.posted ⟨before.log.length, worker, claimed.id,
        wechatRequest digests claimed⟩ :: postHistory before.log) =
          ⟨before.log.length, worker, claimed.id, wechatRequest digests claimed⟩ ::
            postsOf claimed.id (postHistory before.log) :=
      postsOf_posted_self rfl
    refine ⟨dispatching.attempts, rfl, dispatching.request.symm, List.mem_cons_self, ?_, ?_⟩
    · intro other member different
      rw [posts] at member
      rcases List.mem_cons.mp member with same | older
      · exact absurd same different
      · exact (retriable.unsent other older).cons
    · rw [posts]
      exact retriable.counted
  · intro answer member
    rw [Host.log_record, postHistory_cons rfl] at member
    rcases List.mem_cons.mp member with impossible | older
    · cases impossible
    · exact absurd (invariant.numbered _ (invariant.answered _ answer older)) (lt_irrefl _)

theorem valid_awaitAnswer {post : Post} :
    (postProtocol digests).Valid allowed (.wechat worker) (Posting digests worker claimed post)
      (Script.awaitAnswer post) (Answered digests worker claimed post) := by
  apply valid_entry (attentive_attending.and attentive_sees).stable
  rintro before input after invariant ⟨attending, alone, row, seen, outstanding, unanswered⟩ acted
  cases input with
  | answer answer =>
      cases acted
      refine ⟨.answered post answer, rfl, ?_, attending, alone, row, seen, ?_, ?_⟩
      · refine ⟨alone, rfl, by simp, ?_⟩
        rintro _ _ ⟨⟩
        exact ⟨outstanding.posted, unanswered⟩
      · rw [Host.log_record, postHistory_cons rfl]
        have same : ∀ log, postsOf claimed.id (.answered post answer :: log) =
            postsOf claimed.id log := fun _ => rfl
        refine ⟨outstanding.attempts, outstanding.own, outstanding.request,
          List.mem_cons_of_mem _ outstanding.posted, ?_, ?_⟩
        · rw [same]
          exact fun other member different => (outstanding.others other member different).cons
        · rw [same]
          exact outstanding.counted
      · rw [Host.log_record, postHistory_cons rfl]
        exact List.mem_cons_self
  | _ => cases acted

/-- After an answer that nothing was submitted the row may be tried again. -/
theorem Outstanding.retry {post : Post} {answer : Answer} {log : List Event} {row : WechatRow}
    (outstanding : Outstanding digests claimed post log row)
    (ended : Event.answered post answer ∈ log)
    (unsent : answer.unsent = true) (more : claimed.row.attemptCount < maxWechatAttempts) :
    Permits digests log claimed.id .retry row := by
  constructor
  · intro _
    refine ⟨?_, ?_, outstanding.counted.trans_lt more⟩
    · intro other member
      by_cases same : other = post
      · subst same
        exact ⟨answer, ended, unsent⟩
      · exact outstanding.others other member same
    · rw [outstanding.attempts]
      exact outstanding.counted
  · rintro ⟨⟩

theorem Answered.mayEnd {post : Post} {answer : Answer} {status : WechatStatus}
    (answered : Answered digests worker claimed post answer host)
    (permits : ∀ log row, Outstanding digests claimed post log row →
      Event.answered post answer ∈ log → Permits digests log claimed.id status row) :
    MayEnd digests worker claimed.id status host :=
  ⟨answered.1, answered.2.mono fun row known => permits _ row known.1 known.2⟩

theorem valid_finishAnswered {post : Post} {answer : Answer} {status : WechatStatus}
    {reason : Option String}
    (permits : ∀ log row, Outstanding digests claimed post log row →
      Event.answered post answer ∈ log → Permits digests log claimed.id status row) :
    (postProtocol digests).Valid allowed (.wechat worker)
      (Answered digests worker claimed post answer)
      (finishWechat digests claimed worker status reason) fun _ => Attending worker := by
  apply Protocol.Valid.strengthen valid_finishWechat
  exact fun _ _ answered => answered.mayEnd permits

theorem valid_retryAnswered {post : Post} {answer : Answer} {reason : String}
    (unsent : answer.unsent = true) :
    (postProtocol digests).Valid allowed (.wechat worker)
      (Answered digests worker claimed post answer)
      (retryWechat digests claimed worker reason) fun _ => Attending worker := by
  apply Protocol.Valid.strengthen valid_retryWechat
  exact fun _ _ answered => ⟨answered.1, answered.2.mono fun row known more =>
    known.1.retry known.2 unsent more⟩

theorem valid_concludeWechat {post : Post} {answer : Answer} :
    (postProtocol digests).Valid allowed (.wechat worker)
      (Answered digests worker claimed post answer)
      (concludeWechat digests claimed worker answer) fun _ => Attending worker := by
  cases answer with
  | connectTimeout => exact valid_retryAnswered rfl
  | raised typeName => exact valid_finishAnswered fun _ _ _ _ => permits_closed rfl (by simp)
  | reply reply =>
      apply Protocol.Valid.bind _
        (valid_asideQueue attentive_answered (Script.does_awaitFlag AsideQueue.idle))
      intro lost
      split
      · exact valid_finishAnswered fun _ _ _ _ => permits_closed rfl (by simp)
      · cases verdict : readReply reply with
        | sent =>
            apply valid_finishAnswered
            intro log row outstanding ended
            constructor
            · rintro ⟨⟩
            · exact fun _ => .answered post reply ended outstanding.own outstanding.request verdict
        | retry reason => exact valid_retryAnswered (by simp [Answer.unsent, verdict])
        | failed reason =>
            exact valid_finishAnswered fun _ _ _ _ => permits_closed rfl (by simp)
        | unknown reason =>
            exact valid_finishAnswered fun _ _ _ _ => permits_closed rfl (by simp)

theorem valid_deliverGuarded {enabled : Bool} :
    (postProtocol digests).Valid allowed (.wechat worker) (HasLeased worker claimed)
      (deliverGuarded digests claimed worker enabled) fun _ => Attending worker := by
  unfold deliverGuarded
  split
  · apply Protocol.Valid.bind _
      (valid_asideQueue attentive_hasLeased (Script.does_awaitFlag AsideQueue.idle))
    intro ready
    split
    · apply Protocol.Valid.bind _ valid_prepareWechat
      intro prepared
      cases prepared with
      | none => exact Protocol.valid_ret fun _ _ prepares => prepares.1
      | some prepared =>
          apply Protocol.Valid.bind (Posting digests worker prepared)
          · apply Protocol.Valid.strengthen valid_beginPost
            exact fun _ _ prepares => ⟨prepares.1, prepares.2 prepared rfl⟩
          intro post
          apply Protocol.Valid.bind _ valid_awaitAnswer
          exact fun answer => valid_concludeWechat
    · apply Protocol.Valid.strengthen valid_retryWechat
      exact fun _ _ leased => ⟨leased.1, leased.2.mono fun row known _ =>
        known.permits (by simp)⟩
  · exact valid_finishLeased (by simp)

theorem valid_deliverWechat :
    (postProtocol digests).Valid allowed (.wechat worker) (HasLeased worker claimed)
      (deliverWechat digests claimed worker) fun _ => Attending worker := by
  have own : (Tx.guard (.wechat worker)).actor = .wechat worker := rfl
  apply Protocol.Valid.bind _
    (valid_asideQueue attentive_hasLeased (Script.does_lock fun _ free => .lock own free))
  intro _
  apply Protocol.Valid.bind _
    (valid_asideQueue attentive_hasLeased (Script.does_observe AsideQueue.idle))
  intro control
  cases control with
  | none => exact valid_stuck attentive_hasLeased.stable
  | some control =>
      apply Protocol.Valid.bind _ valid_deliverGuarded
      intro _
      exact valid_asideQueue attentive_attending
        (Script.does_commit fun _ => .ended _ rfl (by simp))

end

end TennisAlerts.HostCore
