import TennisAlerts.Properties.WechatPosts
import TennisAlerts.Properties.SingleSend

/-!
# The posts of whole runs

In every run a row is posted again only after all its earlier posts were refused before
a submission, at most three times in all, and it is recorded as sent only on a proof of
that.
-/

namespace TennisAlerts.HostCore

open TennisAlerts.Concurrent TennisAlerts.Database

section

variable {digests : Digests} {allowed : Actor → Label → Host → Input → Prop} {worker : String}
  {host : Host}

/-! ## Reconciliation -/

/-- The consumer sees the rows with the texts that it read. -/
def Watches (worker : String) (entries : List (String × WechatRow)) (host : Host) : Prop :=
  ∀ entry ∈ entries, Sees worker entry.1 (fun _ row => row.sending = entry.2.sending) host

theorem attentive_watches {entries : List (String × WechatRow)} :
    Attentive digests worker (Watches worker entries) :=
  attentive_forall fun _ => attentive_sees

/-- Between the transactions of the reconciliation. -/
def Reconciling (worker : String) (entries : List (String × WechatRow)) (host : Host) : Prop :=
  Attending worker host ∧ Watches worker entries host

theorem attentive_reconciling {entries : List (String × WechatRow)} :
    Attentive digests worker (Reconciling worker entries) :=
  attentive_attending.and attentive_watches

/-- An update that keeps the texts. -/
theorem Watches.update {entries : List (String × WechatRow)}
    {statement : String → WechatRow → Option WechatRow} (watches : Watches worker entries host)
    (keeps : ∀ id row new, statement id row = some new → new.sending = row.sending) :
    Watches worker entries (TableRef.wechat.put (host.wechat.write (.work (.wechat worker))
      fun id row => (statement id row).map some) host) := by
  intro entry member
  apply (watches entry member).update
  intro row same
  cases written : statement entry.1 row with
  | none => exact same
  | some new => exact (keeps entry.1 row new written).trans same

theorem valid_postponeUnknown {entries : List (String × WechatRow)}
    {entry : String × WechatRow} {now : Int} :
    (postProtocol digests).Valid allowed (.wechat worker)
      (fun host => Consuming worker host ∧ Watches worker entries host)
      (Script.update .wechat (.work (.wechat worker)) fun _ id row =>
        postponeUnknown now entry.1 id row)
      fun _ host => Consuming worker host ∧ Watches worker entries host := by
  apply valid_update (attentive_consuming.and attentive_watches).stable fun _ holds => holds.1
  · intro host id row new invariant _ seen written
    simp only [postponeUnknown, Option.ite_none_right_eq_some, Option.some.injEq] at written
    rcases written with ⟨⟨_, unknown⟩, rfl⟩
    apply permits_closed
    · simp [unknown, WechatStatus.open]
    · simp [unknown]
  · rintro host _ ⟨alone, watches⟩
    refine ⟨alone, watches.update ?_⟩
    intro id row new written
    simp only [postponeUnknown, Option.ite_none_right_eq_some, Option.some.injEq] at written
    rcases written with ⟨_, rfl⟩
    rfl

/-- What the ledger told is in the history. -/
theorem valid_awaitEvidence {entries : List (String × WechatRow)} {key payloadHash : String} :
    (postProtocol digests).Valid allowed (.wechat worker) (Reconciling worker entries)
      (Script.awaitEvidence key payloadHash) fun found host =>
        Reconciling worker entries host ∧ ∀ evidence, found = some evidence →
          Noted worker (.evidenced key payloadHash evidence) host := by
  apply Protocol.valid_act (fun _ input host => Reconciling worker entries host ∧
    ∀ evidence, input = .evidence (some evidence) →
      Noted worker (.evidenced key payloadHash evidence) host) attentive_reconciling.stable
  · rintro before input after invariant ⟨attending, watches⟩ _ acted
    cases input with
    | evidence found =>
        cases found with
        | none =>
            cases acted
            rcases (AsideQueue.idle before : AsideQueue (.wechat worker) before before).kept
              invariant with ⟨kept, guarantees⟩
            exact ⟨kept, guarantees, ⟨attending, watches⟩, by simp⟩
        | some evidence =>
            cases acted
            have entry : PostEntry digests worker (.evidenced key payloadHash evidence) before :=
              ⟨attending.1, rfl, by simp, by simp⟩
            rcases entry.kept invariant with ⟨kept, guarantees⟩
            refine ⟨kept, guarantees, ⟨attending, watches⟩, ?_⟩
            rintro _ ⟨⟩
            exact ⟨attending.1, (mem_postHistory rfl).mpr List.mem_cons_self⟩
    | _ => cases acted
  · intro before input
    apply Protocol.valid_ret
    rintro host _ ⟨reconciling, found⟩
    refine ⟨reconciling, ?_⟩
    intro evidence told
    apply found evidence
    cases input with
    | evidence value => exact congrArg Input.evidence told
    | _ => cases told

theorem attentive_noted {event : Event} : Attentive digests worker (Noted worker event) := by
  constructor
  · rintro before after invariant kept relied ⟨alone, member⟩
    refine ⟨attentive_consuming.stable invariant kept relied alone, ?_⟩
    rw [relied.posts worker rfl alone]
    exact member
  · rintro before after invariant step ⟨alone, member⟩
    refine ⟨attentive_consuming.aside before after invariant step alone, ?_⟩
    cases step with
    | still queue posts longer locks kept =>
        rw [posts]
        exact member
    | commit tx own brief posts longer =>
        rw [posts]
        exact member

/-- The ledger has a confirmed send of the row's text. -/
def Confirms (digests : Digests) (entry : String × WechatRow) (event : Event) (stamp : Int) :
    Prop :=
  ∃ outbound key evidence, entry.2.outboundMessage = some outbound ∧
    (key = digests.idempotencyKey entry.1 outbound ∨ key = entry.1) ∧
    event = .evidenced key (digests.payloadHash entry.2 outbound) evidence ∧
    confirmedAt evidence = some stamp

theorem Confirms.proven {entry : String × WechatRow} {event : Event} {stamp : Int}
    {log : List Event} {row : WechatRow} (confirms : Confirms digests entry event stamp)
    (member : event ∈ log) (same : row.sending = entry.2.sending) :
    Proven digests log entry.1 row := by
  rcases confirms with ⟨outbound, key, evidence, text, own, rfl, sent⟩
  have proven : Proven digests log entry.1 entry.2 :=
    .confirmed outbound key evidence text own member (by rw [sent]; rfl)
  exact proven.congr same

theorem valid_confirmWechat {entries : List (String × WechatRow)} {entry : String × WechatRow}
    {event : Event} {stamp : Int} (listed : entry ∈ entries)
    (confirms : Confirms digests entry event stamp) :
    (postProtocol digests).Valid allowed (.wechat worker)
      (fun host => Reconciling worker entries host ∧ Noted worker event host)
      (confirmWechat digests entry worker stamp) fun _ => Reconciling worker entries := by
  have attentive : Attentive digests worker fun host =>
      Reconciling worker entries host ∧ Noted worker event host :=
    attentive_reconciling.and attentive_noted
  apply Protocol.Valid.bind _ (valid_asideQueue attentive (Script.does_observe AsideQueue.idle))
  intro now
  apply Protocol.Valid.bind (fun _ host => Consuming worker host ∧ Watches worker entries host)
  · apply valid_update attentive.stable fun _ holds => holds.1.1.1
    · rintro host id row new invariant ⟨⟨_, watches⟩, _, member⟩ seen written
      simp only [confirmUnknown, Option.ite_none_right_eq_some, Option.some.injEq] at written
      rcases written with ⟨⟨rfl, _⟩, rfl⟩
      rcases watches entry listed with ⟨_, known, seen', same⟩
      rw [seen] at seen'
      cases seen'
      constructor
      · rintro ⟨⟩
      · exact fun _ => confirms.proven member same
    · rintro host _ ⟨⟨attending, watches⟩, _⟩
      refine ⟨attending.1, watches.update ?_⟩
      intro id row new written
      simp only [confirmUnknown, Option.ite_none_right_eq_some, Option.some.injEq] at written
      rcases written with ⟨_, rfl⟩
      rfl
  intro _
  apply Protocol.Valid.bind _ (valid_asideQueue (attentive_consuming.and attentive_watches)
    AsideQueue.does_startCooldown)
  intro _
  apply Protocol.Valid.mono (valid_workCommit (attentive_consuming.and attentive_watches))
  · exact fun _ _ holds => holds
  · exact fun _ _ _ holds => ⟨⟨holds.1.1, holds.2⟩, holds.1.2⟩

theorem valid_lookUp {entries : List (String × WechatRow)} {entry : String × WechatRow}
    {outbound : String} (listed : entry ∈ entries)
    (text : entry.2.outboundMessage = some outbound) (keys : List String)
    (own : ∀ key ∈ keys, key = digests.idempotencyKey entry.1 outbound ∨ key = entry.1) :
    (postProtocol digests).Valid allowed (.wechat worker) (Reconciling worker entries)
      (lookUp digests entry worker (digests.payloadHash entry.2 outbound) keys)
      fun _ => Reconciling worker entries := by
  induction keys with
  | nil => exact Protocol.valid_ret fun _ _ holds => holds
  | cons key keys ih =>
      rw [List.forall_mem_cons] at own
      apply Protocol.Valid.bind _ valid_awaitEvidence
      intro found
      cases found with
      | none => exact Protocol.valid_ret fun _ _ holds => holds.1
      | some evidence =>
          dsimp only
          cases sent : confirmedAt evidence with
          | none =>
              apply Protocol.Valid.strengthen (ih own.2)
              exact fun _ _ holds => holds.1
          | some stamp =>
              have confirms : Confirms digests entry
                  (.evidenced key (digests.payloadHash entry.2 outbound) evidence) stamp :=
                ⟨outbound, key, evidence, text, own.1, rfl, sent⟩
              apply Protocol.Valid.strengthen (valid_confirmWechat listed confirms)
              exact fun _ _ holds => ⟨holds.1, holds.2 evidence rfl⟩

theorem valid_reconcileWechat {entries : List (String × WechatRow)}
    {entry : String × WechatRow} (listed : entry ∈ entries) :
    (postProtocol digests).Valid allowed (.wechat worker) (Reconciling worker entries)
      (reconcileWechat digests worker entry) fun _ => Reconciling worker entries := by
  unfold reconcileWechat
  split
  · exact Protocol.valid_ret fun _ _ holds => holds
  · rename_i outbound chosen
    exact valid_lookUp listed (Option.filter_eq_some_iff.mp chosen).1 _ (by simp)

theorem valid_reconcileUnknown :
    (postProtocol digests).Valid allowed (.wechat worker) (Attending worker)
      (reconcileUnknown digests worker) fun _ => Attending worker := by
  apply Protocol.Valid.bind _
    (valid_asideQueue attentive_attending (Script.does_observe AsideQueue.idle))
  intro now
  apply Protocol.Valid.bind (fun entries host =>
    Consuming worker host ∧ Watches worker entries host)
  · apply Protocol.Valid.mono (valid_lockQueue (fun _ => True) fun _ _ _ => trivial)
    · exact fun _ _ holds => holds.1
    · rintro entries host _ ⟨⟨alone, sees⟩, _⟩
      refine ⟨alone, fun entry member => (sees entry member).mono ?_⟩
      rintro row rfl
      rfl
  intro entries
  apply Protocol.Valid.bind _
    (Protocol.valid_forM entries fun entry _ => valid_postponeUnknown)
  intro _
  apply Protocol.Valid.bind _ (valid_workCommit (attentive_consuming.and attentive_watches))
  intro _
  apply Protocol.Valid.mono
    (Protocol.valid_forM entries fun entry listed => valid_reconcileWechat listed)
  · exact fun _ _ holds => ⟨⟨holds.1.1, holds.2⟩, holds.1.2⟩
  · exact fun _ _ _ holds => holds.1

/-! ## The consumer -/

theorem valid_consumerLoop (rounds : Nat) :
    (postProtocol digests).Valid allowed (.wechat worker) (Attending worker)
      (consumerLoop digests worker rounds) fun _ => Unwriting worker := by
  induction rounds with
  | zero =>
      apply Protocol.valid_act (fun _ _ => Unwriting worker) attentive_attending.stable
      · rintro before input after invariant ⟨_, unwriting⟩ _ ⟨⟩
        exact invariant.release unwriting
      · exact fun _ _ => Protocol.valid_ret fun _ _ holds => holds
  | succ rounds ih =>
      apply Protocol.Valid.bind _ valid_claimIfEnabled
      intro claim
      cases claim with
      | some claimed =>
          apply Protocol.Valid.bind (fun _ => Attending worker)
          · apply Protocol.Valid.strengthen valid_deliverWechat
            exact fun _ _ claims => ⟨claims.1, claims.2 claimed rfl⟩
          · exact fun _ => ih
      | none =>
          apply Protocol.Valid.bind (fun _ => Attending worker)
          · apply Protocol.Valid.strengthen (valid_asideQueue attentive_attending
              (Script.does_awaitFlag AsideQueue.idle))
            exact fun _ _ claims => claims.1
          intro due
          split
          · apply Protocol.Valid.bind _ valid_reconcileUnknown
            exact fun _ => ih
          · exact ih

/-- Only one consumer gets the session lock. -/
theorem valid_tryLock :
    (postProtocol digests).Valid allowed (.wechat worker) (Unwriting worker)
      (Script.tryLock (.wechat worker) .consumer)
      fun free host => Unwriting worker host ∧ (free = true → Consuming worker host) := by
  apply Protocol.valid_act (fun before _ host => Unwriting worker host ∧
    (before.mayLock (.session (.wechat worker)) .consumer .exclusive = true →
      Consuming worker host)) stable_unwriting
  · intro before input after invariant unwriting _ acted
    split at acted
    · rename_i free
      cases acted
      have own : (Tx.session (.wechat worker)).actor = .wechat worker := rfl
      rcases (AsideQueue.lock own free).kept invariant with ⟨kept, guarantees⟩
      exact ⟨kept, guarantees, unwriting, fun _ => List.mem_cons_self⟩
    · rename_i taken
      cases acted
      rcases (AsideQueue.idle before : AsideQueue (.wechat worker) before before).kept
        invariant with ⟨kept, guarantees⟩
      exact ⟨kept, guarantees, unwriting, fun free => absurd free taken⟩
  · exact fun _ _ => Protocol.valid_ret fun _ _ holds => holds

theorem valid_consumer {rounds : Nat} :
    (postProtocol digests).Valid allowed (.wechat worker) (Unwriting worker)
      (consumer digests worker rounds) fun _ => Unwriting worker := by
  apply Protocol.Valid.bind _ valid_tryLock
  intro free
  split
  · apply Protocol.Valid.strengthen (valid_consumerLoop rounds)
    exact fun _ _ holds => ⟨holds.2 ‹_›, holds.1⟩
  · apply Protocol.Valid.strengthen (valid_stuck stable_unwriting)
    exact fun _ _ holds => holds.1

end

/-! ## The requests -/

/-- One change of an enqueue. -/
inductive EnqueueStep (number : Nat) (before : Host) : Host → Prop
  | aside {after : Host} (step : AsideQueue (.request number) before after) :
      EnqueueStep number before after
  | insert (id : String) (row : WechatRow) (pending : row.status = .pending)
      (absent : (before.wechat.cell id).view (.work (.request number)) = none)
      (free : (before.wechat.cell id).free (.work (.request number)) = true) :
      EnqueueStep number before
        (TableRef.wechat.put (before.wechat.insert (.work (.request number)) id row) before)

namespace EnqueueStep

open Script

variable {number : Nat}

theorem idle (host : Host) : EnqueueStep number host host :=
  .aside (.idle host)

theorem does_end : Does (EnqueueStep number) (Script.commit (.work (.request number))) :=
  does_commit fun _ => .aside (.ended _ rfl (by simp))

theorem does_enqueue {digests : Digests} {input : EnqueueInput} :
    Does (EnqueueStep number) (enqueue (.request number) digests input) := by
  apply does_ite
  · intro _
    apply Does.bind
    · exact AsideQueue.does_activeSubscriptionForVenue.mono fun _ _ => .aside
    intro subscribed
    apply does_ite
    · intro _
      apply Does.bind (does_observe idle)
      intro now
      apply Does.bind (does_observe idle)
      intro begun
      apply Does.bind (does_observe idle)
      intro slots
      cases currentMessage input.message slots with
      | error reason => exact does_raise
      | ok current =>
          apply does_ite
          · exact fun _ => does_end
          · intro _
            apply Does.bind (does_observe idle)
            intro startAt
            apply Does.bind
            · apply does_forM
              intro receiver _
              apply Does.bind
              · exact does_insertIfAbsent idle fun _ absent free => .insert _ _ rfl absent free
              · exact fun _ => does_pure _
            · exact fun _ => does_end
    · exact fun _ => does_pure _
  · exact fun _ => does_raise

end EnqueueStep

/-! ## Whole runs -/

theorem postProtocol_follows (digests : Digests) (deployed : Settings → Prop)
    (allowed : Actor → Label → Host → Input → Prop) :
    (postProtocol digests).Follows (hostSystem digests deployed) allowed where
  restingStable actor := by
    rintro before after invariant kept relied resting worker rfl
    exact stable_unwriting invariant kept relied (resting worker rfl)
  operations actor program operation := by
    rcases AsideQueue.does_operation operation with
      ⟨does, other⟩ | ⟨number, input, rfl, rfl⟩ | ⟨worker, rounds, rfl, rfl⟩
    · have valid : (postProtocol digests).Valid allowed actor (fun _ => True) program
          fun _ _ => True := by
        apply does.valid fun _ _ _ _ _ _ => trivial
        intro before after invariant _ step
        rcases step.kept invariant with ⟨kept, guarantees⟩
        exact ⟨kept, guarantees, trivial⟩
      apply Protocol.Valid.mono valid
      · exact fun _ _ _ => trivial
      · exact fun _ _ _ _ worker same => absurd same (other worker)
    · have valid : (postProtocol digests).Valid allowed (.request number) (fun _ => True)
          (enqueue (.request number) digests input) fun _ _ => True := by
        apply EnqueueStep.does_enqueue.valid fun _ _ _ _ _ _ => trivial
        intro before after invariant _ step
        cases step with
        | aside step =>
            rcases step.kept invariant with ⟨kept, guarantees⟩
            exact ⟨kept, guarantees, trivial⟩
        | insert id row pending absent free =>
            rcases invariant.insert pending absent free with ⟨kept, guarantees⟩
            exact ⟨kept, guarantees, trivial⟩
      apply Protocol.Valid.mono valid
      · exact fun _ _ _ => trivial
      · rintro _ _ _ _ worker ⟨⟩
    · apply Protocol.Valid.mono valid_consumer
      · exact fun _ _ resting => resting worker rfl
      · rintro _ _ _ unwriting _ ⟨⟩
        exact unwriting
  crashes actor host invariant := by
    rcases invariant.crash with ⟨kept, guarantees⟩
    refine ⟨kept, guarantees, ?_⟩
    rintro worker rfl id row
    exact not_held_process rfl
  environments before after invariant passes := by
    rcases passes with ⟨elapsed, rfl⟩
    have step : ∀ actor, AsideQueue actor before
        { before with clock := before.clock + elapsed } :=
      fun _ => .still rfl rfl le_rfl .same fun _ member => member
    refine ⟨((step (.request 0)).kept invariant).1, fun actor => ?_⟩
    rcases exists_ne actor with ⟨other, different⟩
    exact ((step other).kept invariant).2 different.symm

/-- A queue at rest: nothing was posted, nobody has a row in a transaction or the session
lock, and no row is sent. -/
structure Unposted (host : Host) : Prop where
  history : postHistory host.log = []
  locks : host.locks = []
  unheld : ∀ id, (host.wechat.cell id).held = none
  unsent : ∀ id row, (host.wechat.cell id).base = some row → row.status ≠ .sent

theorem Unposted.invariant {digests : Digests} {host : Host} (unposted : Unposted host) :
    PostInvariant digests host := by
  have none : ∀ event, event ∉ postHistory host.log := by
    rw [unposted.history]
    exact fun _ => List.not_mem_nil
  constructor
  · intro first member
    rw [unposted.locks] at member
    cases member
  · intro id tx version held
    rw [unposted.unheld id] at held
    cases held
  · intro id row version
    rcases version with stored | ⟨tx, held⟩
    · rw [unposted.history]
      constructor
      · intro _
        constructor
        · simp [postsOf]
        · simp [postsOf]
        · simp [postsOf, maxWechatAttempts]
      · exact fun sent => absurd sent (unposted.unsent id row stored)
    · rw [unposted.unheld id] at held
      cases held
  · exact fun post member => absurd member (none _)
  · exact fun post member => absurd member (none _)
  · exact fun post answer member => absurd member (none _)
  · exact fun post answer other member => absurd member (none _)
  · intro newer older post split
    rw [unposted.history] at split
    cases newer <;> cases split
  · intro id
    rw [unposted.history]
    exact Nat.zero_le _

section

variable {digests : Digests} {deployed : Settings → Prop}
  {allowed : Actor → Label → Host → Input → Prop} {host : Host}
  {config : Config Host Input Label Actor}
  (unposted : Unposted host)
  (reachable : (hostSystem digests deployed).Reachable allowed (System.idle host) config)

include unposted reachable

theorem postInvariant_of_reachable : PostInvariant digests config.shared := by
  apply (postProtocol_follows digests deployed allowed).invariant_of_reachable
    unposted.invariant _ reachable
  intro actor worker _ id row held
  rw [unposted.unheld id] at held
  cases held

/-- A row is posted again only after every earlier post of the row has ended, by one
answer, which says that nothing was submitted. -/
theorem refused_before_post {newer older : List Event} {post earlier : Post}
    (split : config.shared.log = newer ++ .posted post :: older)
    (before : Event.posted earlier ∈ older) (same : earlier.rowId = post.rowId) :
    ∃ answer, Event.answered earlier answer ∈ older ∧ answer.unsent = true ∧
      ∀ other, Event.answered earlier other ∈ config.shared.log → other = answer := by
  have invariant := postInvariant_of_reachable unposted reachable
  have history : postHistory config.shared.log =
      postHistory newer ++ .posted post :: postHistory older := by
    rw [split, postHistory, List.filter_append]
    rfl
  have member : earlier ∈ postsOf post.rowId (postHistory older) := by
    rw [postsOf_postHistory]
    exact mem_postsOf.mpr ⟨before, same⟩
  rcases invariant.retried _ _ post history earlier member with ⟨answer, ended, unsent⟩
  have inOlder : Event.answered earlier answer ∈ older := (mem_postHistory rfl).mp ended
  have inLog : Event.answered earlier answer ∈ config.shared.log := by
    rw [split]
    exact List.mem_append_right _ (List.mem_cons_of_mem _ inOlder)
  refine ⟨answer, inOlder, unsent, ?_⟩
  intro other told
  exact invariant.single earlier answer other ((mem_postHistory rfl).mpr inLog)
    ((mem_postHistory rfl).mpr told)

/-- No row is posted more than three times. -/
theorem posts_le_maxAttempts (id : String) :
    (postsOf id config.shared.log).length ≤ maxWechatAttempts := by
  have invariant := postInvariant_of_reachable unposted reachable
  rw [← postsOf_postHistory]
  exact invariant.bounded id

/-- A row is recorded as sent only when the sender accepted a post of its text, or its
ledger has the text as sent. -/
theorem proven_of_sent {id : String} {row : WechatRow}
    (stored : (config.shared.wechat.cell id).base = some row) (sent : row.status = .sent) :
    Proven digests config.shared.log id row := by
  have invariant := postInvariant_of_reachable unposted reachable
  have proven := (invariant.sound id row (.inl stored)).proven sent
  cases proven with
  | answered post reply ended own same accepted =>
      exact .answered post reply ((mem_postHistory rfl).mp ended) own same accepted
  | confirmed outbound key evidence text own found accepted =>
      exact .confirmed outbound key evidence text own ((mem_postHistory rfl).mp found) accepted

end

/-! ## A message that is posted again -/

/-- A host with one pending message about a slot that is on show. -/
def messageHost : Host :=
  { Host.fresh 0 with
    subscriptions := .singleton "subscription"
      ⟨"reader", ["szw"], 480, 720, 127, 30, "term", false, none, 100000000, true, 0, 0⟩
    subscriptionVenues := .singleton ("subscription", "szw") ()
    slots := .singleton "slot" ⟨"szw", "Court", 20759, 540, 600, 0, 0⟩
    availability := .singleton ("szw:scope", "slot") 0
    wechat := .singleton "message"
      ⟨"szw", "group", "phone", "【Court】星期一(11-02)空场: 09:00-10:00", ["slot"], .pending, 0, 0,
        100000000, none, none, none, none, none, none, 0, 0⟩ }

theorem messageHost_unposted : Unposted messageHost where
  history := rfl
  locks := rfl
  unheld id := by
    by_cases same : id = "message" <;> simp [messageHost, VersionedTable.singleton, same,
      Cell.committed, Cell.empty]
  unsent id row stored := by
    by_cases same : id = "message"
    · subst same
      cases stored
      simp
    · simp [messageHost, VersionedTable.singleton, same, Cell.empty] at stored

/-- The consumer claims the message and posts it. -/
def toPost : List (Move Host Input Label Actor) :=
  .act (.wechat "first") (.flag true) :: (System.acts (.wechat "first") .none 10 ++
    .act (.wechat "first") (.flag true) :: System.acts (.wechat "first") .none 11)

/-- The first post does not reach the sender, and the second one is accepted. -/
def secondPost : List (Move Host Input Label Actor) :=
  .start (.wechat "first") (consumer plainDigests "first" 2) ::
    .act (.wechat "first") .none :: (toPost ++
      .act (.wechat "first") (.answer .connectTimeout) ::
        (System.acts (.wechat "first") .none 4 ++
          .environment (fun host => { host with clock := host.clock + 15000000 }) ::
            (toPost ++
              .act (.wechat "first") (.answer (.reply ⟨200, ⟨true, none, none, false, some 1⟩⟩)) ::
                .act (.wechat "first") (.flag false) :: System.acts (.wechat "first") .none 4)))

theorem legal_secondPost :
    ∀ move ∈ secondPost, (hostSystem plainDigests anySettings).Legal move := by
  simp only [secondPost, toPost, List.forall_mem_append, List.forall_mem_cons]
  have passes : ∀ host : Host, timePasses host { host with clock := host.clock + 15000000 } :=
    fun _ => ⟨15000000, rfl⟩
  exact ⟨.consume "first" 2, trivial,
    ⟨trivial, System.legal_acts, trivial, System.legal_acts⟩, trivial, System.legal_acts, passes,
    ⟨trivial, System.legal_acts, trivial, System.legal_acts⟩, trivial, trivial,
    System.legal_acts⟩

/-- Two posts of one row, both answered. -/
def reposted : List Event → Bool
  | [.answered _ _, .posted later, .answered _ _, .posted first] =>
      decide (first.rowId = later.rowId)
  | _ => false

theorem exists_of_reposted {log : List Event} (both : reposted log = true) :
    ∃ newer middle later first, log = newer ++ .posted later :: [middle, .posted first] ∧
      first.rowId = later.rowId := by
  unfold reposted at both
  split at both
  · rename_i ended answer later middle refusal first
    exact ⟨[.answered ended answer], .answered middle refusal, later, first, rfl,
      of_decide_eq_true both⟩
  · cases both

theorem exists_secondPost : ∃ config : Config Host Input Label Actor,
    (hostSystem plainDigests anySettings).Reachable System.anyAction
      (System.idle messageHost) config ∧
    reposted config.shared.log = true ∧
    ∃ row, (config.shared.wechat.cell "message").base = some row ∧ row.status = .sent := by
  have replayed : ((hostSystem plainDigests anySettings).replay System.anyAction
      (System.idle messageHost) secondPost).any (fun config =>
        reposted config.shared.log && (config.shared.wechat.cell "message").base.any fun row =>
          decide (row.status = .sent)) = true := by
    decide +kernel
  rcases System.exists_reachable_of_replay legal_secondPost replayed with
    ⟨config, reachable, both⟩
  rw [Bool.and_eq_true, Option.any_eq_true] at both
  rcases both with ⟨twice, row, stored, sent⟩
  exact ⟨config, reachable, twice, row, stored, of_decide_eq_true sent⟩

/-- The first of the two posts was refused before the second one. -/
theorem secondPost_refused : ∃ config first answer,
    (hostSystem plainDigests anySettings).Reachable System.anyAction
      (System.idle messageHost) config ∧
    Event.posted first ∈ config.shared.log ∧
    Event.answered first answer ∈ config.shared.log ∧ answer.unsent = true := by
  rcases exists_secondPost with ⟨config, reachable, twice, _⟩
  rcases exists_of_reposted twice with ⟨newer, middle, later, first, split, same⟩
  have before : Event.posted first ∈ [middle, Event.posted first] := by simp
  rcases refused_before_post messageHost_unposted reachable split before same with
    ⟨answer, ended, unsent, _⟩
  refine ⟨config, first, answer, reachable, ?_, ?_, unsent⟩
  · rw [split]
    exact List.mem_append_right _ (List.mem_cons_of_mem _ before)
  · rw [split]
    exact List.mem_append_right _ (List.mem_cons_of_mem _ ended)

/-- The message is posted twice, within the bound. -/
theorem secondPost_bounded : ∃ config : Config Host Input Label Actor,
    (hostSystem plainDigests anySettings).Reachable System.anyAction
      (System.idle messageHost) config ∧
    reposted config.shared.log = true ∧
    (postsOf "message" config.shared.log).length ≤ maxWechatAttempts := by
  rcases exists_secondPost with ⟨config, reachable, twice, _⟩
  exact ⟨config, reachable, twice, posts_le_maxAttempts messageHost_unposted reachable "message"⟩

/-- The message is recorded as sent after the second post. -/
theorem secondPost_proven : ∃ config row,
    (hostSystem plainDigests anySettings).Reachable System.anyAction
      (System.idle messageHost) config ∧
    (config.shared.wechat.cell "message").base = some row ∧
    Proven plainDigests config.shared.log "message" row := by
  rcases exists_secondPost with ⟨config, reachable, _, row, stored, sent⟩
  exact ⟨config, row, reachable, stored,
    proven_of_sent messageHost_unposted reachable stored sent⟩

end TennisAlerts.HostCore
