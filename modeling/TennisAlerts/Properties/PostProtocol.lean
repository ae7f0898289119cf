import TennisAlerts.Properties.Bystanders

/-!
# The protocol of the WeChat posts

Only the consumer that has the session lock changes queued rows, and only it posts.  So
what it knows of a row, and of the posts of that row, stays true until it posts itself.
A row that may be tried again was never submitted, and a row is sent by an answer to one
of its own posts or by evidence about its own text.
-/

namespace TennisAlerts.HostCore

open TennisAlerts.Concurrent TennisAlerts.Database

/-! ## Posts -/

/-- The entries of the WeChat consumer, newest first. -/
def postHistory (log : List Event) : List Event :=
  log.filter Event.isPost

/-- The post of the row that the entry begins. -/
def Event.postOf (id : String) : Event → Option Post
  | .posted post => if post.rowId = id then some post else none
  | _ => none

/-- The posts of a row, newest first. -/
def postsOf (id : String) (log : List Event) : List Post :=
  log.filterMap (Event.postOf id)

/-- The answer says that nothing was submitted. -/
def Answer.unsent : Answer → Bool
  | .connectTimeout => true
  | .raised _ => false
  | .reply message =>
      match readReply message with
      | .retry _ => true
      | _ => false

/-- The post has ended and nothing was submitted. -/
def Unsent (log : List Event) (post : Post) : Prop :=
  ∃ answer, Event.answered post answer ∈ log ∧ answer.unsent = true

/-- The posts of a row that may be posted again. -/
structure Untried (log : List Event) (id : String) (attempts : Nat) : Prop where
  unsent : ∀ post ∈ postsOf id log, Unsent log post
  counted : (postsOf id log).length ≤ attempts
  bounded : (postsOf id log).length < maxWechatAttempts

/-- What the sender is told of a row. -/
def WechatRow.sending (row : WechatRow) : String × String × Option String :=
  (row.receiver, row.deviceName, row.outboundMessage)

/-- What shows that the text of a row was sent. -/
inductive Proven (digests : Digests) (log : List Event) (id : String) (row : WechatRow) : Prop
  | answered (post : Post) (reply : Sender.Reply)
      (ended : Event.answered post (.reply reply) ∈ log) (own : post.rowId = id)
      (same : post.request = wechatRequest digests ⟨id, row⟩) (sent : readReply reply = .sent)
  | confirmed (outbound key : String) (evidence : Sender.Evidence)
      (text : row.outboundMessage = some outbound)
      (own : key = digests.idempotencyKey id outbound ∨ key = id)
      (found : Event.evidenced key (digests.payloadHash row outbound) evidence ∈ log)
      (sent : (confirmedAt evidence).isSome = true)

/-- What the history owes to a row of the status. -/
structure Permits (digests : Digests) (log : List Event) (id : String) (status : WechatStatus)
    (row : WechatRow) : Prop where
  untried : status.open = true → Untried log id row.attemptCount
  proven : status = .sent → Proven digests log id row

section

variable {digests : Digests} {log : List Event} {event : Event} {id : String} {post : Post}
  {row new : WechatRow} {status : WechatStatus}

theorem mem_postHistory (isPost : event.isPost = true) :
    event ∈ postHistory log ↔ event ∈ log := by
  simp [postHistory, isPost]

theorem postHistory_cons (isPost : event.isPost = true) :
    postHistory (event :: log) = event :: postHistory log := by
  simp [postHistory, isPost]

theorem postHistory_quiet (quiet : event.isPost = false) :
    postHistory (event :: log) = postHistory log := by
  simp [postHistory, quiet]

theorem mem_postsOf : post ∈ postsOf id log ↔ Event.posted post ∈ log ∧ post.rowId = id := by
  rw [postsOf, List.mem_filterMap]
  constructor
  · rintro ⟨entry, member, found⟩
    cases entry with
    | posted other =>
        rw [Event.postOf, Option.ite_none_right_eq_some] at found
        rcases found with ⟨own, ⟨⟩⟩
        exact ⟨member, own⟩
    | _ => cases found
  · rintro ⟨member, own⟩
    exact ⟨.posted post, member, if_pos own⟩

theorem postsOf_posted_self (own : post.rowId = id) :
    postsOf id (.posted post :: log) = post :: postsOf id log := by
  simp [postsOf, Event.postOf, own]

theorem postsOf_posted_other (other : post.rowId ≠ id) :
    postsOf id (.posted post :: log) = postsOf id log := by
  simp [postsOf, Event.postOf, other]

theorem postsOf_postHistory : postsOf id (postHistory log) = postsOf id log := by
  rw [postsOf, postHistory, List.filterMap_filter]
  congr 1
  funext entry
  cases entry <;> rfl

theorem Unsent.cons (unsent : Unsent log post) : Unsent (event :: log) post := by
  rcases unsent with ⟨answer, member, refused⟩
  exact ⟨answer, List.mem_cons_of_mem _ member, refused⟩

/-- An entry that is no post of the row. -/
theorem Untried.cons {attempts : Nat} (untried : Untried log id attempts)
    (same : postsOf id (event :: log) = postsOf id log) : Untried (event :: log) id attempts := by
  constructor
  · rw [same]
    exact fun post member => (untried.unsent post member).cons
  · rw [same]
    exact untried.counted
  · rw [same]
    exact untried.bounded

theorem Untried.mono {attempts more : Nat} (untried : Untried log id attempts)
    (fewer : attempts ≤ more) : Untried log id more :=
  ⟨untried.unsent, untried.counted.trans fewer, untried.bounded⟩

theorem Proven.cons (proven : Proven digests log id row) :
    Proven digests (event :: log) id row := by
  cases proven with
  | answered post reply ended own same sent =>
      exact .answered post reply (List.mem_cons_of_mem _ ended) own same sent
  | confirmed outbound key evidence text own found sent =>
      exact .confirmed outbound key evidence text own (List.mem_cons_of_mem _ found) sent

theorem wechatRequest_congr (same : new.sending = row.sending) :
    wechatRequest digests ⟨id, new⟩ = wechatRequest digests ⟨id, row⟩ := by
  simp only [WechatRow.sending, Prod.mk.injEq] at same
  simp only [wechatRequest, same]

theorem payloadHash_congr (same : new.sending = row.sending) {outbound : String} :
    digests.payloadHash new outbound = digests.payloadHash row outbound := by
  simp only [WechatRow.sending, Prod.mk.injEq] at same
  simp only [Digests.payloadHash, same]

theorem Proven.congr (proven : Proven digests log id row) (same : new.sending = row.sending) :
    Proven digests log id new := by
  cases proven with
  | answered post reply ended own request sent =>
      exact .answered post reply ended own (request.trans (wechatRequest_congr same).symm) sent
  | confirmed outbound key evidence text own found sent =>
      have isText : new.outboundMessage = some outbound :=
        (congrArg (fun sending => sending.2.2) same).trans text
      apply Proven.confirmed outbound key evidence isText own _ sent
      rwa [payloadHash_congr same]

theorem Permits.cons (permits : Permits digests log id status row)
    (same : status.open = true → postsOf id (event :: log) = postsOf id log) :
    Permits digests (event :: log) id status row :=
  ⟨fun isOpen => (permits.untried isOpen).cons (same isOpen),
    fun sent => (permits.proven sent).cons⟩

theorem Permits.congr (permits : Permits digests log id status row)
    (attempts : new.attemptCount = row.attemptCount) (same : new.sending = row.sending) :
    Permits digests log id status new := by
  constructor
  · rw [attempts]
    exact permits.untried
  · exact fun sent => (permits.proven sent).congr same

/-- A row that is neither sent nor tried again owes nothing. -/
theorem permits_closed (closed : status.open = false) (unsent : status ≠ .sent) :
    Permits digests log id status row := by
  constructor
  · rw [closed]
    rintro ⟨⟩
  · exact fun sent => absurd sent unsent

end

/-! ## The protocol -/

/-- The consumer has the session lock. -/
def Consuming (worker : String) (host : Host) : Prop :=
  ⟨.consumer, .exclusive, .session (.wechat worker)⟩ ∈ host.locks

/-- Who may hold a version of a queued row: the request that inserts it, or the consumer. -/
inductive QueueWriter (host : Host) (cell : Cell Tx WechatRow) : Tx → Prop
  | inserting (number : Nat) (missing : cell.base = none) :
      QueueWriter host cell (.work (.request number))
  | consuming (worker : String) (stored : cell.base.isSome = true)
      (alone : Consuming worker host) : QueueWriter host cell (.work (.wechat worker))

structure PostInvariant (digests : Digests) (host : Host) : Prop where
  exclusion : Exclusive host.locks
  writers : ∀ id tx version, (host.wechat.cell id).held = some (tx, version) →
    version.isSome = true ∧ QueueWriter host (host.wechat.cell id) tx
  sound : ∀ id row, (host.wechat.cell id).Version row →
    Permits digests (postHistory host.log) id row.status row
  known : ∀ post, Event.posted post ∈ postHistory host.log →
    (host.wechat.cell post.rowId).base.isSome = true
  numbered : ∀ post, Event.posted post ∈ postHistory host.log → post.attempt < host.log.length
  answered : ∀ post answer, Event.answered post answer ∈ postHistory host.log →
    Event.posted post ∈ postHistory host.log
  single : ∀ post answer other, Event.answered post answer ∈ postHistory host.log →
    Event.answered post other ∈ postHistory host.log → other = answer
  retried : ∀ newer older post, postHistory host.log = newer ++ .posted post :: older →
    ∀ earlier ∈ postsOf post.rowId older, Unsent older earlier
  bounded : ∀ id, (postsOf id (postHistory host.log)).length ≤ maxWechatAttempts

/-- What a process relies on: its locks, what it holds, and as the consumer the queue and
the posts. -/
structure PostRely (actor : Actor) (before after : Host) : Prop where
  locks : ∀ lock, lock.holder.actor = actor → (lock ∈ after.locks ↔ lock ∈ before.locks)
  held : ∀ id tx row, tx.actor = actor → ((after.wechat.cell id).held = some (tx, row) ↔
    (before.wechat.cell id).held = some (tx, row))
  rows : ∀ worker, actor = .wechat worker → Consuming worker before → ∀ id,
    (before.wechat.cell id).base.isSome = true → after.wechat.cell id = before.wechat.cell id
  posts : ∀ worker, actor = .wechat worker → Consuming worker before →
    postHistory after.log = postHistory before.log

/-- The consumer has no row of the queue in its transaction. -/
def Unwriting (worker : String) (host : Host) : Prop :=
  ∀ id row, (host.wechat.cell id).held ≠ some (.work (.wechat worker), row)

def postProtocol (digests : Digests) : Protocol Host Actor where
  invariant := PostInvariant digests
  rely := PostRely
  resting actor host := ∀ worker, actor = .wechat worker → Unwriting worker host

section

variable {digests : Digests} {actor : Actor} {worker : String} {before after host : Host}
  {id : String}

theorem Consuming.unique {other : String} (exclusion : Exclusive host.locks)
    (alone : Consuming worker host) (also : Consuming other host) : other = worker := by
  have same : Tx.session (.wechat other) = .session (.wechat worker) :=
    exclusion _ alone _ also rfl rfl
  cases same
  rfl

/-- What the consumer reads of a row is committed in some version. -/
theorem PostInvariant.stored_of_view (invariant : PostInvariant digests host) {row : WechatRow}
    (seen : (host.wechat.cell id).view (.work (.wechat worker)) = some row) :
    (host.wechat.cell id).base.isSome = true := by
  by_cases mine : ∃ version, (host.wechat.cell id).held =
      some (.work (.wechat worker), version)
  · rcases mine with ⟨version, held⟩
    rcases invariant.writers id _ version held with ⟨_, writer⟩
    cases writer with
    | consuming _ stored alone => exact stored
  · have unheld : ∀ version, (host.wechat.cell id).held ≠
        some (.work (.wechat worker), version) :=
      fun version held => mine ⟨version, held⟩
    rw [view_eq_base unheld] at seen
    rw [seen]
    rfl

theorem stable_unwriting : (postProtocol digests).Stable (.wechat worker) (Unwriting worker) := by
  intro before after _ _ relied unwriting id row held
  exact unwriting id row ((relied.held id _ row rfl).mp held)

/-! ### Moves -/

/-- One change of a process: the queue and the posts change for the consumer only, but
for new rows. -/
structure PostMove (actor : Actor) (before after : Host) : Prop where
  locks : LockChange actor before.locks after.locks
  cells : ∀ id, (before.wechat.cell id).Change (ownTx actor)
    (fun _ _ _ => (before.wechat.cell id).base = none ∨
      ∃ worker, actor = .wechat worker ∧ Consuming worker before) (after.wechat.cell id)
  posts : postHistory after.log = postHistory before.log ∨
    ∃ worker, actor = .wechat worker ∧ Consuming worker before

theorem PostMove.guarantees (move : PostMove actor before after)
    (invariant : PostInvariant digests before) :
    (postProtocol digests).Guarantees actor before after := by
  intro other different
  have foreign : ∀ worker, other = .wechat worker → Consuming worker before →
      ¬∃ worker, actor = .wechat worker ∧ Consuming worker before := by
    rintro worker rfl alone ⟨mover, rfl, moving⟩
    rw [Consuming.unique invariant.exclusion moving alone] at different
    exact different rfl
  constructor
  · rintro lock rfl
    exact move.locks.foreign different
  · rintro id tx row rfl
    constructor
    · exact fun held => (move.cells id).held_of_foreign held different
    · intro held
      rw [(move.cells id).foreign held different]
      exact held
  · intro worker mine alone id stored
    have unheld : ∀ tx row, tx.actor = actor →
        (before.wechat.cell id).held ≠ some (tx, row) := by
      intro tx row own held
      rcases invariant.writers id tx row held with ⟨_, writer⟩
      cases writer with
      | inserting number missing =>
          rw [missing] at stored
          cases stored
      | consuming mover _ moving => exact foreign worker mine alone ⟨mover, own.symm, moving⟩
    have change := move.cells id
    generalize after.wechat.cell id = later at change
    cases change with
    | same => rfl
    | publish tx row own held => exact absurd held (unheld tx row own)
    | drop tx row own held => exact absurd held (unheld tx row own)
    | hold tx new own free permitted =>
        rcases permitted with missing | consuming
        · rw [missing] at stored
          cases stored
        · exact absurd consuming (foreign worker mine alone)
  · intro worker mine alone
    exact move.posts.resolve_right (foreign worker mine alone)

/-- A change of the queue, while nothing is posted. -/
theorem PostMove.kept (move : PostMove actor before after)
    (invariant : PostInvariant digests before)
    (posts : postHistory after.log = postHistory before.log)
    (longer : before.log.length ≤ after.log.length)
    (writers : ∀ id tx version, (after.wechat.cell id).held = some (tx, version) →
      version.isSome = true ∧ QueueWriter after (after.wechat.cell id) tx)
    (sound : ∀ id row, (after.wechat.cell id).Version row →
      Permits digests (postHistory before.log) id row.status row)
    (stored : ∀ id, (before.wechat.cell id).base.isSome = true →
      (after.wechat.cell id).base.isSome = true) :
    PostInvariant digests after ∧ (postProtocol digests).Guarantees actor before after := by
  have kept : PostInvariant digests after := by
    constructor
    · exact move.locks.exclusive invariant.exclusion
    · exact writers
    · rw [posts]
      exact sound
    · rw [posts]
      exact fun post member => stored post.rowId (invariant.known post member)
    · rw [posts]
      exact fun post member => (invariant.numbered post member).trans_le longer
    · rw [posts]
      exact invariant.answered
    · rw [posts]
      exact invariant.single
    · rw [posts]
      exact invariant.retried
    · rw [posts]
      exact invariant.bounded
  exact ⟨kept, move.guarantees invariant⟩

/-! ### Processes beside the queue -/

/-- One change of a process that is not about the queue. -/
inductive AsideQueue (actor : Actor) (before : Host) : Host → Prop
  | still {after : Host} (queue : after.wechat = before.wechat)
      (posts : postHistory after.log = postHistory before.log)
      (longer : before.log.length ≤ after.log.length)
      (locks : LockChange actor before.locks after.locks)
      (kept : ∀ lock ∈ before.locks, lock ∈ after.locks) : AsideQueue actor before after
  | commit (tx : Tx) (own : tx.actor = actor) (brief : ∀ other, tx ≠ .session other)
      {log : List Event} (posts : postHistory log = postHistory before.log)
      (longer : before.log.length ≤ log.length) :
      AsideQueue actor before { before.commit tx with log := log }

theorem QueueWriter.still {cell : Cell Tx WechatRow} {tx : Tx} (writer : QueueWriter before cell tx)
    (kept : ∀ worker, tx = .work (.wechat worker) → Consuming worker before →
      Consuming worker after) : QueueWriter after cell tx := by
  cases writer with
  | inserting number missing => exact .inserting number missing
  | consuming worker stored alone => exact .consuming worker stored (kept worker rfl alone)

/-- A held version that is published is a row. -/
theorem PostInvariant.stored_commit (invariant : PostInvariant digests before) (tx : Tx)
    (stored : (before.wechat.cell id).base.isSome = true) :
    ((before.wechat.cell id).commit tx).base.isSome = true := by
  rcases base_commit_cases (before.wechat.cell id) tx with same | held
  · rw [same]
    exact stored
  · exact (invariant.writers id tx _ held).1

theorem AsideQueue.move (step : AsideQueue actor before after) : PostMove actor before after := by
  cases step with
  | still queue posts longer locks kept =>
      refine ⟨locks, ?_, .inl posts⟩
      intro id
      rw [queue]
      exact .same
  | commit tx own brief posts longer =>
      refine ⟨?_, ?_, .inl posts⟩
      · exact lockChange_commit own before.locks
      · exact fun id => .of_commit own

theorem AsideQueue.kept (step : AsideQueue actor before after)
    (invariant : PostInvariant digests before) :
    PostInvariant digests after ∧ (postProtocol digests).Guarantees actor before after := by
  have move := step.move
  cases step with
  | still queue posts longer locks kept =>
      apply move.kept invariant posts longer
      · intro id tx version held
        rw [queue] at held ⊢
        rcases invariant.writers id tx version held with ⟨present, writer⟩
        exact ⟨present, writer.still fun worker _ alone => kept _ alone⟩
      · rw [queue]
        exact invariant.sound
      · rw [queue]
        exact fun _ stored => stored
  | commit tx own brief posts longer =>
      apply move.kept invariant posts longer
      · intro id other version held
        rcases commit_of_held_foreign held with ⟨unchanged, _⟩
        change ((before.wechat.cell id).commit tx).held = _ at held
        rw [unchanged] at held
        rcases invariant.writers id other version held with ⟨present, writer⟩
        refine ⟨present, ?_⟩
        change QueueWriter _ ((before.wechat.cell id).commit tx) other
        rw [unchanged]
        apply writer.still
        intro worker _ alone
        exact List.mem_filter.mpr ⟨alone, by simpa using (brief _).symm⟩
      · exact fun id row version => invariant.sound id row (Cell.version_of_commit version)
      · exact fun id stored => invariant.stored_commit tx stored

/-- The crash of a process drops its rows and its locks. -/
theorem PostInvariant.crash (invariant : PostInvariant digests host) :
    PostInvariant digests (host.crash actor) ∧
      (postProtocol digests).Guarantees actor host (host.crash actor) := by
  have cell : ∀ id, (host.crash actor).wechat.cell id =
      (host.wechat.cell id).rollbackAll (connections actor) := fun _ => rfl
  have posts : postHistory (host.crash actor).log = postHistory host.log := postHistory_quiet rfl
  have move : PostMove actor host (host.crash actor) := by
    refine ⟨plainMove_crash.locks, ?_, .inl posts⟩
    exact fun id => .of_rollbackAll own_of_mem_connections
  apply move.kept invariant posts (Nat.le_succ _)
  · intro id tx version held
    rw [cell] at held ⊢
    rcases rollback_process_cases (host.wechat.cell id) actor with dropped | ⟨same, unheld⟩
    · rw [dropped] at held
      cases held
    · rw [same] at held ⊢
      rcases invariant.writers id tx version held with ⟨present, writer⟩
      refine ⟨present, writer.still ?_⟩
      rintro worker rfl alone
      have foreign : Actor.wechat worker ≠ actor := unheld _ version held
      exact mem_locks_crash.mpr ⟨alone, foreign⟩
  · intro id row version
    rw [cell] at version
    rcases rollback_process_cases (host.wechat.cell id) actor with dropped | ⟨same, _⟩
    · rw [dropped] at version
      rcases version with stored | ⟨_, impossible⟩
      · exact invariant.sound id row (.inl stored)
      · cases impossible
    · rw [same] at version
      exact invariant.sound id row version
  · intro id stored
    rw [cell, base_rollback_process]
    exact stored

/-- The consumer that has no row in its transaction gives up the session lock. -/
theorem PostInvariant.release (invariant : PostInvariant digests host)
    (unwriting : Unwriting worker host) :
    PostInvariant digests (host.commit (.session (.wechat worker))) ∧
      (postProtocol digests).Guarantees (.wechat worker) host
        (host.commit (.session (.wechat worker))) ∧
      Unwriting worker (host.commit (.session (.wechat worker))) := by
  have cell : ∀ id, (host.commit (.session (.wechat worker))).wechat.cell id =
      host.wechat.cell id := by
    intro id
    apply commit_eq_self
    intro row held
    rcases invariant.writers id _ row held with ⟨_, ⟨⟩⟩
  have move : PostMove (.wechat worker) host (host.commit (.session (.wechat worker))) := by
    have own : (Tx.session (.wechat worker)).actor = .wechat worker := rfl
    refine ⟨lockChange_commit own host.locks, ?_, .inl rfl⟩
    intro id
    rw [cell]
    exact .same
  have kept := move.kept invariant rfl le_rfl ?_ ?_ ?_
  · refine ⟨kept.1, kept.2, ?_⟩
    intro id row
    rw [cell]
    exact unwriting id row
  · intro id tx version held
    rw [cell] at held ⊢
    rcases invariant.writers id tx version held with ⟨present, writer⟩
    refine ⟨present, writer.still ?_⟩
    rintro other rfl alone
    have different : other ≠ worker := by
      rintro rfl
      exact unwriting id version held
    exact List.mem_filter.mpr ⟨alone, by simpa using different⟩
  · intro id row
    rw [cell]
    exact invariant.sound id row
  · intro id stored
    rw [cell]
    exact stored

/-! ### Rows -/

/-- A request puts a new row. -/
theorem PostInvariant.insert {number : Nat} {row : WechatRow}
    (invariant : PostInvariant digests host) (pending : row.status = .pending)
    (absent : (host.wechat.cell id).view (.work (.request number)) = none)
    (free : (host.wechat.cell id).free (.work (.request number)) = true) :
    PostInvariant digests
        (TableRef.wechat.put (host.wechat.insert (.work (.request number)) id row) host) ∧
      (postProtocol digests).Guarantees (.request number) host
        (TableRef.wechat.put (host.wechat.insert (.work (.request number)) id row) host) := by
  have empty : host.wechat.cell id = Cell.empty := by
    cases held : (host.wechat.cell id).held with
    | none => exact eq_empty held absent
    | some version =>
        rcases version with ⟨tx, stored⟩
        rw [Cell.view_of_free_of_held free held] at absent
        subst absent
        cases (invariant.writers id tx none held).1
  have unposted : ∀ post, post ∉ postsOf id (postHistory host.log) := by
    intro post member
    rcases mem_postsOf.mp member with ⟨posted, rfl⟩
    have known := invariant.known post posted
    rw [empty] at known
    cases known
  have move : PostMove (.request number) host
      (TableRef.wechat.put (host.wechat.insert (.work (.request number)) id row) host) := by
    refine ⟨.same, ?_, .inl rfl⟩
    intro other
    change (host.wechat.cell other).Change _ _ ((host.wechat.insert _ id row).cell other)
    by_cases same : other = id
    · subst same
      rw [VersionedTable.cell_insert_self]
      have own : ownTx (.request number) (Tx.work (.request number)) := rfl
      exact .hold (Tx.work (.request number)) (some row) own free (.inl (congrArg Cell.base empty))
    · rw [VersionedTable.cell_insert_of_ne same]
      exact .same
  apply move.kept invariant rfl le_rfl
  · intro other tx version held
    change ((host.wechat.insert _ id row).cell other).held = _ at held
    change _ ∧ QueueWriter _ ((host.wechat.insert _ id row).cell other) tx
    by_cases same : other = id
    · subst same
      rw [VersionedTable.cell_insert_self, empty] at held ⊢
      cases held
      exact ⟨rfl, .inserting number rfl⟩
    · rw [VersionedTable.cell_insert_of_ne same] at held ⊢
      rcases invariant.writers other tx version held with ⟨present, writer⟩
      exact ⟨present, writer.still fun _ _ alone => alone⟩
  · intro other new version
    change ((host.wechat.insert _ id row).cell other).Version new at version
    by_cases same : other = id
    · subst same
      rw [VersionedTable.cell_insert_self, empty, Cell.version_hold_iff] at version
      rcases version with impossible | put
      · cases impossible
      cases put
      have none := List.eq_nil_iff_forall_not_mem.mpr unposted
      rw [pending]
      constructor
      · intro _
        constructor
        · exact fun post member => absurd member (unposted post)
        · simp [none]
        · simp [none, maxWechatAttempts]
      · rintro ⟨⟩
    · rw [VersionedTable.cell_insert_of_ne same] at version
      exact invariant.sound other new version
  · intro other stored
    change ((host.wechat.insert _ id row).cell other).base.isSome = true
    by_cases same : other = id
    · subst same
      rw [empty] at stored
      cases stored
    · rw [VersionedTable.cell_insert_of_ne same]
      exact stored

/-- The consumer updates rows. -/
theorem PostInvariant.update {statement : String → WechatRow → Option WechatRow}
    (invariant : PostInvariant digests host) (alone : Consuming worker host)
    (writable : host.wechat.writable (.work (.wechat worker))
      (fun id row => (statement id row).map some) = true)
    (sound : ∀ id row new, (host.wechat.cell id).view (.work (.wechat worker)) = some row →
      statement id row = some new → Permits digests (postHistory host.log) id new.status new) :
    PostInvariant digests (TableRef.wechat.put (host.wechat.write (.work (.wechat worker))
        fun id row => (statement id row).map some) host) ∧
      (postProtocol digests).Guarantees (.wechat worker) host
        (TableRef.wechat.put (host.wechat.write (.work (.wechat worker))
          fun id row => (statement id row).map some) host) := by
  have cases : ∀ id, (host.wechat.write (.work (.wechat worker))
        fun id row => (statement id row).map some).cell id = host.wechat.cell id ∨
      ∃ row new, (host.wechat.cell id).view (.work (.wechat worker)) = some row ∧
        statement id row = some new ∧ (host.wechat.write (.work (.wechat worker))
          fun id row => (statement id row).map some).cell id =
            (host.wechat.cell id).hold (.work (.wechat worker)) (some new) := by
    intro id
    rcases VersionedTable.cell_write_cases writable id with
      ⟨unchanged, _⟩ | ⟨row, put, seen, chosen, _, changed⟩
    · exact .inl unchanged
    · rcases Option.map_eq_some_iff.mp chosen with ⟨new, written, rfl⟩
      exact .inr ⟨row, new, seen, written, changed⟩
  have move : PostMove (.wechat worker) host
      (TableRef.wechat.put (host.wechat.write (.work (.wechat worker))
        fun id row => (statement id row).map some) host) := by
    refine ⟨.same, ?_, .inl rfl⟩
    intro id
    have own : ownTx (.wechat worker) (Tx.work (.wechat worker)) := rfl
    apply VersionedTable.change_write own writable
    exact fun _ _ _ _ => .inr ⟨worker, rfl, alone⟩
  apply move.kept invariant rfl le_rfl
  · intro id tx version held
    change ((host.wechat.write _ _).cell id).held = _ at held
    change _ ∧ QueueWriter _ ((host.wechat.write _ _).cell id) tx
    rcases cases id with unchanged | ⟨row, new, seen, written, changed⟩
    · rw [unchanged] at held ⊢
      rcases invariant.writers id tx version held with ⟨present, writer⟩
      exact ⟨present, writer.still fun _ _ alone => alone⟩
    · rw [changed] at held ⊢
      cases held
      exact ⟨rfl, .consuming worker (invariant.stored_of_view seen) alone⟩
  · intro id row version
    change ((host.wechat.write _ _).cell id).Version row at version
    rcases cases id with unchanged | ⟨old, new, seen, written, changed⟩
    · rw [unchanged] at version
      exact invariant.sound id row version
    · rw [changed, Cell.version_hold_iff] at version
      rcases version with stored | put
      · exact invariant.sound id row (.inl stored)
      · cases put
        exact sound id old row seen written
  · intro id stored
    change ((host.wechat.write _ _).cell id).base.isSome = true
    rcases cases id with unchanged | ⟨_, _, _, _, changed⟩
    · rw [unchanged]
      exact stored
    · rw [changed]
      exact stored

/-! ### Entries -/

/-- The consumer adds to the history. -/
structure PostEntry (digests : Digests) (worker : String) (event : Event) (host : Host) : Prop where
  alone : Consuming worker host
  isPost : event.isPost = true
  posted : ∀ post, event = .posted post → post.attempt = host.log.length ∧
    (host.wechat.cell post.rowId).base.isSome = true ∧
    (∀ row, (host.wechat.cell post.rowId).Version row → row.status.open = false) ∧
    Untried (postHistory host.log) post.rowId maxWechatAttempts
  answered : ∀ post answer, event = .answered post answer →
    Event.posted post ∈ postHistory host.log ∧
    ∀ other, Event.answered post other ∉ postHistory host.log

theorem postsOf_cons (event : Event) (log : List Event) (id : String) :
    postsOf id (event :: log) = postsOf id log ∨
      ∃ post, event = .posted post ∧ post.rowId = id ∧
        postsOf id (event :: log) = post :: postsOf id log := by
  cases event with
  | posted post =>
      by_cases own : post.rowId = id
      · exact .inr ⟨post, rfl, own, postsOf_posted_self own⟩
      · exact .inl (postsOf_posted_other own)
  | _ => exact .inl rfl

theorem PostEntry.kept {event : Event} (entry : PostEntry digests worker event host)
    (invariant : PostInvariant digests host) :
    PostInvariant digests (host.record event) ∧
      (postProtocol digests).Guarantees (.wechat worker) host (host.record event) := by
  have move : PostMove (.wechat worker) host (host.record event) :=
    ⟨.same, fun _ => .same, .inr ⟨worker, rfl, entry.alone⟩⟩
  have posts : postHistory (host.record event).log = event :: postHistory host.log :=
    postHistory_cons entry.isPost
  refine ⟨?_, move.guarantees invariant⟩
  constructor
  · exact invariant.exclusion
  · intro id tx version held
    rcases invariant.writers id tx version held with ⟨present, writer⟩
    exact ⟨present, writer.still fun _ _ alone => alone⟩
  · intro id row version
    rw [posts]
    apply (invariant.sound id row version).cons
    intro isOpen
    rcases postsOf_cons event (postHistory host.log) id with same | ⟨post, isPosted, rfl, _⟩
    · exact same
    · rw [(entry.posted post isPosted).2.2.1 row version] at isOpen
      cases isOpen
  · intro post member
    rw [posts] at member
    rcases List.mem_cons.mp member with isPosted | older
    · exact (entry.posted post isPosted.symm).2.1
    · exact invariant.known post older
  · intro post member
    rw [posts] at member
    rcases List.mem_cons.mp member with isPosted | older
    · rw [(entry.posted post isPosted.symm).1]
      exact Nat.lt_succ_self _
    · exact (invariant.numbered post older).trans (Nat.lt_succ_self _)
  · intro post answer member
    rw [posts] at member ⊢
    apply List.mem_cons_of_mem
    rcases List.mem_cons.mp member with isAnswered | older
    · exact (entry.answered post answer isAnswered.symm).1
    · exact invariant.answered post answer older
  · intro post answer other first second
    rw [posts] at first second
    rcases List.mem_cons.mp first with isAnswer | older
    · rcases List.mem_cons.mp second with isOther | older
      · rw [← isAnswer] at isOther
        cases isOther
        rfl
      · exact absurd older ((entry.answered post answer isAnswer.symm).2 other)
    · rcases List.mem_cons.mp second with isOther | older'
      · exact absurd older ((entry.answered post other isOther.symm).2 answer)
      · exact invariant.single post answer other older older'
  · intro newer older post split earlier member
    rw [posts] at split
    cases newer with
    | nil =>
        rcases List.cons.inj split with ⟨rfl, rfl⟩
        exact (entry.posted post rfl).2.2.2.unsent earlier member
    | cons head newer =>
        rcases List.cons.inj split with ⟨_, split⟩
        exact invariant.retried newer older post split earlier member
  · intro id
    rw [posts]
    rcases postsOf_cons event (postHistory host.log) id with same | ⟨post, isPosted, rfl, longer⟩
    · rw [same]
      exact invariant.bounded id
    · rw [longer]
      exact (entry.posted post isPosted).2.2.2.bounded

end

end TennisAlerts.HostCore
