import TennisAlerts.Concurrent.RelyGuarantee
import TennisAlerts.Database.Change
import TennisAlerts.Properties.FenceHistory

/-!
# The protocol of the delivery fence

Preferences, the delivery switch and cancellations are committed under the
exclusive delivery lock; an external call is made under the shared one.  So the
history cannot gain a fence while a call is in progress, and what a process read
about fences under its guard still holds when its call starts.
-/

namespace TennisAlerts.HostCore

open TennisAlerts.Concurrent TennisAlerts.Database

/-- The transaction holds the delivery lock alone. -/
def Fenced (tx : Tx) (host : Host) : Prop :=
  ⟨.delivery, .exclusive, tx⟩ ∈ host.locks

/-- The delivery guard of the process is up. -/
def Guarded (actor : Actor) (host : Host) : Prop :=
  ⟨.delivery, .shared, .guard actor⟩ ∈ host.locks

/-- What an outbox row is about. -/
def OutboxRow.identity (row : OutboxRow) : String × String × String :=
  (row.email, row.subscriptionId, row.eventKey)

theorem SameSubject.identity_eq {row new : OutboxRow} (same : SameSubject row new) :
    new.identity = row.identity := by
  simp [OutboxRow.identity, same.email, same.subscriptionId, same.eventKey]

/-- Only requests insert outbox rows and slots. -/
def Tx.isRequest (tx : Tx) : Prop :=
  ∃ number, tx.actor = .request number

/-- No fence of the history affects the committed row. -/
def ClearRow (host : Host) (log : List Event) (id : String) : Prop :=
  ∃ row slot, ((host.outbox .subscriber).cell id).base = some row ∧
    (host.slots.cell row.eventKey).base = some slot ∧
    Event.cancelled row.subscriptionId ∉ log ∧
    pausedIn row.email slot.bookingDate log = false

/-- No fence of the history affects the call. -/
def ClearCall (host : Host) (log : List Event) (call : Call) : Prop :=
  deliveryOff log = false ∧
    (call.channel = .subscriber → ∀ id ∈ call.rowIds, ClearRow host log id)

structure FenceInvariant (host : Host) : Prop where
  exclusion : ∀ first ∈ host.locks, ∀ second ∈ host.locks, first.key = .delivery →
    second.key = .delivery → first.mode = .exclusive → second.holder = first.holder
  pauses : ∀ key tx row, (host.pauses.cell key).held = some (tx, row) → Fenced tx host
  control : ∀ tx row, (host.control.cell ()).held = some (tx, row) → Fenced tx host
  off : deliveryOff host.log = true → ∀ row, (host.control.cell ()).base = some row →
    row.deliveryEnabled = false
  rules : ∀ email date, pausedIn email date host.log = true →
    ∃ rule, (host.pauses.cell (email, date)).base = some rule ∧ rule.paused = true
  undeleted : ∀ id tx, (host.subscriptions.cell id).held ≠ some (tx, none)
  cancelled : ∀ id, Event.cancelled id ∈ host.log →
    (host.subscriptions.cell id).base.isSome = true ∧
      ∀ row, (host.subscriptions.cell id).Version row → row.active = false
  outbox : ∀ id, ((host.outbox .subscriber).cell id).Lasting OutboxRow.identity Tx.isRequest
  slots : ∀ key, (host.slots.cell key).Lasting SlotRow.bookingDate Tx.isRequest
  guarded : ∀ send, InProgress send host.log → Guarded send.actor host
  calls : ∀ newer older call, host.log = newer ++ .began call :: older →
    ClearCall host older call
  posts : ∀ newer older post, host.log = newer ++ .posted post :: older →
    deliveryOff older = false
  quiet : ∀ newer older event, host.log = newer ++ event :: older → event.isFence = true →
    ∀ send, ¬InProgress send older

/-- What a process relies on: its locks and the rows it holds, its own calls, and
while it holds the delivery lock, the fences. -/
structure FenceRely (actor : Actor) (before after : Host) : Prop where
  locks : ∀ lock, lock.holder.actor = actor → (lock ∈ after.locks ↔ lock ∈ before.locks)
  pauses : Fenced (.work actor) before → ∀ key, after.pauses.cell key = before.pauses.cell key
  control : Fenced (.work actor) before → after.control.cell () = before.control.cell ()
  subscriptions : ∀ id row, (before.subscriptions.cell id).held = some (.work actor, row) →
    after.subscriptions.cell id = before.subscriptions.cell id
  fences : (∃ lock ∈ before.locks, lock.key = .delivery ∧ lock.holder.actor = actor) →
    SameFences before.log after.log
  sends : ∀ send, send.actor = actor →
    (InProgress send after.log ↔ InProgress send before.log)
  outbox : ∀ id row, ((before.outbox .subscriber).cell id).base = some row →
    ∃ new, ((after.outbox .subscriber).cell id).base = some new ∧ new.identity = row.identity
  slots : ∀ key slot, (before.slots.cell key).base = some slot →
    ∃ new, (after.slots.cell key).base = some new ∧ new.bookingDate = slot.bookingDate

/-- Between two operations a process neither fences delivery nor makes a call. -/
structure Calm (actor : Actor) (host : Host) : Prop where
  unfenced : ∀ tx, tx.actor = actor → ¬Fenced tx host
  idle : ∀ send, send.actor = actor → ¬InProgress send host.log

def fenceProtocol : Protocol Host Actor where
  invariant := FenceInvariant
  rely := FenceRely
  resting := Calm

theorem stable_calm {actor : Actor} : fenceProtocol.Stable actor (Calm actor) := by
  intro before after _ _ relied calm
  constructor
  · intro tx own fenced
    exact calm.unfenced tx own ((relied.locks _ own).mp fenced)
  · intro send mine running
    exact calm.idle send mine ((relied.sends send mine).mp running)

/-- A step keeps the invariant and what the other processes rely on. -/
def FenceKept (actor : Actor) (before after : Host) : Prop :=
  FenceInvariant after ∧ fenceProtocol.Guarantees actor before after

/-! ## Locks -/

/-- A change of the locks by one process. -/
inductive LockChange (actor : Actor) (locks : List LockHeld) : List LockHeld → Prop
  | same : LockChange actor locks locks
  | take (lock : LockHeld) (own : lock.holder.actor = actor)
      (free : ∀ other ∈ locks, other.key = lock.key →
        other.holder = lock.holder ∨ (other.mode = .shared ∧ lock.mode = .shared)) :
      LockChange actor locks (lock :: locks)
  | release (keep : LockHeld → Bool) (own : ∀ lock, keep lock = false → lock.holder.actor = actor) :
      LockChange actor locks (locks.filter keep)

theorem Host.mayLock_iff {host : Host} {tx : Tx} {key : LockKey} {mode : LockMode} :
    host.mayLock tx key mode = true ↔ ∀ other ∈ host.locks, other.key = key →
      other.holder = tx ∨ (other.mode = .shared ∧ mode = .shared) := by
  simp only [Host.mayLock, List.all_eq_true, Bool.or_eq_true, decide_eq_true_eq,
    Bool.and_eq_true, ne_eq]
  constructor
  · intro accepted other member sameKey
    rcases accepted other member with (different | same) | shared
    · exact absurd sameKey (by simpa using different)
    · exact Or.inl same
    · exact Or.inr shared
  · intro accepted other member
    by_cases sameKey : other.key = key
    · rcases accepted other member sameKey with same | shared
      · exact Or.inl (Or.inr same)
      · exact Or.inr shared
    · exact Or.inl (Or.inl (by simpa using sameKey))

section

variable {actor : Actor} {locks later : List LockHeld}

theorem LockChange.foreign (change : LockChange actor locks later) {lock : LockHeld}
    (foreign : lock.holder.actor ≠ actor) : lock ∈ later ↔ lock ∈ locks := by
  cases change with
  | same => exact Iff.rfl
  | take added own free =>
      rw [List.mem_cons, or_iff_right]
      rintro rfl
      exact foreign own
  | release keep own =>
      rw [List.mem_filter, and_iff_left]
      by_contra dropped
      exact foreign (own lock (by simpa using dropped))

theorem LockChange.exclusion (change : LockChange actor locks later)
    (exclusion : ∀ first ∈ locks, ∀ second ∈ locks, first.key = .delivery →
      second.key = .delivery → first.mode = .exclusive → second.holder = first.holder) :
    ∀ first ∈ later, ∀ second ∈ later, first.key = .delivery →
      second.key = .delivery → first.mode = .exclusive → second.holder = first.holder := by
  intro first memberFirst second memberSecond keyFirst keySecond exclusive
  cases change with
  | same => exact exclusion first memberFirst second memberSecond keyFirst keySecond exclusive
  | take added own free =>
      rcases List.mem_cons.mp memberFirst with rfl | oldFirst
      · rcases List.mem_cons.mp memberSecond with rfl | oldSecond
        · rfl
        · rcases free second oldSecond (keySecond.trans keyFirst.symm) with same | ⟨_, shared⟩
          · exact same
          · rw [exclusive] at shared
            cases shared
      · rcases List.mem_cons.mp memberSecond with rfl | oldSecond
        · rcases free first oldFirst (keyFirst.trans keySecond.symm) with same | ⟨shared, _⟩
          · exact same.symm
          · rw [exclusive] at shared
            cases shared
        · exact exclusion first oldFirst second oldSecond keyFirst keySecond exclusive
  | release keep own =>
      exact exclusion first (List.mem_of_mem_filter memberFirst) second
        (List.mem_of_mem_filter memberSecond) keyFirst keySecond exclusive

end

/-- A fenced transaction excludes every other holder of the delivery lock. -/
theorem FenceInvariant.holder_eq {host : Host} (invariant : FenceInvariant host) {tx : Tx}
    (fenced : Fenced tx host) {lock : LockHeld} (member : lock ∈ host.locks)
    (key : lock.key = .delivery) : lock.holder = tx :=
  invariant.exclusion _ fenced lock member rfl key rfl

/-! ## Moves without a fence -/

/-- The transactions of a process. -/
def ownTx (actor : Actor) (tx : Tx) : Prop :=
  tx.actor = actor

/-- A subscription is written without being reactivated, and never deleted. -/
def putsSubscription (_ : Tx) (old new : Option SubscriptionRow) : Prop :=
  ∃ row, new = some row ∧
    ∀ previous, old = some previous → row.active = true → previous.active = true

/-- A cell that only fenced transactions write: it is left to them, or dropped. -/
def LeftAlone {ρ : Type} (actor : Actor) (before after : Host) (cell later : Cell Tx ρ) : Prop :=
  (later = cell ∧ ∀ tx row, cell.held = some (tx, row) → Fenced tx before → Fenced tx after) ∨
    ∃ tx row, tx.actor = actor ∧ cell.held = some (tx, row) ∧ later = ⟨cell.base, none⟩

/-- What entitles a process to add an entry that is no fence. -/
def Admitted (actor : Actor) (host : Host) : Event → Prop
  | .began call => actor = .worker call.worker ∧ Guarded actor host ∧
      ClearCall host host.log call
  | .posted post => actor = .wechat post.worker ∧ Guarded actor host ∧
      deliveryOff host.log = false
  | .ended call _ => actor = .worker call.worker
  | .answered post _ => actor = .wechat post.worker
  | .crashed crashed => crashed = actor
  | .reserved _ _ _ | .dispatched _ _ _ | .evidenced _ _ _ | .ingested _ | .redeemed _ => True
  | .paused _ _ | .resumed _ _ | .cancelled _ | .deliverySet _ => False

/-- A change of a process that fences nothing. -/
structure PlainMove (actor : Actor) (before after : Host) : Prop where
  locks : LockChange actor before.locks after.locks
  guard : ∀ lock ∈ before.locks, lock.holder = .guard actor → lock ∈ after.locks ∨
    ∀ send, send.actor = actor → ¬InProgress send after.log
  pauses : ∀ key, LeftAlone actor before after (before.pauses.cell key) (after.pauses.cell key)
  control : LeftAlone actor before after (before.control.cell ()) (after.control.cell ())
  subscriptions : ∀ id, (before.subscriptions.cell id).Change (ownTx actor) putsSubscription
    (after.subscriptions.cell id)
  outbox : ∀ id, ((before.outbox .subscriber).cell id).Change (ownTx actor)
    (Cell.putsLasting OutboxRow.identity Tx.isRequest) ((after.outbox .subscriber).cell id)
  slots : ∀ key, (before.slots.cell key).Change (ownTx actor)
    (Cell.putsLasting SlotRow.bookingDate Tx.isRequest) (after.slots.cell key)
  log : after.log = before.log ∨
    ∃ event, after.log = event :: before.log ∧ Admitted actor before event

section

variable {actor : Actor} {before after : Host}

theorem not_isFence_of_admitted {host : Host} {event : Event}
    (admitted : Admitted actor host event) : event.isFence = false := by
  cases event with
  | paused => exact admitted.elim
  | resumed => exact admitted.elim
  | cancelled => exact admitted.elim
  | deliverySet => exact admitted.elim
  | _ => rfl

theorem PlainMove.sameFences (move : PlainMove actor before after) :
    SameFences before.log after.log := by
  rcases move.log with same | ⟨event, extended, admitted⟩
  · rw [same]
    rfl
  · rw [extended]
    exact fences_cons_of_not (not_isFence_of_admitted admitted)

/-- Only the process itself starts and ends its calls. -/
theorem PlainMove.inProgress_iff (move : PlainMove actor before after) {send : Send}
    (foreign : send.actor ≠ actor) :
    InProgress send after.log ↔ InProgress send before.log := by
  rcases move.log with same | ⟨event, extended, admitted⟩
  · rw [same]
  · rw [extended]
    apply inProgress_cons_iff
    · rintro rfl
      cases send with
      | email call => exact foreign admitted.1.symm
      | wechat post => exact foreign admitted.1.symm
    · cases event with
      | ended call outcome =>
          simp only [Event.ends, decide_eq_false_iff_not]
          rintro rfl
          exact foreign admitted.symm
      | answered post answer =>
          simp only [Event.ends, decide_eq_false_iff_not]
          rintro rfl
          exact foreign admitted.symm
      | crashed crashed =>
          simp only [Event.ends, decide_eq_false_iff_not]
          rintro rfl
          exact foreign admitted
      | _ => rfl

/-- Rows without fences stay without fences. -/
theorem ClearRow.later {log : List Event} {id : String}
    (rows : ∀ id row, ((before.outbox .subscriber).cell id).base = some row →
      ∃ new, ((after.outbox .subscriber).cell id).base = some new ∧ new.identity = row.identity)
    (slots : ∀ key slot, (before.slots.cell key).base = some slot →
      ∃ new, (after.slots.cell key).base = some new ∧ new.bookingDate = slot.bookingDate)
    (clear : ClearRow before log id) : ClearRow after log id := by
  obtain ⟨row, slot, storedRow, storedSlot, uncancelled, unpaused⟩ := clear
  obtain ⟨newRow, storedRow', sameRow⟩ := rows id row storedRow
  obtain ⟨newSlot, storedSlot', sameDate⟩ := slots row.eventKey slot storedSlot
  simp only [OutboxRow.identity, Prod.mk.injEq] at sameRow
  obtain ⟨sameEmail, sameSubscription, sameKey⟩ := sameRow
  refine ⟨newRow, newSlot, storedRow', ?_, ?_, ?_⟩
  · rw [sameKey]
    exact storedSlot'
  · rw [sameSubscription]
    exact uncancelled
  · rw [sameEmail, sameDate]
    exact unpaused

/-- A cancelled subscription stays cancelled. -/
theorem cancelled_change {cell later : Cell Tx SubscriptionRow}
    (change : cell.Change (ownTx actor) putsSubscription later)
    (undeleted : ∀ tx, cell.held ≠ some (tx, none)) :
    (∀ tx, later.held ≠ some (tx, none)) ∧
      (cell.base.isSome = true → (∀ row, cell.Version row → row.active = false) →
        later.base.isSome = true ∧ ∀ row, later.Version row → row.active = false) := by
  cases change with
  | same => exact ⟨undeleted, fun stored inactive => ⟨stored, inactive⟩⟩
  | publish writer row mine held =>
      refine ⟨by simp, fun _ inactive => ?_⟩
      cases row with
      | none => exact absurd held (undeleted writer)
      | some row =>
          refine ⟨rfl, ?_⟩
          rintro other (stored | ⟨_, impossible⟩)
          · cases stored
            exact inactive row (Or.inr ⟨writer, held⟩)
          · cases impossible
  | drop writer row mine held =>
      refine ⟨by simp, fun stored inactive => ⟨stored, ?_⟩⟩
      rintro other (stored | ⟨_, impossible⟩)
      · exact inactive other (Or.inl stored)
      · cases impossible
  | hold writer new mine free permitted =>
      obtain ⟨row, rfl, kept⟩ := permitted
      refine ⟨by simp, fun stored inactive => ⟨stored, ?_⟩⟩
      intro other version
      rw [Cell.version_hold_iff] at version
      rcases version with stored' | put
      · exact inactive other (Or.inl stored')
      · cases put
        cases seen : cell.view writer with
        | none =>
            obtain ⟨base, stored⟩ := Option.isSome_iff_exists.mp stored
            unfold Cell.view at seen
            split at seen
            · rename_i holder held held_eq
              split at seen
              · subst seen
                exact absurd held_eq (undeleted holder)
              · rw [stored] at seen
                cases seen
            · rw [stored] at seen
              cases seen
        | some previous =>
            by_contra reactivated
            rw [Bool.not_eq_false] at reactivated
            have active := kept previous seen reactivated
            rw [inactive previous (Cell.version_of_view seen)] at active
            cases active

theorem PlainMove.outbox_base (move : PlainMove actor before after)
    (invariant : FenceInvariant before) (id : String) (row : OutboxRow)
    (stored : ((before.outbox .subscriber).cell id).base = some row) :
    ∃ new, ((after.outbox .subscriber).cell id).base = some new ∧ new.identity = row.identity :=
  (invariant.outbox id).base_change (move.outbox id) stored

theorem PlainMove.slots_base (move : PlainMove actor before after)
    (invariant : FenceInvariant before) (key : String) (slot : SlotRow)
    (stored : (before.slots.cell key).base = some slot) :
    ∃ new, (after.slots.cell key).base = some new ∧ new.bookingDate = slot.bookingDate :=
  (invariant.slots key).base_change (move.slots key) stored

theorem LeftAlone.base_eq {ρ : Type} {cell later : Cell Tx ρ}
    (alone : LeftAlone actor before after cell later) : later.base = cell.base := by
  rcases alone with ⟨rfl, _⟩ | ⟨_, _, _, _, rfl⟩ <;> rfl

theorem LeftAlone.fenced {ρ : Type} {cell later : Cell Tx ρ}
    (alone : LeftAlone actor before after cell later)
    (held : ∀ tx row, cell.held = some (tx, row) → Fenced tx before) {tx : Tx} {row : Option ρ}
    (still : later.held = some (tx, row)) : Fenced tx after := by
  rcases alone with ⟨rfl, kept⟩ | ⟨_, _, _, _, rfl⟩
  · exact kept tx row still (held tx row still)
  · cases still

/-- A foreign fenced transaction keeps its cells. -/
theorem LeftAlone.eq_of_fenced {ρ : Type} {cell later : Cell Tx ρ} {other : Actor}
    (alone : LeftAlone actor before after cell later) (invariant : FenceInvariant before)
    (held : ∀ tx row, cell.held = some (tx, row) → Fenced tx before)
    (fenced : Fenced (.work other) before) (different : other ≠ actor) : later = cell := by
  rcases alone with ⟨same, _⟩ | ⟨tx, row, own, isHeld, _⟩
  · exact same
  · have holder := invariant.holder_eq fenced (held tx row isHeld) rfl
    rw [show tx = .work other from holder] at own
    exact absurd own different

end

/-- Splitting a history that gained one entry. -/
theorem split_cons {event entry : Event} {log newer older : List Event}
    (split : entry :: log = newer ++ event :: older) :
    (entry = event ∧ log = older) ∨
    ∃ rest, newer = entry :: rest ∧ log = rest ++ event :: older := by
  cases newer with
  | nil =>
      cases split
      exact Or.inl ⟨rfl, rfl⟩
  | cons first rest =>
      simp only [List.cons_append, List.cons.injEq] at split
      rcases split with ⟨rfl, split⟩
      exact Or.inr ⟨rest, rfl, split⟩

theorem PlainMove.invariant {actor : Actor} {before after : Host}
    (move : PlainMove actor before after) (invariant : FenceInvariant before) :
    FenceInvariant after := by
  have fences := move.sameFences
  constructor
  · exact move.locks.exclusion invariant.exclusion
  · intro key tx row held
    exact (move.pauses key).fenced (invariant.pauses key) held
  · intro tx row held
    exact move.control.fenced invariant.control held
  · intro off row stored
    rw [fences.deliveryOff] at off
    rw [move.control.base_eq] at stored
    exact invariant.off off row stored
  · intro email date paused
    rw [fences.pausedIn] at paused
    rw [(move.pauses (email, date)).base_eq]
    exact invariant.rules email date paused
  · intro id
    exact (cancelled_change (move.subscriptions id) (invariant.undeleted id)).1
  · intro id member
    rw [fences.cancelled] at member
    obtain ⟨stored, inactive⟩ := invariant.cancelled id member
    exact (cancelled_change (move.subscriptions id) (invariant.undeleted id)).2 stored inactive
  · intro id
    exact (invariant.outbox id).change (move.outbox id)
  · intro key
    exact (invariant.slots key).change (move.slots key)
  · intro send running
    by_cases mine : send.actor = actor
    · have guarded : Guarded send.actor before := by
        rcases move.log with same | ⟨event, extended, admitted⟩
        · rw [same] at running
          exact invariant.guarded send running
        · rw [extended] at running
          rcases running with started | ⟨_, older⟩
          · subst started
            cases send with
            | email call =>
                rw [mine]
                exact admitted.2.1
            | wechat post =>
                rw [mine]
                exact admitted.2.1
          · exact invariant.guarded send older
      rcases move.guard _ guarded (by rw [mine]) with kept | finished
      · exact kept
      · exact absurd running (finished send mine)
    · rw [move.inProgress_iff mine] at running
      have guarded := invariant.guarded send running
      have foreign : (Tx.guard send.actor).actor ≠ actor := mine
      exact (move.locks.foreign foreign).mpr guarded
  · intro newer older call split
    have clear : ClearCall before older call := by
      rcases move.log with same | ⟨event, extended, admitted⟩
      · rw [same] at split
        exact invariant.calls newer older call split
      · rw [extended] at split
        rcases split_cons split with ⟨rfl, rfl⟩ | ⟨rest, _, older_split⟩
        · exact admitted.2.2
        · exact invariant.calls rest older call older_split
    refine ⟨clear.1, fun subscriber id member => ?_⟩
    exact (clear.2 subscriber id member).later (move.outbox_base invariant)
      (move.slots_base invariant)
  · intro newer older post split
    rcases move.log with same | ⟨event, extended, admitted⟩
    · rw [same] at split
      exact invariant.posts newer older post split
    · rw [extended] at split
      rcases split_cons split with ⟨rfl, rfl⟩ | ⟨rest, _, older_split⟩
      · exact admitted.2.2
      · exact invariant.posts rest older post older_split
  · intro newer older event split fence
    rcases move.log with same | ⟨entry, extended, admitted⟩
    · rw [same] at split
      exact invariant.quiet newer older event split fence
    · rw [extended] at split
      rcases split_cons split with ⟨rfl, rfl⟩ | ⟨rest, _, older_split⟩
      · rw [not_isFence_of_admitted admitted] at fence
        cases fence
      · exact invariant.quiet rest older event older_split fence

theorem PlainMove.guarantees {actor : Actor} {before after : Host}
    (move : PlainMove actor before after) (invariant : FenceInvariant before) :
    fenceProtocol.Guarantees actor before after := by
  intro other different
  constructor
  · rintro lock rfl
    exact move.locks.foreign different
  · intro fenced key
    exact (move.pauses key).eq_of_fenced invariant (invariant.pauses key) fenced different
  · intro fenced
    exact move.control.eq_of_fenced invariant invariant.control fenced different
  · intro id row held
    exact (move.subscriptions id).foreign held different
  · exact fun _ => move.sameFences
  · rintro send rfl
    exact move.inProgress_iff different
  · exact move.outbox_base invariant
  · exact move.slots_base invariant

theorem PlainMove.kept {actor : Actor} {before after : Host}
    (move : PlainMove actor before after) (invariant : FenceInvariant before) :
    FenceKept actor before after :=
  ⟨move.invariant invariant, move.guarantees invariant⟩

/-! ### Kinds of moves -/

section

variable {actor : Actor} {before after : Host}

theorem LeftAlone.of_eq {ρ : Type} {cell later : Cell Tx ρ} (same : later = cell)
    (locks : after.locks = before.locks) : LeftAlone actor before after cell later := by
  refine Or.inl ⟨same, fun tx _ _ fenced => ?_⟩
  rw [Fenced, locks]
  exact fenced

/-- A statement that writes neither locks, history nor fenced cells. -/
theorem plainMove_of_tables (locks : after.locks = before.locks) (log : after.log = before.log)
    (pauses : after.pauses = before.pauses) (control : after.control = before.control)
    (subscriptions : ∀ id, (before.subscriptions.cell id).Change (ownTx actor) putsSubscription
      (after.subscriptions.cell id))
    (outbox : ∀ id, ((before.outbox .subscriber).cell id).Change (ownTx actor)
      (Cell.putsLasting OutboxRow.identity Tx.isRequest) ((after.outbox .subscriber).cell id))
    (slots : ∀ key, (before.slots.cell key).Change (ownTx actor)
      (Cell.putsLasting SlotRow.bookingDate Tx.isRequest) (after.slots.cell key)) :
    PlainMove actor before after where
  locks := by
    rw [locks]
    exact .same
  guard lock member _ := by
    rw [locks]
    exact Or.inl member
  pauses key := LeftAlone.of_eq (by rw [pauses]) locks
  control := LeftAlone.of_eq (by rw [control]) locks
  subscriptions := subscriptions
  outbox := outbox
  slots := slots
  log := Or.inl log

/-- A statement that writes none of what fences look at. -/
theorem plainMove_of_frame (locks : after.locks = before.locks) (log : after.log = before.log)
    (pauses : after.pauses = before.pauses) (control : after.control = before.control)
    (subscriptions : after.subscriptions = before.subscriptions)
    (outbox : after.outbox .subscriber = before.outbox .subscriber)
    (slots : after.slots = before.slots) : PlainMove actor before after := by
  apply plainMove_of_tables locks log pauses control
  · intro id
    rw [subscriptions]
    exact .same
  · intro id
    rw [outbox]
    exact .same
  · intro key
    rw [slots]
    exact .same

theorem plainMove_outbox {channel : Channel} {statement : String → OutboxRow → Option OutboxRow}
    (writable : (before.outbox channel).writable (.work actor)
      (fun id row => (statement id row).map some) = true)
    (same : ∀ id row new, statement id row = some new → SameSubject row new) :
    PlainMove actor before ((TableRef.outbox channel).put
      ((before.outbox channel).write (.work actor)
        fun id row => (statement id row).map some) before) := by
  cases channel with
  | system => exact plainMove_of_frame rfl rfl rfl rfl rfl rfl rfl
  | subscriber =>
      refine plainMove_of_tables rfl rfl rfl rfl (fun _ => .same) ?_ (fun _ => .same)
      intro id
      apply VersionedTable.change_write (show ownTx actor (.work actor) from rfl) writable id
      intro row new seen chosen
      obtain ⟨moved, selected, rfl⟩ := Option.map_eq_some_iff.mp chosen
      exact ⟨moved, rfl, (same id row moved selected).identity_eq⟩

theorem plainMove_subscriptions
    {statement : String → SubscriptionRow → Option SubscriptionRow}
    (writable : before.subscriptions.writable (.work actor)
      (fun id row => (statement id row).map some) = true)
    (moves : ∀ id row new, statement id row = some new → SubscriptionMove row new) :
    PlainMove actor before { before with
      subscriptions := before.subscriptions.write (.work actor)
        fun id row => (statement id row).map some } := by
  refine plainMove_of_tables rfl rfl rfl rfl ?_ (fun _ => .same) (fun _ => .same)
  intro id
  apply VersionedTable.change_write (show ownTx actor (.work actor) from rfl) writable id
  intro row new seen chosen
  obtain ⟨moved, selected, rfl⟩ := Option.map_eq_some_iff.mp chosen
  refine ⟨moved, rfl, ?_⟩
  rintro previous ⟨⟩ active
  exact (moves id row moved selected).active active

/-- A commit of a transaction that fences nothing. -/
theorem plainMove_commit {tx : Tx} (own : tx.actor = actor) (invariant : FenceInvariant before)
    (unfenced : ¬Fenced tx before)
    (finished : tx = .guard actor → ∀ send, send.actor = actor → ¬InProgress send before.log) :
    PlainMove actor before (before.commit tx) := by
  have alone : ∀ {ρ : Type} (cell : Cell Tx ρ),
      (∀ holder row, cell.held = some (holder, row) → Fenced holder before) →
      LeftAlone actor before (before.commit tx) cell (cell.commit tx) := by
    intro ρ cell fencedHolder
    have foreign : ∀ holder row, cell.held = some (holder, row) → holder ≠ tx := by
      rintro holder row held rfl
      exact unfenced (fencedHolder holder row held)
    refine Or.inl ⟨?_, ?_⟩
    · cases held : cell.held with
      | none => simp [Cell.commit, held]
      | some version => exact Cell.commit_of_held_ne held (foreign _ _ held)
    · intro holder row held fenced
      exact List.mem_filter.mpr ⟨fenced, by simpa using foreign holder row held⟩
  constructor
  · apply LockChange.release
    intro lock dropped
    rw [decide_eq_false_iff_not, not_not] at dropped
    rw [dropped, own]
  · intro lock member holder
    by_cases released : tx = .guard actor
    · exact Or.inr (finished released)
    · refine Or.inl (List.mem_filter.mpr ⟨member, ?_⟩)
      rw [holder, decide_eq_true_eq]
      exact fun same => released same.symm
  · exact fun key => alone _ (invariant.pauses key)
  · exact alone _ invariant.control
  · exact fun id => .of_commit own
  · exact fun id => .of_commit own
  · exact fun key => .of_commit own
  · exact Or.inl rfl

/-- A move that also adds an entry, with the guard still up. -/
theorem PlainMove.record {event : Event} (move : PlainMove actor before after)
    (log : after.log = before.log)
    (guard : ∀ lock ∈ before.locks, lock.holder = .guard actor → lock ∈ after.locks)
    (admitted : Admitted actor before event) : PlainMove actor before (after.record event) where
  locks := move.locks
  guard lock member holder := Or.inl (guard lock member holder)
  pauses := move.pauses
  control := move.control
  subscriptions := move.subscriptions
  outbox := move.outbox
  slots := move.slots
  log := Or.inr ⟨event, by rw [Host.log_record, log], admitted⟩

/-- The commit of the working transaction leaves the guard up. -/
theorem guard_mem_commit {lock : LockHeld} (member : lock ∈ before.locks)
    (holder : lock.holder = .guard actor) : lock ∈ (before.commit (.work actor)).locks :=
  List.mem_filter.mpr ⟨member, by rw [holder]; rfl⟩

theorem plainMove_lock {lock : LockHeld} (own : lock.holder.actor = actor)
    (free : before.mayLock lock.holder lock.key lock.mode = true) :
    PlainMove actor before { before with locks := lock :: before.locks } := by
  have alone : ∀ {ρ : Type} (cell : Cell Tx ρ),
      LeftAlone actor before { before with locks := lock :: before.locks } cell cell :=
    fun cell => Or.inl ⟨rfl, fun tx _ _ fenced => List.mem_cons_of_mem _ fenced⟩
  constructor
  · exact .take lock own (Host.mayLock_iff.mp free)
  · exact fun _ member _ => Or.inl (List.mem_cons_of_mem _ member)
  · exact fun _ => alone _
  · exact alone _
  · exact fun _ => .same
  · exact fun _ => .same
  · exact fun _ => .same
  · exact Or.inl rfl

/-- The connections of a process. -/
def connections (actor : Actor) : List Tx :=
  [.work actor, .guard actor, .session actor]

theorem own_of_mem_connections : ∀ tx ∈ connections actor, ownTx actor tx := by
  simp [connections, ownTx, Tx.actor]

theorem mem_connections {tx : Tx} (own : tx.actor = actor) : tx ∈ connections actor := by
  cases tx <;> simp_all [connections, Tx.actor]

theorem mem_locks_crash {lock : LockHeld} :
    lock ∈ (before.crash actor).locks ↔ lock ∈ before.locks ∧ lock.holder.actor ≠ actor := by
  change lock ∈ List.filter _ (List.filter _ (List.filter _ before.locks)) ↔ _
  simp only [List.mem_filter, decide_eq_true_eq]
  constructor
  · rintro ⟨⟨⟨member, notWork⟩, notGuard⟩, notSession⟩
    refine ⟨member, fun own => ?_⟩
    have connection := mem_connections own
    simp_all [connections]
  · rintro ⟨member, foreign⟩
    have apart : ∀ tx ∈ connections actor, lock.holder ≠ tx := by
      rintro tx connection rfl
      exact foreign (own_of_mem_connections _ connection)
    exact ⟨⟨⟨member, apart _ (by simp [connections])⟩, apart _ (by simp [connections])⟩,
      apart _ (by simp [connections])⟩

theorem plainMove_crash : PlainMove actor before (before.crash actor) := by
  have alone : ∀ {ρ : Type} (cell : Cell Tx ρ), LeftAlone actor before (before.crash actor) cell
      (cell.rollbackAll (connections actor)) := by
    intro ρ cell
    rcases Cell.rollbackAll_cases (connections actor) cell with
      ⟨tx, member, row, held, dropped⟩ | ⟨same, unheld⟩
    · exact Or.inr ⟨tx, row, own_of_mem_connections tx member, held, dropped⟩
    · refine Or.inl ⟨same, fun tx row held fenced => ?_⟩
      refine mem_locks_crash.mpr ⟨fenced, fun own => ?_⟩
      exact unheld tx (mem_connections own) row held
  have locks : (before.crash actor).locks =
      before.locks.filter fun lock => decide (lock.holder.actor ≠ actor) := by
    change List.filter _ (List.filter _ (List.filter _ before.locks)) = _
    rw [List.filter_filter, List.filter_filter]
    apply List.filter_congr
    intro lock _
    cases lock.holder with
    | _ owner => by_cases own : owner = actor <;> simp [Tx.actor, own]
  constructor
  · rw [locks]
    apply LockChange.release
    simp
  · intro lock member holder
    refine Or.inr fun send mine => ?_
    rw [← mine]
    exact not_inProgress_crashed
  · exact fun key => alone _
  · exact alone _
  · exact fun id => .of_rollbackAll own_of_mem_connections
  · exact fun id => .of_rollbackAll own_of_mem_connections
  · exact fun key => .of_rollbackAll own_of_mem_connections
  · exact Or.inr ⟨.crashed actor, rfl, rfl⟩

end

/-! ## Fences -/

/-- What a fenced transaction publishes agrees with the entry that its commit adds. -/
structure FenceEntry (actor : Actor) (host : Host) (event : Event) : Prop where
  fence : event.isFence = true
  off : deliveryOff (event :: host.log) = true → ∀ row,
    ((host.control.cell ()).commit (.work actor)).base = some row → row.deliveryEnabled = false
  rules : ∀ email date, pausedIn email date (event :: host.log) = true →
    ∃ rule, ((host.pauses.cell (email, date)).commit (.work actor)).base = some rule ∧
      rule.paused = true
  cancelled : ∀ id, event = .cancelled id → ∃ row,
    (host.subscriptions.cell id).held = some (.work actor, some row) ∧ row.active = false

section

variable {actor : Actor} {before after : Host}

/-- A statement of a fenced transaction on the preferences or the switch. -/
theorem fenceKept_hold (invariant : FenceInvariant before) (fenced : Fenced (.work actor) before)
    {pauses : VersionedTable Tx (String × Int) PauseRow}
    {control : VersionedTable Tx Unit ControlRow}
    (rules : ∀ key, pauses.cell key = before.pauses.cell key ∨
      ∃ row, pauses.cell key = (before.pauses.cell key).hold (.work actor) row)
    (switch : control.cell () = before.control.cell () ∨
      ∃ row, control.cell () = (before.control.cell ()).hold (.work actor) row) :
    FenceKept actor before { before with pauses := pauses, control := control } := by
  have ruleBase : ∀ key, (pauses.cell key).base = (before.pauses.cell key).base := by
    intro key
    rcases rules key with same | ⟨row, held⟩
    · rw [same]
    · rw [held, Cell.base_hold]
  have switchBase : (control.cell ()).base = (before.control.cell ()).base := by
    rcases switch with same | ⟨row, held⟩
    · rw [same]
    · rw [held, Cell.base_hold]
  have alone : ∀ other, other ≠ actor → ¬Fenced (.work other) before := by
    intro other different foreign
    have holder := invariant.holder_eq fenced foreign rfl
    cases holder
    exact different rfl
  constructor
  · constructor
    · exact invariant.exclusion
    · intro key tx row held
      rcases rules key with same | ⟨put, changed⟩
      · exact invariant.pauses key tx row (by rw [← same]; exact held)
      · have held : (pauses.cell key).held = some (tx, row) := held
        rw [changed, Cell.held_hold] at held
        cases held
        exact fenced
    · intro tx row held
      rcases switch with same | ⟨put, changed⟩
      · exact invariant.control tx row (by rw [← same]; exact held)
      · have held : (control.cell ()).held = some (tx, row) := held
        rw [changed, Cell.held_hold] at held
        cases held
        exact fenced
    · intro off row stored
      exact invariant.off off row (by rw [← switchBase]; exact stored)
    · intro email date paused
      obtain ⟨rule, stored, isPaused⟩ := invariant.rules email date paused
      exact ⟨rule, (ruleBase _).trans stored, isPaused⟩
    · exact invariant.undeleted
    · exact invariant.cancelled
    · exact invariant.outbox
    · exact invariant.slots
    · exact invariant.guarded
    · exact invariant.calls
    · exact invariant.posts
    · exact invariant.quiet
  · intro other different
    constructor
    · exact fun _ _ => Iff.rfl
    · exact fun foreign => absurd foreign (alone other different)
    · exact fun foreign => absurd foreign (alone other different)
    · exact fun _ _ _ => rfl
    · exact fun _ => rfl
    · exact fun _ _ => Iff.rfl
    · exact fun _ row stored => ⟨row, stored, rfl⟩
    · exact fun _ slot stored => ⟨slot, stored, rfl⟩

/-- No call is in progress while a transaction is fenced. -/
theorem FenceInvariant.not_inProgress (invariant : FenceInvariant before)
    (fenced : Fenced (.work actor) before) (send : Send) : ¬InProgress send before.log := by
  intro running
  have holder := invariant.holder_eq fenced (invariant.guarded send running) rfl
  cases holder

/-- The commit of a fenced transaction. -/
theorem fenceKept_commit (invariant : FenceInvariant before) (fenced : Fenced (.work actor) before)
    {event : Event} (entry : FenceEntry actor before event) :
    FenceKept actor before ((before.commit (.work actor)).record event) := by
  have finished := invariant.not_inProgress fenced
  have plain : ∀ send : Send, event ≠ send.started := by
    intro send started
    have fence := entry.fence
    rw [started] at fence
    cases send <;> cases fence
  have endless : ∀ send, event.ends send = false := by
    intro send
    have fence := entry.fence
    cases event <;> first | rfl | cases fence
  have stillOver : ∀ send, ¬InProgress send (event :: before.log) := by
    intro send running
    exact finished send ((inProgress_cons_iff (plain send) (endless send)).mp running)
  have unheld : ∀ {ρ : Type} (cell : Cell Tx ρ),
      (∀ tx row, cell.held = some (tx, row) → Fenced tx before) → ∀ tx row,
      (cell.commit (.work actor)).held ≠ some (tx, row) := by
    intro ρ cell fencedHolder tx row held
    have was := Cell.held_commit held
    have mine : tx = .work actor := invariant.holder_eq fenced (fencedHolder tx row was) rfl
    subst mine
    rw [Cell.commit_of_held was] at held
    cases held
  have rows : ∀ id row, ((before.outbox .subscriber).cell id).base = some row →
      ∃ new, (((before.commit (.work actor)).outbox .subscriber).cell id).base = some new ∧
        new.identity = row.identity := by
    intro id row stored
    exact (invariant.outbox id).base_change
      (.of_commit (show ownTx actor (.work actor) from rfl)) stored
  have slots : ∀ key slot, (before.slots.cell key).base = some slot →
      ∃ new, ((before.commit (.work actor)).slots.cell key).base = some new ∧
        new.bookingDate = slot.bookingDate := by
    intro key slot stored
    exact (invariant.slots key).base_change
      (.of_commit (show ownTx actor (.work actor) from rfl)) stored
  constructor
  · constructor
    · intro first memberFirst second memberSecond
      exact invariant.exclusion first (List.mem_of_mem_filter memberFirst) second
        (List.mem_of_mem_filter memberSecond)
    · exact fun key tx row held => absurd held (unheld _ (invariant.pauses key) tx row)
    · exact fun tx row held => absurd held (unheld _ invariant.control tx row)
    · exact entry.off
    · exact entry.rules
    · intro id tx held
      exact invariant.undeleted id tx (Cell.held_commit held)
    · intro id member
      rcases List.mem_cons.mp member with same | older
      · obtain ⟨row, held, inactive⟩ := entry.cancelled id same.symm
        have published : ((before.commit (.work actor)).record event).subscriptions.cell id =
            ⟨some row, none⟩ := Cell.commit_of_held held
        rw [published]
        refine ⟨rfl, ?_⟩
        rintro other (stored | ⟨_, impossible⟩)
        · cases stored
          exact inactive
        · cases impossible
      · obtain ⟨stored, inactive⟩ := invariant.cancelled id older
        exact (cancelled_change (.of_commit (show ownTx actor (.work actor) from rfl))
          (invariant.undeleted id)).2 stored inactive
    · intro id
      exact (invariant.outbox id).change (.of_commit (show ownTx actor (.work actor) from rfl))
    · intro key
      exact (invariant.slots key).change (.of_commit (show ownTx actor (.work actor) from rfl))
    · exact fun send running => absurd running (stillOver send)
    · intro newer older call split
      rcases split_cons split with ⟨rfl, _⟩ | ⟨rest, _, split⟩
      · exact absurd rfl (plain (.email call))
      · obtain ⟨on, clear⟩ := invariant.calls rest older call split
        exact ⟨on, fun subscriber id member => (clear subscriber id member).later rows slots⟩
    · intro newer older post split
      rcases split_cons split with ⟨rfl, _⟩ | ⟨rest, _, split⟩
      · exact absurd rfl (plain (.wechat post))
      · exact invariant.posts rest older post split
    · intro newer older other split fence
      rcases split_cons split with ⟨rfl, rfl⟩ | ⟨rest, _, split⟩
      · exact finished
      · exact invariant.quiet rest older other split fence
  · intro other different
    have alone : ¬∃ lock ∈ before.locks, lock.key = .delivery ∧ lock.holder.actor = other := by
      rintro ⟨lock, member, key, rfl⟩
      have holder := invariant.holder_eq fenced member key
      rw [holder] at different
      exact different rfl
    have unfenced : ¬Fenced (.work other) before :=
      fun foreign => alone ⟨_, foreign, rfl, rfl⟩
    constructor
    · intro lock own
      refine Iff.trans List.mem_filter (and_iff_left ?_)
      rw [decide_eq_true_eq]
      rintro same
      rw [same] at own
      exact different own.symm
    · exact fun foreign => absurd foreign unfenced
    · exact fun foreign => absurd foreign unfenced
    · intro id row held
      apply Cell.commit_of_held_ne held
      rintro ⟨⟩
      exact different rfl
    · exact fun held => absurd held alone
    · intro send _
      exact iff_of_false (stillOver send) (finished send)
    · exact rows
    · exact slots

end

end TennisAlerts.HostCore
