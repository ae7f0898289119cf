import TennisAlerts.Properties.DigestRetries
import TennisAlerts.Properties.RowHistory

/-!
# Every step is a listed change

Each script of the host makes listed changes only, and a worker knows what the
list asks of it.  So every step of a run, whatever the interleaving, is a listed
change of some process; the properties of rows and calls follow from the list.
-/

namespace TennisAlerts.HostCore

open TennisAlerts.Concurrent TennisAlerts.Database

section

variable {leased : Prop} {allowed : Actor → Label → Host → Input → Prop} {actor : Actor}
  {worker : String} {channel : Channel}

/-! ## Rules -/

/-- One action that makes a listed change. -/
theorem valid_move {α : Type} {label : Label} {action : Host → Input → Option Host}
    {next : Host → Input → Script α} {pre : Host → Prop} {post : α → Host → Prop}
    (middle : Host → Input → Host → Prop) (stable : (rowProtocol leased).Stable actor pre)
    (moves : ∀ before input after, RowsKept before → pre before →
      allowed actor label before input → action before input = some after →
      HostMove leased actor before after ∧ middle before input after)
    (rest : ∀ before input, (rowProtocol leased).Valid allowed actor (middle before input)
      (next before input) post) :
    (rowProtocol leased).Valid allowed actor pre (.act label action next) post := by
  apply Protocol.valid_act middle stable
  · intro before input after kept holds permitted acted
    obtain ⟨move, reached⟩ := moves before input after kept holds permitted acted
    obtain ⟨keptAfter, guarantees⟩ := kept.guarantees move
    exact ⟨keptAfter, guarantees, reached⟩
  · exact rest

/-- One action without a result. -/
theorem valid_perform {label : Label} {action : Host → Option Host} {pre post : Host → Prop}
    (stable : (rowProtocol leased).Stable actor pre)
    (moves : ∀ before input after, RowsKept before → pre before →
      allowed actor label before input → action before = some after →
      HostMove leased actor before after ∧ post after) :
    (rowProtocol leased).Valid allowed actor pre (Script.perform label action)
      fun _ => post := by
  apply valid_move (fun _ _ => post) stable
  · intro before input after kept holds permitted acted
    exact moves before input after kept holds permitted acted
  · exact fun _ _ => Protocol.valid_ret fun _ _ holds => holds

/-- An update of one outbox. -/
theorem valid_updateRows {statement : Snapshot → String → OutboxRow → Option OutboxRow}
    {label : Label} {pre post : Host → Prop} (stable : (rowProtocol leased).Stable actor pre)
    (moves : ∀ before input, RowsKept before → pre before → allowed actor label before input →
      (before.outbox channel).writable (.work actor)
        (fun id row => (statement (before.view (.work actor)) id row).map some) = true →
      HostMove leased actor before ((TableRef.outbox channel).put
        ((before.outbox channel).write (.work actor)
          fun id row => (statement (before.view (.work actor)) id row).map some) before) ∧
      post ((TableRef.outbox channel).put
        ((before.outbox channel).write (.work actor)
          fun id row => (statement (before.view (.work actor)) id row).map some) before)) :
    (rowProtocol leased).Valid allowed actor pre
      (Script.update (.outbox channel) (.work actor) statement label) fun _ => post := by
  apply valid_perform stable
  intro before input after kept holds permitted executed
  obtain ⟨writable, rfl⟩ := Script.execute_eq_some executed
  exact moves before input kept holds permitted writable

/-- A script without sends needs and leaves nothing. -/
theorem valid_sweeps {α : Type} {script : Script α} (does : Script.Does (SweepStep actor) script) :
    (rowProtocol leased).Valid allowed actor (fun _ => True) script fun _ _ => True := by
  apply does.valid fun _ _ _ _ _ _ => trivial
  intro before after kept _ step
  obtain ⟨keptAfter, guarantees⟩ :=
    RowsKept.guarantees kept (.sweep step : HostMove leased actor before after)
  exact ⟨keptAfter, guarantees, trivial⟩

/-- A script that leaves rows, slots and history alone keeps what the worker knows. -/
theorem valid_aside {α : Type} {script : Script α} {assertion : Host → Prop}
    (robust : Robust leased worker assertion) (does : Script.Does AsideStep script) :
    (rowProtocol leased).Valid allowed (.worker worker) assertion script fun _ => assertion := by
  apply does.valid robust.others
  intro before after kept holds step
  have move : HostMove leased (.worker worker) before after :=
    .sweep (.aside step.rows step.slots step.history)
  obtain ⟨keptAfter, guarantees⟩ := kept.guarantees move
  exact ⟨keptAfter, guarantees, robust.aside before after step holds⟩

theorem does_observe_aside {α : Type} {label : Label} {value : Host → α} :
    Script.Does AsideStep (Script.observe label value) :=
  Script.does_observe .refl

theorem does_lock_aside {tx : Tx} {key : LockKey} {mode : LockMode} :
    Script.Does AsideStep (Script.lock tx key mode) :=
  Script.does_lock fun _ _ => ⟨rfl, rfl, rfl⟩

theorem does_raise_aside {α : Type} {value : α} :
    Script.Does AsideStep (Script.raise value : Script α) :=
  Script.does_raise

/-- The transaction ends and the worker knows nothing more. -/
theorem valid_end {assertion : Host → Prop} {post : Host → Prop}
    (robust : Robust leased worker assertion)
    (reached : ∀ before, RowsKept before → assertion before →
      post (before.commit (.work (.worker worker)))) :
    (rowProtocol leased).Valid allowed (.worker worker) assertion
      (Script.commit (.work (.worker worker))) fun _ => post := by
  apply valid_perform robust.others
  rintro before input after kept holds _ ⟨⟩
  exact ⟨.sweep (.commit _ rfl), reached before kept holds⟩

/-! ## Claims -/

/-- What a claim hands on: rows of one target that the worker knows. -/
def ClaimedRows (worker : String) (channel : Channel) (rows : List ClaimedRow) (host : Host) :
    Prop :=
  Prepared worker channel rows host ∧ OneTarget channel rows

theorem claimedRows_nil {host : Host} : ClaimedRows worker channel [] host := by
  refine ⟨⟨⟨?_, ?_⟩, ?_⟩, ?_⟩
  · simp
  · simp
  · simp
  · cases channel <;> simp [OneTarget]

/-- The rows that a claim locks are held as they were read. -/
theorem valid_lockRows {order : OutboxRow → Int} {condition : Snapshot → OutboxRow → Bool}
    {limit : Nat} (aim : Option Target)
    (opens : ∀ snapshot row, condition snapshot row = true → row.status.open = true)
    (aims : ∀ before row, RowsKept before →
      condition (before.view (.work (.worker worker))) row = true → ∀ target, aim = some target →
        row.email = target.email ∧ Dated before row.eventKey target.bookingDate) :
    (rowProtocol leased).Valid allowed (.worker worker) (fun _ => True)
      (Script.selectForUpdate (.outbox channel) (.work (.worker worker)) order condition limit)
      fun entries => LockedRows worker channel aim id entries := by
  apply valid_move (fun before _ => LockedRows worker channel aim id
    (Script.lockable (.outbox channel) (.work (.worker worker)) order condition limit before))
    robust_true.others
  · intro before input after kept _ _ executed
    obtain ⟨writable, rfl⟩ := Script.execute_eq_some executed
    rw [lockKeys_eq] at writable ⊢
    have selected : ∀ id ∈ (Script.lockable (.outbox channel) (.work (.worker worker)) order
        condition limit before).map Prod.fst, ∀ row,
        (before.row channel id).view (.work (.worker worker)) = some row →
          row.status.open = true := by
      intro id member row seen
      obtain ⟨entry, listed, rfl⟩ := List.mem_map.mp member
      obtain ⟨read, accepted⟩ := mem_lockable listed
      have same : entry.2 = row := Option.some.inj (read.symm.trans seen)
      exact opens _ row (same ▸ accepted)
    refine ⟨.send worker rfl (.locked channel _ writable selected), fun entry member => ?_,
      fun entry member => opens _ _ (mem_lockable member).2, fun target isAim entry member =>
        aims before entry.2 kept (mem_lockable member).2 target isAim⟩
    intro key single
    rw [List.mem_singleton] at single
    subst single
    refine ⟨entry.2, ?_, rfl⟩
    rw [TableRef.get_put]
    apply VersionedTable.held_write _ (mem_lockable member).1
    simp [lockKeys, List.mem_map_of_mem member]
  · exact fun before input => Protocol.valid_ret fun _ _ holds => holds

section

variable {aim : Option Target} {version change : OutboxRow → OutboxRow}
  {entries : List (String × OutboxRow)} {host : Host}

theorem LockedRows.mono {fewer : List (String × OutboxRow)}
    (locked : LockedRows worker channel aim version entries host)
    (subset : ∀ entry ∈ fewer, entry ∈ entries) :
    LockedRows worker channel aim version fewer host where
  held entry member := locked.held entry (subset entry member)
  opens entry member := locked.opens entry (subset entry member)
  aimed target isAim entry member := locked.aimed target isAim entry (subset entry member)

theorem LockedRows.holdsOpen (locked : LockedRows worker channel aim version entries host) :
    Holds (.outbox channel) (.work (.worker worker)) (entries.map Prod.fst)
      (fun row => row.status.open = true) host := by
  intro key member
  obtain ⟨entry, listed, rfl⟩ := List.mem_map.mp member
  obtain ⟨row, held, rfl⟩ := locked.held entry listed entry.1 (List.mem_singleton_self _)
  exact ⟨_, held, locked.opens entry listed⟩

/-- An update of the locked rows that keeps them open. -/
theorem valid_marks (marks : Marks worker change)
    (stays : ∀ row, row.status.open = true → (change row).status.open = true) :
    (rowProtocol leased).Valid allowed (.worker worker)
      (LockedRows worker channel aim version entries)
      (Script.update (.outbox channel) (.work (.worker worker))
        (onIds (entries.map Prod.fst) change))
      fun _ => LockedRows worker channel aim (change ∘ version) entries := by
  apply valid_updateRows robust_lockedRows.others
  intro before input kept locked _ writable
  refine ⟨.send worker rfl (.marked channel _ change marks locked.holdsOpen writable),
    fun entry member => ?_, fun entry member => stays _ (locked.opens entry member),
    locked.aimed⟩
  apply (locked.held entry member).write
  rintro key single row rfl
  rw [List.mem_singleton] at single
  subst single
  exact ⟨change (version entry.2), by simp [onIds, List.mem_map_of_mem member], rfl⟩

/-- A last update of the locked rows. -/
theorem valid_marks_last (marks : Marks worker change) :
    (rowProtocol leased).Valid allowed (.worker worker)
      (LockedRows worker channel aim version entries)
      (Script.update (.outbox channel) (.work (.worker worker))
        (onIds (entries.map Prod.fst) change)) fun _ _ => True := by
  apply valid_updateRows robust_lockedRows.others
  intro before input kept locked _ writable
  exact ⟨.send worker rfl (.marked channel _ change marks locked.holdsOpen writable), trivial⟩

/-- The version of a row that a claim commits. -/
structure Leases (worker : String) (version : OutboxRow → OutboxRow) : Prop where
  content : ∀ row, (version row).content = row.content
  attempts : ∀ row, (version row).attemptCount = row.attemptCount + 1
  processing : ∀ row, (version row).status = .processing

/-- The commit of a claim: the worker knows the rows that it leased. -/
theorem LockedRows.prepared {after : Host} {bookingDate : Int} {claimId : Option String}
    (locked : LockedRows worker channel aim version entries host) (leases : Leases worker version)
    (kept : RowsKept host) (move : HostMove leased actor host after)
    (cells : ∀ id, after.row channel id = (host.row channel id).commit (.work (.worker worker)))
    (date : channel = .subscriber →
      ∃ target, aim = some target ∧ target.bookingDate = bookingDate) :
    Prepared worker channel (entries.map (claimedRow bookingDate claimId)) after := by
  have stored : ∀ entry ∈ entries, after.row channel entry.1 = ⟨some (version entry.2), none⟩ := by
    intro entry member
    obtain ⟨row, held, rfl⟩ := locked.held entry member entry.1 (List.mem_singleton_self _)
    rw [cells]
    exact Cell.commit_of_held held
  have only : ∀ entry ∈ entries, ∀ row, (after.row channel entry.1).Version row →
      row = version entry.2 := by
    intro entry member row seen
    rw [stored entry member] at seen
    rcases seen with base | ⟨_, impossible⟩
    · exact (Option.some.inj base).symm
    · cases impossible
  refine ⟨⟨?_, ?_⟩, ?_⟩
  · intro row member
    obtain ⟨entry, listed, rfl⟩ := List.mem_map.mp member
    refine ⟨entry.2.content, ⟨version entry.2, ?_, leases.content entry.2⟩, rfl, rfl, rfl, ?_⟩
    · rw [claimedRow, stored entry listed]
    · intro subscriber
      obtain ⟨target, isAim, rfl⟩ := date subscriber
      exact (locked.aimed target isAim entry listed).2.move kept move
  · intro row member other seen _
    obtain ⟨entry, listed, rfl⟩ := List.mem_map.mp member
    rw [only entry listed other seen]
    exact leases.attempts entry.2
  · intro row member other seen _
    obtain ⟨entry, listed, rfl⟩ := List.mem_map.mp member
    rw [only entry listed other seen, leases.processing]
    simp

theorem moves_suppressRows {reason : String} {now : Int} :
    (rowProtocol leased).Valid allowed (.worker worker)
      (LockedRows worker .subscriber aim version entries)
      (suppressRows worker entries reason now)
      (ClaimedRows worker .subscriber) := by
  apply Protocol.Valid.bind _ (valid_marks_last (.suppressed reason now))
  intro _
  apply Protocol.Valid.bind (fun _ _ => True) (valid_end robust_true fun _ _ _ => trivial)
  exact fun _ => Protocol.valid_ret fun _ _ _ => claimedRows_nil

theorem leases_linked {now : Int} {claimId : String} :
    Leases worker (linkClaim claimId ∘ markProcessing worker now ∘ id) :=
  ⟨fun _ => rfl, fun _ => rfl, fun _ => rfl⟩

theorem moves_reserveRows {target : Target} {now : Int} :
    (rowProtocol leased).Valid allowed (.worker worker)
      (LockedRows worker .subscriber (some target) id entries)
      (reserveRows worker target entries now) (ClaimedRows worker .subscriber) := by
  apply Protocol.Valid.bind _ (valid_marks (.claimed now) fun _ _ => rfl)
  intro _
  apply Protocol.Valid.bind _ (valid_aside robust_lockedRows (Script.does_freshId .refl))
  intro claimId
  apply Protocol.Valid.bind _
    (valid_aside robust_lockedRows (Script.does_insert fun _ _ _ => ⟨rfl, rfl, rfl⟩))
  intro _
  apply Protocol.Valid.bind _ (valid_marks (.linked claimId) fun _ isOpen => isOpen)
  intro _
  apply Protocol.Valid.bind
    (fun _ => ClaimedRows worker .subscriber
      (entries.map (claimedRow target.bookingDate (some claimId))))
  · apply valid_perform robust_lockedRows.others
    rintro before input after kept locked _ ⟨⟩
    have move : HostMove leased (.worker worker) before _ :=
      .sweep (.committed (.reserved worker claimId (newClaim target.email now)) rfl)
    refine ⟨move, locked.prepared leases_linked kept move (fun _ => rfl)
      (fun _ => ⟨target, rfl, rfl⟩), target.email, target.bookingDate, ?_⟩
    intro row member
    obtain ⟨entry, listed, rfl⟩ := List.mem_map.mp member
    exact ⟨(locked.aimed target rfl entry listed).1, rfl⟩
  · exact fun _ => Protocol.valid_ret fun _ _ holds => holds

end

section

variable {entries : List (String × OutboxRow)}

theorem moves_claimSystem :
    (rowProtocol leased).Valid allowed (.worker worker) (fun _ => True) (claimSystem worker)
      fun claimed host => ∀ row, claimed = some row → ClaimedRows worker .system [row] host := by
  apply Protocol.Valid.bind _ (valid_aside robust_true does_observe_aside)
  intro now
  apply Protocol.Valid.bind _ (valid_lockRows none _ (by simp))
  · intro entries
    cases entries with
    | nil =>
        apply Protocol.Valid.bind (fun _ _ => True)
          (valid_end robust_lockedRows fun _ _ _ => trivial)
        exact fun _ => Protocol.valid_ret (by simp)
    | cons entry rest =>
        apply Protocol.Valid.bind
          (fun _ => LockedRows worker .system none (markProcessing worker now ∘ id) [entry])
        · have marks : (rowProtocol leased).Valid allowed (.worker worker)
              (LockedRows worker .system none id [entry])
              (Script.update (.outbox .system) (.work (.worker worker))
                (onIds ([entry].map Prod.fst) (markProcessing worker now)))
              (fun _ => LockedRows worker .system none (markProcessing worker now ∘ id)
                [entry]) :=
            valid_marks (.claimed now) fun _ _ => rfl
          apply Protocol.Valid.mono marks
          · exact fun host _ locked => locked.mono (by simp)
          · exact fun _ _ _ locked => locked
        · intro _
          apply Protocol.Valid.bind
            (fun _ => ClaimedRows worker .system [claimedRow 0 none entry])
          · apply valid_end robust_lockedRows
            intro before kept locked
            have move : HostMove leased (.worker worker) before _ :=
              .sweep (.commit (.work (.worker worker)) rfl)
            exact ⟨locked.prepared ⟨fun _ => rfl, fun _ => rfl, fun _ => rfl⟩ kept move
              (fun _ => rfl) (by simp), le_rfl⟩
          · intro _
            apply Protocol.valid_ret
            rintro host _ claimed row ⟨⟩
            exact claimed
  · intro _ row accepted
    simp only [claimable, Bool.and_eq_true] at accepted
    exact accepted.1.1

theorem moves_claimUnderQuota {settings : Settings} {target : Target} {now : Int} :
    (rowProtocol leased).Valid allowed (.worker worker)
      (LockedRows worker .subscriber (some target) id entries)
      (claimUnderQuota worker settings target entries now) (ClaimedRows worker .subscriber) := by
  apply Protocol.Valid.bind _ (valid_aside robust_lockedRows does_lock_aside)
  intro _
  apply Protocol.Valid.bind _ (valid_aside robust_lockedRows does_lock_aside)
  intro _
  apply Protocol.Valid.bind _ (valid_aside robust_lockedRows does_observe_aside)
  intro userSubmitted
  apply Protocol.Valid.bind _ (valid_aside robust_lockedRows does_observe_aside)
  intro userReserved
  apply Protocol.Valid.bind _ (valid_aside robust_lockedRows does_observe_aside)
  intro globalSubmitted
  apply Protocol.Valid.bind _ (valid_aside robust_lockedRows does_observe_aside)
  intro globalReserved
  dsimp only
  split
  · exact moves_suppressRows
  · exact moves_reserveRows

/-- A row that a subscriber claim selects is of the claim's email and date. -/
theorem aimed_of_claimableFor {target : Target} {now : Int} {host : Host} {row : OutboxRow}
    (kept : RowsKept host) (accepted : claimableFor (host.view (.work (.worker worker)))
      target.email target.bookingDate now row = true) :
    row.email = target.email ∧ Dated host row.eventKey target.bookingDate := by
  simp only [claimableFor, Bool.and_eq_true, decide_eq_true_eq] at accepted
  refine ⟨accepted.1.1.1, ?_⟩
  obtain ⟨slot, seen, sameDate⟩ := Option.map_eq_some_iff.mp accepted.1.1.2
  have foreign : ¬Tx.isRequest (.work (.worker worker)) := by
    rintro ⟨number, impossible⟩
    cases impossible
  obtain ⟨stored, base, same⟩ := (kept.slots row.eventKey).base_of_view seen foreign
  exact ⟨stored, base, same.trans sameDate⟩

theorem moves_claimSubscriberGroup {settings : Settings} {target : Target}
    {weather : WeatherDecision} :
    (rowProtocol leased).Valid allowed (.worker worker) (fun _ => True)
      (claimSubscriberGroup worker settings target weather) (ClaimedRows worker .subscriber) := by
  apply Protocol.Valid.bind _ (valid_aside robust_true does_lock_aside)
  intro _
  apply Protocol.Valid.bind _ (valid_aside robust_true does_observe_aside)
  intro now
  apply Protocol.Valid.bind _ (valid_lockRows (some target) _ _)
  · intro entries
    split
    · apply Protocol.Valid.bind (fun _ _ => True)
        (valid_end robust_lockedRows fun _ _ _ => trivial)
      exact fun _ => Protocol.valid_ret fun _ _ _ => claimedRows_nil
    · split
      · exact moves_suppressRows
      · exact moves_claimUnderQuota
  · intro _ row accepted
    simp only [claimableFor, claimable, Bool.and_eq_true] at accepted
    exact accepted.1.2.1.1
  · rintro before row kept accepted _ ⟨⟩
    exact aimed_of_claimableFor kept accepted

end

/-! ## The guarded send -/

section

variable {rows : List ClaimedRow} {ids : List String} {host : Host}

theorem Known.mono {fewer : List ClaimedRow} (known : Known worker channel rows host)
    (subset : ∀ row ∈ fewer, row ∈ rows) : Known worker channel fewer host :=
  ⟨fun row member => known.recorded row (subset row member),
    fun row member => known.tried row (subset row member)⟩

theorem Prepared.mono {fewer : List ClaimedRow} (prepared : Prepared worker channel rows host)
    (subset : ∀ row ∈ fewer, row ∈ rows) : Prepared worker channel fewer host :=
  ⟨prepared.known.mono subset, fun row member => prepared.grounded row (subset row member)⟩

theorem oneTarget_filter {selects : ClaimedRow → Bool} (one : OneTarget channel rows) :
    OneTarget channel (rows.filter selects) := by
  cases channel with
  | system => exact (List.length_filter_le _ _).trans one
  | subscriber =>
      obtain ⟨email, date, same⟩ := one
      exact ⟨email, date, fun row member => same row (List.mem_of_mem_filter member)⟩

/-- Rows that expire at the dispatch are no longer leased. -/
theorem valid_expireAtDispatch {now : Int} {claimId : Option String} :
    (rowProtocol leased).Valid allowed (.worker worker) (Prepared worker channel rows)
      (Script.update (.outbox channel) (.work (.worker worker)) fun _ id row =>
        expireAtDispatch channel claimId worker now ids id row)
      fun _ => Prepared worker channel rows := by
  apply valid_updateRows robust_prepared.others
  intro before input kept prepared _ writable
  have step : SweepStep (.worker worker) before _ := .swept channel _ writable
    fun id row new changed => .expiredAtDispatch channel claimId worker now ids id changed
  have move : HostMove leased (.worker worker) before _ := .sweep step
  have different : Actor.request 0 ≠ .worker worker := by simp
  refine ⟨move, ⟨fun row member => ?_, fun row member => ?_⟩, fun row member => ?_⟩
  · exact (prepared.known.recorded row member).move kept move
  · exact (prepared.known.tried row member).change (step.row_change kept channel row.id) different
  · exact (prepared.grounded row member).change (step.row_change kept channel row.id) different

/-- An update that leases nothing and counts no attempt. -/
theorem Tried.write {row : ClaimedRow} {statement : String → OutboxRow → Option OutboxRow}
    (tried : Tried worker channel row host)
    (writable : (host.outbox channel).writable (.work (.worker worker))
      (fun id row => (statement id row).map some) = true)
    (keeps : ∀ id row new, statement id row = some new → new.leaseOwner = some worker →
      row.leaseOwner = some worker ∧ new.attemptCount = row.attemptCount) :
    Tried worker channel row ((TableRef.outbox channel).put
      ((host.outbox channel).write (.work (.worker worker))
        fun id row => (statement id row).map some) host) := by
  intro version seen owner
  rw [row_put_self] at seen
  rcases VersionedTable.cell_write_cases writable row.id with
    ⟨unchanged, _⟩ | ⟨old, new, read, chosen, _, changed⟩
  · rw [unchanged] at seen
    exact tried version seen owner
  · rw [changed, Cell.version_hold_iff] at seen
    rcases seen with stored | put
    · exact tried version (Or.inl stored) owner
    · subst put
      obtain ⟨moved, selected, same⟩ := Option.map_eq_some_iff.mp chosen
      cases same
      obtain ⟨leased, counted⟩ := keeps row.id old version selected owner
      exact counted.trans (tried old (Cell.version_of_view read) leased)

/-- The `dispatching` update holds the rows it finds leased. -/
theorem valid_takeOff {now : Int}
    (implies : ∀ actor label host input, allowed actor label host input → leased →
      leasedAtDispatch actor label host input) :
    (rowProtocol leased).Valid allowed (.worker worker) (Prepared worker channel rows)
      (Script.update (.outbox channel) (.work (.worker worker))
        (fun _ id row => markDispatching worker now (rows.map ClaimedRow.id) id row)
        (.dispatchUpdate channel worker (rows.map ClaimedRow.id)))
      fun _ host => Known worker channel rows host ∧
        (leased → HeldAloft worker channel (rows.map ClaimedRow.id) host) := by
  apply valid_updateRows robust_prepared.others
  intro before input kept prepared permitted writable
  have move : HostMove leased (.worker worker) before _ :=
    .send worker rfl (.dispatching channel now (rows.map ClaimedRow.id) writable fun id member => by
      obtain ⟨row, listed, rfl⟩ := List.mem_map.mp member
      exact prepared.grounded row listed)
  refine ⟨move, ⟨fun row member => ?_, fun row member => ?_⟩, ?_⟩
  · exact (prepared.known.recorded row member).move kept move
  · apply (prepared.known.tried row member).write writable
    intro id old new changed owner
    simp only [markDispatching, Option.ite_none_right_eq_some, Option.some.injEq] at changed
    obtain ⟨⟨_, leased⟩, rfl⟩ := changed
    exact ⟨leased, rfl⟩
  · intro isLeased id member
    obtain ⟨row, seen, owner⟩ : ∃ row,
        (before.row channel id).view (.work (.worker worker)) = some row ∧
          row.leaseOwner = some worker := by
      simpa [Option.any_eq_true] using implies _ _ _ _ permitted isLeased id member
    refine ⟨{ row with status := .dispatching, updatedAt := now }, ?_, rfl, owner⟩
    rw [TableRef.get_put]
    apply VersionedTable.held_write id seen
    simp only [markDispatching, member, owner, and_self, if_true, Option.map_some]

theorem Tried.fewer {row : ClaimedRow} {after : Host} (tried : Tried worker channel row host)
    (versions : ∀ version, (after.row channel row.id).Version version →
      (host.row channel row.id).Version version) : Tried worker channel row after :=
  fun version seen => tried version (versions version seen)

/-- The commit of the dispatch, after which the worker may call. -/
theorem valid_dispatched :
    (rowProtocol leased).Valid allowed (.worker worker)
      (fun host => Known worker channel rows host ∧
        (leased → HeldAloft worker channel ids host))
      (Script.commitRecording (.work (.worker worker)) (.dispatched worker channel ids))
      fun _ host => Known worker channel rows host ∧ Primed worker channel ids host := by
  apply valid_perform (robust_known.and robust_aloft).others
  rintro before input after kept ⟨known, aloft⟩ _ ⟨⟩
  have move : HostMove leased (.worker worker) before _ :=
    .send worker rfl (.dispatched channel ids aloft)
  refine ⟨move, ⟨fun row member => (known.recorded row member).move kept move,
    fun row member => ?_⟩, ?_⟩
  · apply (known.tried row member).fewer
    exact fun version seen => Cell.version_of_commit seen
  · simp [Primed, lastOwn, Event.sender]

/-! ### The text of a call -/

/-- The contents that the worker read are stored. -/
theorem stored_contents {email : String} {date : Int}
    (recorded : ∀ row ∈ rows, Recorded .subscriber row host)
    (same : ∀ row ∈ rows, row.email = email ∧ row.bookingDate = date) :
    ∃ contents, List.Forall₂ (StoredContent host .subscriber) (rows.map ClaimedRow.id) contents ∧
      contents.map RowContent.body = rows.map ClaimedRow.body ∧
      ∀ content ∈ contents, content.email = email ∧ Dated host content.eventKey date := by
  induction rows with
  | nil => exact ⟨[], .nil, rfl, by simp⟩
  | cons row rows ih =>
      rw [List.forall_mem_cons] at recorded same
      obtain ⟨content, stored, isEmail, _, isBody, dated⟩ := recorded.1
      obtain ⟨contents, others, bodies, facts⟩ := ih recorded.2 same.2
      refine ⟨content :: contents, .cons stored others, by simp [isBody, bodies], ?_⟩
      rw [List.forall_mem_cons]
      refine ⟨⟨isEmail.trans same.1.1, ?_⟩, facts⟩
      rw [← same.1.2]
      exact dated rfl

/-- The email that a worker composes sends what its rows store. -/
theorem composed_emailCall {email : String × String × String} {now : Int}
    (known : Known worker channel rows host) (one : OneTarget channel rows)
    (composes : composeEmail channel rows = some email) :
    Composed host (emailCall worker channel rows email now) := by
  cases rows with
  | nil => cases channel <;> simp [composeEmail] at composes
  | cons first rest =>
      cases channel with
      | system =>
          have alone : rest = [] := by simpa [OneTarget] using one
          subst alone
          obtain ⟨content, stored, isEmail, isSubject, isBody, _⟩ :=
            known.recorded first List.mem_cons_self
          cases composes
          exact .system first.id content rfl rfl stored isEmail.symm isSubject.symm isBody.symm
      | subscriber =>
          obtain ⟨address, date, same⟩ := one
          obtain ⟨contents, stored, bodies, facts⟩ := stored_contents known.recorded same
          obtain ⟨digest, formatted, rfl⟩ := Option.map_eq_some_iff.mp composes
          obtain ⟨isAddress, isDate⟩ := same first List.mem_cons_self
          refine .digest contents date digest.2 rfl stored ?_ (fun content member =>
            (facts content member).2) ?_ ?_
          · intro content member
            exact isAddress.trans (facts content member).1.symm
          · rw [bodies, formatted]
            rfl
          · rw [← isDate]
            rfl

/-- A call starts with rows that its worker has dispatched. -/
theorem valid_began {email : String × String × String} (one : OneTarget channel rows)
    (composes : composeEmail channel rows = some email) :
    (rowProtocol leased).Valid allowed (.worker worker)
      (fun host => Known worker channel rows host ∧
        Primed worker channel (rows.map ClaimedRow.id) host)
      (Script.beginSend (emailCall worker channel rows email) (.beginCall (digestClaim rows)))
      fun call host => Known worker channel rows host ∧ call.worker = worker := by
  apply valid_move (fun _ _ => Known worker channel rows)
    (robust_known.and robust_primed).others
  · rintro before input after kept ⟨known, primed⟩ _ ⟨⟩
    exact ⟨.send worker rfl (.began _ rfl primed (composed_emailCall known one composes)),
      ⟨known.recorded, known.tried⟩⟩
  · exact fun _ _ => Protocol.valid_ret fun _ _ known => ⟨known, rfl⟩

theorem valid_ended (call : Call) (caller : call.worker = worker) :
    (rowProtocol leased).Valid allowed (.worker worker) (Known worker channel rows)
      (Script.awaitOutcome call) fun _ => Known worker channel rows := by
  apply valid_move (fun _ _ => Known worker channel rows) robust_known.others
  · intro before input after kept known _ acted
    cases input with
    | outcome outcome =>
        cases acted
        exact ⟨.send worker rfl (.ended call outcome caller), ⟨known.recorded, known.tried⟩⟩
    | _ => cases acted
  · exact fun _ _ => Protocol.valid_ret fun _ _ known => known

theorem le_digestAttempts {row : ClaimedRow} (member : row ∈ rows) :
    row.attemptCount ≤ digestAttempts rows := by
  rcases Nat.eq_zero_or_pos row.attemptCount with none | positive
  · rw [none]
    exact Nat.zero_le _
  · exact (le_digestAttempts_iff rows positive).mpr ⟨row, member, le_rfl⟩

theorem moves_completeEmail {attemptId : String} {outcome : SendOutcome} :
    (rowProtocol leased).Valid allowed (.worker worker) (Known worker channel rows)
      (completeEmail channel rows worker attemptId outcome) fun _ _ => True := by
  apply Protocol.Valid.bind _ (valid_aside robust_known does_observe_aside)
  intro begun
  apply Protocol.Valid.bind _
    (valid_aside robust_known (Script.does_update fun _ _ => ⟨rfl, rfl, rfl⟩))
  intro _
  apply Protocol.Valid.bind _ (valid_aside robust_known does_observe_aside)
  intro later
  apply Protocol.Valid.bind (fun _ _ => True)
  · apply valid_updateRows robust_known.others
    intro before input kept known _ writable
    refine ⟨.send worker rfl (.completed channel outcome _ begun _ _ writable ?_), trivial⟩
    intro id member row seen owner
    obtain ⟨claimed, listed, rfl⟩ := List.mem_map.mp member
    rw [known.tried claimed listed row seen owner]
    exact le_digestAttempts listed
  · intro _
    apply Protocol.Valid.bind _ (valid_aside robust_true
      (Script.does_when fun _ => Script.does_update fun _ _ => ⟨rfl, rfl, rfl⟩))
    exact fun _ => valid_end robust_true fun _ _ _ => trivial

theorem moves_sendEmail {attemptId : String} (one : OneTarget channel rows) :
    (rowProtocol leased).Valid allowed (.worker worker)
      (fun host => Known worker channel rows host ∧
        Primed worker channel (rows.map ClaimedRow.id) host)
      (sendEmail channel rows worker attemptId) fun _ _ => True := by
  unfold sendEmail
  cases composes : composeEmail channel rows with
  | none =>
      apply Protocol.Valid.mono
        (valid_aside (robust_known.and robust_primed) does_raise_aside)
      · exact fun _ _ holds => holds
      · exact fun _ _ _ _ => trivial
  | some email =>
      apply Protocol.Valid.bind _ (valid_began one composes)
      intro call
      apply Protocol.valid_of_fact
      intro caller
      apply Protocol.Valid.bind _ (valid_ended call caller)
      exact fun outcome => moves_completeEmail

theorem moves_dispatchEmail (implies : ∀ actor label host input, allowed actor label host input →
      leased → leasedAtDispatch actor label host input) (one : OneTarget channel rows) :
    (rowProtocol leased).Valid allowed (.worker worker) (Prepared worker channel rows)
      (dispatchEmail channel rows worker) fun _ _ => True := by
  apply Protocol.Valid.bind _ (valid_aside robust_prepared does_observe_aside)
  intro now
  apply Protocol.Valid.bind _ (valid_aside robust_prepared does_observe_aside)
  intro valid
  apply Protocol.Valid.bind (fun _ => Prepared worker channel rows)
  · unfold Script.when
    split
    · exact valid_expireAtDispatch
    · exact Protocol.valid_ret fun _ _ holds => holds
  intro _
  split
  · apply Protocol.Valid.bind _ (valid_aside robust_prepared
      (Script.does_when fun _ => Script.does_update fun _ _ => ⟨rfl, rfl, rfl⟩))
    exact fun _ => valid_end robust_prepared fun _ _ _ => trivial
  · apply Protocol.Valid.bind _ (valid_aside robust_prepared (Script.does_freshId .refl))
    intro attemptId
    apply Protocol.Valid.bind _
      (valid_aside robust_prepared (Script.does_insert fun _ _ _ => ⟨rfl, rfl, rfl⟩))
    intro _
    apply Protocol.Valid.bind _
    · apply Protocol.Valid.mono (valid_takeOff implies)
      · exact fun host _ prepared => prepared.mono fun row => List.mem_of_mem_filter
      · exact fun _ _ _ holds => holds
    · intro _
      apply Protocol.Valid.bind _ valid_dispatched
      exact fun _ => moves_sendEmail (oneTarget_filter one)

theorem moves_attemptEmail (implies : ∀ actor label host input, allowed actor label host input →
      leased → leasedAtDispatch actor label host input) :
    (rowProtocol leased).Valid allowed (.worker worker) (ClaimedRows worker channel rows)
      (attemptEmail channel rows worker) fun _ _ => True := by
  apply Protocol.valid_of_fact
  intro one
  apply Protocol.Valid.bind _ (valid_aside robust_prepared does_lock_aside)
  intro _
  apply Protocol.Valid.bind _ (valid_aside robust_prepared does_observe_aside)
  intro control
  cases control with
  | none =>
      apply Protocol.Valid.mono (valid_aside robust_prepared does_raise_aside)
      · exact fun _ _ holds => holds
      · exact fun _ _ _ _ => trivial
  | some control =>
      apply Protocol.Valid.bind (fun _ _ => True)
      · dsimp only
        split
        · exact moves_dispatchEmail implies one
        · exact Protocol.valid_ret fun _ _ _ => trivial
      · intro _
        exact valid_sweeps (Script.does_commit fun _ => .commit _ rfl)

end

/-! ## Whole runs -/

section

variable (implies : ∀ actor label host input, allowed actor label host input → leased →
  leasedAtDispatch actor label host input)

include implies

theorem moves_systemLoop (rounds : Nat) :
    (rowProtocol leased).Valid allowed (.worker worker) (fun _ => True)
      (systemLoop worker rounds) fun _ _ => True := by
  induction rounds with
  | zero => exact Protocol.valid_ret fun _ _ _ => trivial
  | succ rounds ih =>
      apply Protocol.Valid.bind _ (valid_aside robust_true (Script.does_awaitFlag .refl))
      intro late
      split
      · exact Protocol.valid_ret fun _ _ _ => trivial
      · apply Protocol.Valid.bind _ moves_claimSystem
        intro claimed
        cases claimed with
        | none => exact Protocol.valid_ret fun _ _ _ => trivial
        | some row =>
            apply Protocol.Valid.bind (fun _ _ => True)
            · apply Protocol.Valid.mono (moves_attemptEmail implies)
              · exact fun host _ claimed => claimed row rfl
              · exact fun _ _ _ _ => trivial
            · exact fun _ => ih

theorem moves_subscriberLoop {settings : Settings} (rounds : Nat) :
    (rowProtocol leased).Valid allowed (.worker worker) (fun _ => True)
      (subscriberLoop worker settings rounds) fun _ _ => True := by
  induction rounds with
  | zero => exact Protocol.valid_ret fun _ _ _ => trivial
  | succ rounds ih =>
      apply Protocol.Valid.bind _ (valid_aside robust_true (Script.does_awaitFlag .refl))
      intro late
      split
      · exact Protocol.valid_ret fun _ _ _ => trivial
      · apply Protocol.Valid.bind _ (valid_sweeps SweepStep.does_nextSubscriberTarget)
        intro target
        cases target with
        | none => exact Protocol.valid_ret fun _ _ _ => trivial
        | some target =>
            apply Protocol.Valid.bind _ (valid_aside robust_true (Script.does_awaitWeather .refl))
            intro weather
            apply Protocol.Valid.bind _ moves_claimSubscriberGroup
            intro rows
            apply Protocol.Valid.bind (fun _ _ => True)
            · unfold Script.when
              split
              · exact moves_attemptEmail implies
              · exact Protocol.valid_ret fun _ _ _ => trivial
            · exact fun _ => ih

theorem moves_runCycle {settings : Settings} :
    (rowProtocol leased).Valid allowed (.worker worker) (fun _ => True)
      (runCycle worker settings) fun _ _ => True := by
  apply Protocol.Valid.bind _ (valid_sweeps SweepStep.does_expireUnusable)
  intro _
  apply Protocol.Valid.bind _ (moves_systemLoop implies systemBatch)
  intro _
  apply Protocol.Valid.bind _ (moves_subscriberLoop implies subscriberRowsPerDigest)
  exact fun _ => valid_sweeps SweepStep.does_reconcile

/-- Every script of the host makes listed changes. -/
theorem rowProtocol_follows (digests : Digests) (deployed : Settings → Prop) :
    (rowProtocol leased).Follows (hostSystem digests deployed) allowed where
  restingStable _ _ _ _ _ _ _ := trivial
  operations actor program operation := by
    cases operation with
    | cycle worker settings configured => exact moves_runCycle implies
    | recovery worker => exact valid_sweeps SweepStep.does_releaseExpiredLeases
    | upkeep worker => exact valid_sweeps SweepStep.does_maintenance
    | cancel number subscriptionId email =>
        exact valid_sweeps SweepStep.does_cancelSubscription
    | preference number email action dates =>
        exact valid_sweeps SweepStep.does_updateNotificationPauses
    | switch number enabled commitId => exact valid_sweeps SweepStep.does_setDeliveryEnabled
    | subscribe number email input dedupeKey limits =>
        exact valid_sweeps SweepStep.does_createSubscription
    | redeem number email => exact valid_sweeps SweepStep.does_redeemPriority
    | verify number email code => exact valid_sweeps SweepStep.does_queueVerification
    | enqueue number input =>
        exact valid_sweeps (WechatStep.does_enqueue.mono fun _ _ => WechatStep.sweep)
    | consume worker rounds =>
        exact valid_sweeps (ConsumerStep.does_consumer.mono fun _ _ => ConsumerStep.sweep)
    | ingest number observation => exact valid_sweeps SweepStep.does_ingestObservation
  crashes actor host kept := by
    have crashed : HostMove leased actor host (host.crash actor) := .crash
    obtain ⟨keptAfter, guarantees⟩ := RowsKept.guarantees kept crashed
    exact ⟨keptAfter, guarantees, trivial⟩
  environments before after kept passes := by
    obtain ⟨elapsed, rfl⟩ := passes
    have move : ∀ actor, HostMove leased actor before
        { before with clock := before.clock + elapsed } :=
      fun _ => .sweep (.aside rfl rfl rfl)
    refine ⟨kept.move (move (.request 0)), fun actor => ?_⟩
    obtain ⟨other, different⟩ := exists_ne actor
    exact ⟨other, different, move other⟩

end

end

/-- A host at rest: nothing was recorded, nobody holds a row or a slot, and the rows
are sound. -/
structure SoundRest (host : Host) : Prop where
  history : host.log = []
  unheld : ∀ channel id, (host.row channel id).held = none
  sound : ∀ channel id row, (host.row channel id).base = some row → SoundRow row
  slots : ∀ key, (host.slots.cell key).held = none

theorem SoundRest.kept {host : Host} (rest : SoundRest host) : RowsKept host where
  ascending channel id := Cell.ascending_of_unheld (rest.unheld channel id)
  sound channel id row version := by
    rcases version with stored | ⟨holder, held⟩
    · exact rest.sound channel id row stored
    · rw [rest.unheld] at held
      cases held
  slots key := .of_unheld (rest.slots key)

section

variable {leased : Prop} {allowed : Actor → Label → Host → Input → Prop} {digests : Digests}
  {deployed : Settings → Prop} {host : Host} {config target : Config Host Input Label Actor}
  (implies : ∀ actor label host input, allowed actor label host input → leased →
    leasedAtDispatch actor label host input)
  (rest : SoundRest host)
  (reachable : (hostSystem digests deployed).Reachable allowed (System.idle host) config)

include implies rest reachable

theorem rowsKept_of_reachable : RowsKept config.shared :=
  (rowProtocol_follows implies digests deployed).invariant_of_reachable rest.kept
    (fun _ => trivial) reachable

/-- Every step of a run is a listed change of some actor. -/
theorem hostMove_of_step (step : (hostSystem digests deployed).Step allowed config target) :
    ∃ actor, HostMove leased actor config.shared target.shared := by
  have still : ∀ host : Host, ∃ actor, HostMove leased actor host host :=
    fun host => ⟨.request 0, .sweep (.idle host)⟩
  have relied : ∀ actor before after, (rowProtocol leased).rely actor before after →
      ∃ mover, HostMove leased mover before after := by
    rintro actor before after ⟨other, _, move⟩
    exact ⟨other, move⟩
  exact (rowProtocol_follows implies digests deployed).related_of_step rest.kept
    (fun _ => trivial) reachable still relied step

end

end TennisAlerts.HostCore
