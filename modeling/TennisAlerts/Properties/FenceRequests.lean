import TennisAlerts.Properties.FenceProtocol

/-!
# The requests that fence delivery

A pause, a resume, a cancellation and the delivery switch take the exclusive
delivery lock before they write.  From then on nobody else changes the
preferences, the switch or the rows they hold, so the commit publishes exactly
what its history entry says.
-/

namespace TennisAlerts.HostCore

open TennisAlerts.Concurrent TennisAlerts.Database

/-! ## Assertions of a fenced request -/

/-- What a fenced request holds stays as it is. -/
structure FenceFrame (actor : Actor) (before after : Host) : Prop where
  fenced : Fenced (.work actor) after
  pauses : ∀ key, after.pauses.cell key = before.pauses.cell key
  control : after.control.cell () = before.control.cell ()
  subscriptions : ∀ id row, (before.subscriptions.cell id).held = some (.work actor, row) →
    after.subscriptions.cell id = before.subscriptions.cell id

/-- An assertion about the fence and what its request holds. -/
structure FenceAssertion (actor : Actor) (assertion : Host → Prop) : Prop where
  fenced : ∀ host, assertion host → Fenced (.work actor) host
  framed : ∀ before after, FenceFrame actor before after → assertion before → assertion after

/-- One statement of a fenced request that leaves the fence alone. -/
inductive FencedStep (actor : Actor) (before : Host) : Host → Prop
  | idle : FencedStep actor before before
  | lock (email : String)
      (free : before.mayLock (.work actor) (.subscriptions email) .exclusive = true) :
      FencedStep actor before
        { before with locks := ⟨.subscriptions email, .exclusive, .work actor⟩ :: before.locks }
  | outbox (statement : String → OutboxRow → Option OutboxRow)
      (writable : (before.outbox .subscriber).writable (.work actor)
        (fun id row => (statement id row).map some) = true)
      (moves : ∀ id row new, statement id row = some new → OutboxMove row new) :
      FencedStep actor before ((TableRef.outbox .subscriber).put
        ((before.outbox .subscriber).write (.work actor)
          fun id row => (statement id row).map some) before)
  | claims (table : VersionedTable Tx String ClaimRow) :
      FencedStep actor before { before with claims := table }
  | generations (table : VersionedTable Tx String Nat) :
      FencedStep actor before { before with generations := table }

section

variable {actor : Actor} {before after : Host} {assertion : Host → Prop}

theorem FenceAssertion.stable (about : FenceAssertion actor assertion) :
    fenceProtocol.Stable actor assertion := by
  intro before after _ _ relied holds
  have fenced := about.fenced before holds
  refine about.framed before after ⟨?_, ?_, ?_, ?_⟩ holds
  · exact (relied.locks _ rfl).mpr fenced
  · exact relied.pauses fenced
  · exact relied.control fenced
  · exact relied.subscriptions

theorem fenceFrame_of_eq (fenced : Fenced (.work actor) before) (locks : after.locks = before.locks)
    (pauses : after.pauses = before.pauses) (control : after.control = before.control)
    (subscriptions : after.subscriptions = before.subscriptions) :
    FenceFrame actor before after where
  fenced := by
    rw [Fenced, locks]
    exact fenced
  pauses key := by rw [pauses]
  control := by rw [control]
  subscriptions id _ _ := by rw [subscriptions]

theorem FencedStep.plainMove (step : FencedStep actor before after) :
    PlainMove actor before after := by
  cases step with
  | lock email free => exact plainMove_lock rfl free
  | outbox statement writable moves =>
      exact plainMove_outbox writable fun id row new changed =>
        (moves id row new changed).content.subject
  | _ => exact plainMove_of_frame rfl rfl rfl rfl rfl rfl rfl

theorem FencedStep.frame (step : FencedStep actor before after)
    (fenced : Fenced (.work actor) before) : FenceFrame actor before after := by
  cases step with
  | lock email free =>
      exact ⟨List.mem_cons_of_mem _ fenced, fun _ => rfl, rfl, fun _ _ _ => rfl⟩
  | _ => exact fenceFrame_of_eq fenced rfl rfl rfl rfl

variable {α : Type} {script : Script α}

theorem FenceAssertion.valid (about : FenceAssertion actor assertion)
    (does : Script.Does (FencedStep actor) script) :
    fenceProtocol.Valid System.anyAction actor assertion script fun _ => assertion := by
  apply does.valid about.stable
  intro before after invariant holds step
  have kept := step.plainMove.kept invariant
  exact ⟨kept.1, kept.2,
    about.framed before after (step.frame (about.fenced before holds)) holds⟩

theorem FenceAssertion.raise (about : FenceAssertion actor assertion) {value : α}
    {post : α → Host → Prop} :
    fenceProtocol.Valid System.anyAction actor assertion (Script.raise value) post := by
  apply Protocol.valid_act (fun _ _ _ => False) about.stable
  · rintro before input after _ _ _ ⟨⟩
  · exact fun _ _ => Protocol.valid_ret fun _ _ impossible => impossible.elim

theorem does_fencedGenerations {venues : List String} :
    Script.Does (FencedStep actor) (incrementGenerations actor venues) := by
  apply Script.does_forM
  intro venueId _
  apply Script.Does.bind (Script.does_upsert fun before _ => .generations _)
  exact fun _ => Script.does_pure _

/-! ## Taking the fence and committing -/

/-- The request is fenced and its commit publishes no preference but those in
`touched`, and the switch only when `switched`. -/
structure Fencing (actor : Actor) (touched : String × Int → Prop) (switched : Prop)
    (host : Host) : Prop where
  fenced : Fenced (.work actor) host
  pauses : ∀ key, ¬touched key →
    (host.pauses.cell key).view (.work actor) = (host.pauses.cell key).base
  control : ¬switched →
    (host.control.cell ()).view (.work actor) = (host.control.cell ()).base

theorem fenceAssertion_fencing {touched : String × Int → Prop} {switched : Prop} :
    FenceAssertion actor (Fencing actor touched switched) where
  fenced _ fencing := fencing.fenced
  framed before after frame fencing := by
    refine ⟨frame.fenced, ?_, ?_⟩
    · intro key untouched
      rw [frame.pauses]
      exact fencing.pauses key untouched
    · intro unswitched
      rw [frame.control]
      exact fencing.control unswitched

/-- A second fact about what the request holds. -/
theorem FenceAssertion.and {fact : Host → Prop} (about : FenceAssertion actor assertion)
    (framed : ∀ before after, FenceFrame actor before after → fact before → fact after) :
    FenceAssertion actor fun host => assertion host ∧ fact host where
  fenced host holds := about.fenced host holds.1
  framed before after frame holds :=
    ⟨about.framed before after frame holds.1, framed before after frame holds.2⟩

theorem view_eq_base_of_unheld {ρ : Type} {cell : Cell Tx ρ} {tx : Tx}
    (unheld : ∀ row, cell.held ≠ some (tx, row)) : cell.view tx = cell.base := by
  unfold Cell.view
  split
  · rename_i holder row held
    split
    · rename_i same
      subst same
      exact absurd held (unheld row)
    · rfl
  · rfl

theorem valid_readClock :
    fenceProtocol.Valid System.anyAction actor (Calm actor) Script.utcNow fun _ => Calm actor := by
  apply Protocol.valid_act (fun _ _ => Calm actor) stable_calm
  · rintro before input after invariant calm _ ⟨⟩
    have kept := (plainMove_of_frame rfl rfl rfl rfl rfl rfl rfl :
      PlainMove actor before before).kept invariant
    exact ⟨kept.1, kept.2, calm⟩
  · exact fun _ _ => Protocol.valid_ret fun _ _ holds => holds

theorem valid_fence :
    fenceProtocol.Valid System.anyAction actor (Calm actor)
      (Script.lock (.work actor) .delivery .exclusive)
      fun _ => Fencing actor (fun _ => False) False := by
  apply Protocol.valid_act (fun _ _ => Fencing actor (fun _ => False) False) stable_calm
  · intro before input after invariant calm _ acted
    dsimp only at acted
    split at acted
    · rename_i free
      cases acted
      have move : PlainMove actor before
          { before with locks := ⟨.delivery, .exclusive, .work actor⟩ :: before.locks } :=
        plainMove_lock rfl free
      have kept := move.kept invariant
      refine ⟨kept.1, kept.2, List.mem_cons_self, ?_, ?_⟩
      · intro key _
        apply view_eq_base_of_unheld
        intro row held
        exact calm.unfenced _ rfl (invariant.pauses key _ row held)
      · intro _
        apply view_eq_base_of_unheld
        intro row held
        exact calm.unfenced _ rfl (invariant.control _ row held)
    · cases acted
  · exact fun _ _ => Protocol.valid_ret fun _ _ holds => holds

/-- After the commit of its fence a process is calm. -/
theorem calm_of_commit (invariant : FenceInvariant before) (fenced : Fenced (.work actor) before)
    {event : Event} (kept : FenceInvariant ((before.commit (.work actor)).record event)) :
    Calm actor ((before.commit (.work actor)).record event) := by
  constructor
  · intro tx own still
    obtain ⟨member, dropped⟩ := List.mem_filter.mp still
    have holder := invariant.holder_eq fenced member rfl
    simp [show tx = .work actor from holder] at dropped
  · intro send mine running
    have stillGuarded := kept.guarded send running
    have holder := invariant.holder_eq fenced (List.mem_of_mem_filter stillGuarded) rfl
    cases holder

theorem valid_fenceCommit (about : FenceAssertion actor assertion) {event : Event}
    (entry : ∀ host, FenceInvariant host → assertion host → FenceEntry actor host event) :
    fenceProtocol.Valid System.anyAction actor assertion
      (Script.commitRecording (.work actor) event) fun _ => Calm actor := by
  apply Protocol.valid_act (fun _ _ => Calm actor) about.stable
  · rintro before input after invariant holds _ ⟨⟩
    have fenced := about.fenced before holds
    have entered := entry before invariant holds
    have kept := fenceKept_commit invariant fenced entered
    exact ⟨kept.1, kept.2, calm_of_commit invariant fenced kept.1⟩
  · exact fun _ _ => Protocol.valid_ret fun _ _ holds => holds

/-- An unswitched commit leaves the switch as the history has it. -/
theorem Fencing.off {touched : String × Int → Prop} {host : Host}
    (fencing : Fencing actor touched False host) (invariant : FenceInvariant host)
    (off : deliveryOff host.log = true) (row : ControlRow)
    (published : ((host.control.cell ()).commit (.work actor)).base = some row) :
    row.deliveryEnabled = false := by
  rw [Cell.base_commit_eq_view, fencing.control not_false] at published
  exact invariant.off off row published

/-- A commit leaves the preferences that it does not touch. -/
theorem Fencing.rules {touched : String × Int → Prop} {switched : Prop} {host : Host}
    (fencing : Fencing actor touched switched host) (invariant : FenceInvariant host)
    {email : String} {date : Int} (untouched : ¬touched (email, date))
    (paused : pausedIn email date host.log = true) :
    ∃ rule, ((host.pauses.cell (email, date)).commit (.work actor)).base = some rule ∧
      rule.paused = true := by
  rw [Cell.base_commit_eq_view, fencing.pauses _ untouched]
  exact invariant.rules email date paused

end

/-! ## The delivery switch -/

/-- The commit of the switch publishes its new position. -/
def Switching (actor : Actor) (enabled : Bool) (host : Host) : Prop :=
  Fencing actor (fun _ => False) True host ∧
    ∀ row, (host.control.cell ()).view (.work actor) = some row → row.deliveryEnabled = enabled

section

variable {actor : Actor}

theorem fenceAssertion_switching {enabled : Bool} :
    FenceAssertion actor (Switching actor enabled) := by
  apply fenceAssertion_fencing.and
  intro before after frame switched
  rw [frame.control]
  exact switched

theorem valid_switchUpdate {enabled : Bool} {commitId : String} {now : Int} :
    fenceProtocol.Valid System.anyAction actor (Fencing actor (fun _ => False) False)
      (Script.update .control (.work actor) fun _ _ control =>
        some (switchDelivery enabled commitId now control))
      fun _ => Switching actor enabled := by
  apply Protocol.valid_act (fun _ _ => Switching actor enabled) fenceAssertion_fencing.stable
  · intro before input after invariant fencing _ executed
    obtain ⟨writable, rfl⟩ := Script.execute_eq_some executed
    have cell : ∀ table : VersionedTable Tx Unit ControlRow, table =
        before.control.write (.work actor) (fun _ control =>
          some (some (switchDelivery enabled commitId now control))) →
        (table.cell () = before.control.cell () ∨
          ∃ row, table.cell () = (before.control.cell ()).hold (.work actor) row) ∧
        ∀ row, (table.cell ()).view (.work actor) = some row → row.deliveryEnabled = enabled := by
      rintro table rfl
      constructor
      · rcases VersionedTable.cell_write_cases writable () with
          ⟨unchanged, _⟩ | ⟨_, new, _, _, _, changed⟩
        · exact Or.inl unchanged
        · exact Or.inr ⟨new, changed⟩
      · intro row seen
        rw [VersionedTable.view_write] at seen
        cases previous : (before.control.cell ()).view (.work actor) with
        | none =>
            rw [previous] at seen
            cases seen
        | some control =>
            rw [previous] at seen
            cases seen
            rfl
    obtain ⟨held, published⟩ := cell _ rfl
    have kept := fenceKept_hold invariant fencing.fenced (fun _ => Or.inl rfl) held
    exact ⟨kept.1, kept.2, ⟨fencing.fenced, fencing.pauses, fun no => absurd trivial no⟩, published⟩
  · exact fun _ _ => Protocol.valid_ret fun _ _ holds => holds

theorem Switching.entry {enabled : Bool} {host : Host} (invariant : FenceInvariant host)
    (switching : Switching actor enabled host) :
    FenceEntry actor host (.deliverySet enabled) where
  fence := rfl
  off off row published := by
    rw [Cell.base_commit_eq_view] at published
    rw [switching.2 row published]
    simpa [deliveryOff] using off
  rules _ _ paused := switching.1.rules invariant not_false paused
  cancelled _ impossible := nomatch impossible

theorem valid_setDeliveryEnabled {enabled : Bool} {commitId : String} :
    fenceProtocol.Valid System.anyAction actor (Calm actor)
      (setDeliveryEnabled actor enabled commitId) fun _ => Calm actor := by
  apply Protocol.Valid.bind _ valid_readClock
  intro now
  apply Protocol.Valid.bind _ valid_fence
  intro _
  apply Protocol.Valid.bind _ (fenceAssertion_fencing.valid
    (Script.does_ite (fun _ => Script.does_awaitFlag fun _ => .idle) fun _ => Script.does_pure _))
  intro verified
  split
  · apply Protocol.Valid.bind _ valid_switchUpdate
    intro _
    exact valid_fenceCommit fenceAssertion_switching fun _ => Switching.entry
  · exact fenceAssertion_fencing.raise

/-! ## Booking-date preferences -/

/-- A pause has written the dates in `done` and touches no others than `dates`. -/
def Pausing (actor : Actor) (email : String) (dates done : List Int) (host : Host) : Prop :=
  Fencing actor (fun key => key.1 = email ∧ key.2 ∈ dates) False host ∧
    ∀ date ∈ done, ∃ rule, (host.pauses.cell (email, date)).view (.work actor) = some rule ∧
      rule.paused = true

theorem fenceAssertion_pausing {email : String} {dates done : List Int} :
    FenceAssertion actor (Pausing actor email dates done) := by
  apply fenceAssertion_fencing.and
  intro before after frame paused date member
  rw [frame.pauses]
  exact paused date member

theorem paused_pausedRule (now : Int) (rule : Option PauseRow) :
    (pausedRule now rule).paused = true := by
  cases rule with
  | none => rfl
  | some rule =>
      by_cases paused : rule.paused = true <;> simp [pausedRule, paused]

theorem valid_pauseDate {email : String} {dates done : List Int} {date now : Int}
    (member : date ∈ dates) :
    fenceProtocol.Valid System.anyAction actor (Pausing actor email dates done)
      (Script.upsert .pauses (.work actor) (email, date) (pausedRule now))
      fun _ => Pausing actor email dates (date :: done) := by
  apply Protocol.valid_act (fun _ _ => Pausing actor email dates (date :: done))
    fenceAssertion_pausing.stable
  · intro before input after invariant holds _ acted
    obtain ⟨free, rfl⟩ := Script.insertRow_eq_some acted
    obtain ⟨fencing, paused⟩ := holds
    let rule := pausedRule now ((before.pauses.cell (email, date)).view (.work actor))
    have self : (before.pauses.insert (.work actor) (email, date) rule).cell (email, date) =
        (before.pauses.cell (email, date)).hold (.work actor) (some rule) :=
      VersionedTable.cell_insert_self
    have cells : ∀ key, (before.pauses.insert (.work actor) (email, date) rule).cell key =
        before.pauses.cell key ∨
        ∃ row, (before.pauses.insert (.work actor) (email, date) rule).cell key =
          (before.pauses.cell key).hold (.work actor) row := by
      intro key
      by_cases same : key = (email, date)
      · subst same
        exact Or.inr ⟨some rule, self⟩
      · exact Or.inl (VersionedTable.cell_insert_of_ne same)
    have kept := fenceKept_hold invariant fencing.fenced cells (Or.inl rfl)
    refine ⟨kept.1, kept.2, ⟨fencing.fenced, ?_, fencing.control⟩, ?_⟩
    · intro key untouched
      have different : key ≠ (email, date) := by
        rintro rfl
        exact untouched ⟨rfl, member⟩
      have same : (before.pauses.insert (.work actor) (email, date) rule).cell key =
          before.pauses.cell key := VersionedTable.cell_insert_of_ne different
      change ((before.pauses.insert (.work actor) (email, date) rule).cell key).view _ =
        ((before.pauses.insert (.work actor) (email, date) rule).cell key).base
      rw [same]
      exact fencing.pauses key untouched
    · intro other listed
      change ∃ found, ((before.pauses.insert (.work actor) (email, date) rule).cell
        (email, other)).view _ = some found ∧ _
      by_cases same : other = date
      · subst same
        rw [self]
        exact ⟨rule, by simp [Cell.view, Cell.hold], paused_pausedRule now _⟩
      · rw [VersionedTable.cell_insert_of_ne (by simp [same])]
        exact paused other (List.mem_of_ne_of_mem same listed)
  · exact fun _ _ => Protocol.valid_ret fun _ _ holds => holds

theorem valid_pauseDates {email : String} {dates : List Int} {now : Int} :
    ∀ (rest done : List Int), (∀ date ∈ rest, date ∈ dates) →
      fenceProtocol.Valid System.anyAction actor (Pausing actor email dates done)
        (pauseDates actor email now rest) fun _ host =>
          Fencing actor (fun key => key.1 = email ∧ key.2 ∈ dates) False host ∧
            ∀ date, date ∈ done ∨ date ∈ rest →
              ∃ rule, (host.pauses.cell (email, date)).view (.work actor) = some rule ∧
                rule.paused = true
  | [], done, _ => by
      apply Protocol.valid_ret
      intro host _ holds
      refine ⟨holds.1, fun date listed => holds.2 date ?_⟩
      simpa using listed
  | date :: rest, done, listed => by
      apply Protocol.Valid.bind _ (valid_pauseDate (listed date List.mem_cons_self))
      intro rule
      apply Protocol.Valid.bind _ (valid_pauseDates rest (date :: done) fun other member =>
        listed other (List.mem_cons_of_mem _ member))
      intro changed
      apply Protocol.valid_ret
      intro host _ holds
      refine ⟨holds.1, fun other member => holds.2 other ?_⟩
      simp only [List.mem_cons] at member ⊢
      tauto

theorem Pausing.entry {email : String} {dates : List Int} {host : Host}
    (invariant : FenceInvariant host) (pausing : Pausing actor email dates dates host) :
    FenceEntry actor host (.paused email dates) where
  fence := rfl
  off off := pausing.1.off invariant off
  rules address date paused := by
    by_cases touched : address = email ∧ date ∈ dates
    · obtain ⟨rfl, member⟩ := touched
      rw [Cell.base_commit_eq_view]
      exact pausing.2 date member
    · apply pausing.1.rules invariant touched
      have apart : ¬(email = address ∧ date ∈ dates) := by
        rintro ⟨rfl, member⟩
        exact touched ⟨rfl, member⟩
      simpa only [pausedIn, decide_eq_false apart, Bool.false_or] using paused
  cancelled _ impossible := nomatch impossible

theorem valid_applyPause {email : String} {dates : List Int} {now : Int} :
    fenceProtocol.Valid System.anyAction actor (Fencing actor (fun _ => False) False)
      (applyPause actor email dates now) fun _ => Pausing actor email dates dates := by
  apply Protocol.Valid.bind (fun _ => Pausing actor email dates dates)
  · apply Protocol.Valid.mono (valid_pauseDates dates [] fun _ member => member)
    · intro host _ fencing
      refine ⟨⟨fencing.fenced, fun key _ => fencing.pauses key not_false, fencing.control⟩, ?_⟩
      exact fun _ impossible => absurd impossible List.not_mem_nil
    · exact fun _ _ _ holds => ⟨holds.1, fun date member => holds.2 date (Or.inr member)⟩
  intro changed
  apply Protocol.Valid.bind _ (fenceAssertion_pausing.valid
    (Script.does_updateReturning fun before writable =>
      .outbox _ writable fun _ _ _ => cancelPaused_move))
  intro cancelled
  apply Protocol.Valid.bind _ (fenceAssertion_pausing.valid
    (Script.does_when fun _ => Script.does_update fun before _ => .claims _))
  exact fun _ => Protocol.valid_ret fun _ _ holds => holds

/-- A resume touches only the dates it names. -/
def Resuming (actor : Actor) (email : String) (dates : List Int) (host : Host) : Prop :=
  Fencing actor (fun key => key.1 = email ∧ key.2 ∈ dates) False host

theorem Resuming.entry {email : String} {dates : List Int} {host : Host}
    (invariant : FenceInvariant host) (resuming : Resuming actor email dates host) :
    FenceEntry actor host (.resumed email dates) where
  fence := rfl
  off off := resuming.off invariant off
  rules address date paused := by
    by_cases touched : address = email ∧ date ∈ dates
    · obtain ⟨rfl, member⟩ := touched
      simp [pausedIn, member] at paused
    · apply resuming.rules invariant touched
      simp only [pausedIn, Bool.and_eq_true] at paused
      exact paused.2
  cancelled _ impossible := nomatch impossible

theorem valid_applyResume {email : String} {dates : List Int} {now : Int} :
    fenceProtocol.Valid System.anyAction actor (Fencing actor (fun _ => False) False)
      (applyResume actor email dates now) fun _ => Resuming actor email dates := by
  apply Protocol.valid_act (fun _ _ => Resuming actor email dates) fenceAssertion_fencing.stable
  · intro before input after invariant fencing _ executed
    obtain ⟨writable, rfl⟩ := Script.execute_eq_some executed
    have cells : ∀ table : VersionedTable Tx (String × Int) PauseRow, table =
        before.pauses.write (.work actor) (fun key rule =>
          (resumeRule email dates now key rule).map some) →
        ∀ key, (table.cell key = before.pauses.cell key ∨
          ∃ row, table.cell key = (before.pauses.cell key).hold (.work actor) row) ∧
          (¬(key.1 = email ∧ key.2 ∈ dates) → table.cell key = before.pauses.cell key) := by
      rintro table rfl key
      rcases VersionedTable.cell_write_cases writable key with
        ⟨unchanged, _⟩ | ⟨row, new, _, chosen, _, changed⟩
      · exact ⟨Or.inl unchanged, fun _ => unchanged⟩
      · refine ⟨Or.inr ⟨new, changed⟩, fun untouched => ?_⟩
        have unselected : resumeRule email dates now key row = none := by
          simp only [resumeRule, ite_eq_right_iff, reduceCtorEq, imp_false]
          exact fun selected => untouched ⟨selected.1, selected.2.1⟩
        dsimp only at chosen
        rw [unselected] at chosen
        cases chosen
    have kept := fenceKept_hold invariant fencing.fenced (fun key => (cells _ rfl key).1)
      (Or.inl rfl)
    refine ⟨kept.1, kept.2, fencing.fenced, fun key untouched => ?_, fencing.control⟩
    have same := (cells _ rfl key).2 untouched
    refine Eq.trans (congrArg _ same) (Eq.trans ?_ (congrArg _ same.symm))
    exact fencing.pauses key not_false
  · exact fun _ _ => Protocol.valid_ret fun _ _ holds => holds

theorem does_fencedBump {email : String} {changed : List Int} :
    Script.Does (FencedStep actor) (Script.when (changed ≠ []) (bumpGenerations actor email)) := by
  apply Script.does_when
  intro _
  apply Script.Does.bind (Script.does_observe fun _ => .idle)
  exact fun _ => does_fencedGenerations

theorem valid_updateNotificationPauses {email : String} {action : PauseAction}
    {requested : List Int} :
    fenceProtocol.Valid System.anyAction actor (Calm actor)
      (updateNotificationPauses actor email action requested) fun _ => Calm actor := by
  apply Protocol.Valid.bind _ valid_fence
  intro _
  apply Protocol.Valid.bind _ (fenceAssertion_fencing.valid (Script.does_observe fun _ => .idle))
  intro now
  cases validatePauseRequest requested now with
  | none => exact fenceAssertion_fencing.raise
  | some dates =>
      cases action with
      | pause =>
          apply Protocol.Valid.bind _ valid_applyPause
          intro changed
          apply Protocol.Valid.bind _ (fenceAssertion_pausing.valid does_fencedBump)
          intro _
          exact valid_fenceCommit fenceAssertion_pausing fun _ => Pausing.entry
      | resume =>
          apply Protocol.Valid.bind _ valid_applyResume
          intro changed
          apply Protocol.Valid.bind _ (fenceAssertion_fencing.valid does_fencedBump)
          intro _
          exact valid_fenceCommit fenceAssertion_fencing fun _ => Resuming.entry

/-! ## Cancellations -/

/-- The request holds a version of the subscription with the given property. -/
def Cancelling (actor : Actor) (id : String) (property : SubscriptionRow → Prop) (host : Host) :
    Prop :=
  Fencing actor (fun _ => False) False host ∧
    ∃ row, (host.subscriptions.cell id).held = some (.work actor, some row) ∧ property row

theorem fenceAssertion_cancelling {id : String} {property : SubscriptionRow → Prop} :
    FenceAssertion actor (Cancelling actor id property) := by
  apply fenceAssertion_fencing.and
  rintro before after frame ⟨row, held, satisfied⟩
  refine ⟨row, ?_, satisfied⟩
  rw [frame.subscriptions id _ held]
  exact held

theorem Cancelling.entry {id : String} {host : Host} (invariant : FenceInvariant host)
    (cancelling : Cancelling actor id (fun row => row.active = false) host) :
    FenceEntry actor host (.cancelled id) where
  fence := rfl
  off off := cancelling.1.off invariant off
  rules _ _ paused := cancelling.1.rules invariant not_false paused
  cancelled other same := by
    cases same
    exact cancelling.2

/-- A statement of a fenced request on the subscriptions. -/
theorem fencing_subscriptions {before : Host} (invariant : FenceInvariant before)
    (fencing : Fencing actor (fun _ => False) False before)
    {statement : String → SubscriptionRow → Option SubscriptionRow}
    (writable : before.subscriptions.writable (.work actor)
      (fun id row => (statement id row).map some) = true)
    (moves : ∀ id row new, statement id row = some new → SubscriptionMove row new) :
    FenceKept actor before { before with
        subscriptions := before.subscriptions.write (.work actor)
          fun id row => (statement id row).map some } ∧
      Fencing actor (fun _ => False) False { before with
        subscriptions := before.subscriptions.write (.work actor)
          fun id row => (statement id row).map some } :=
  ⟨(plainMove_subscriptions writable moves).kept invariant, fencing.fenced, fencing.pauses,
    fencing.control⟩

theorem valid_lockSubscription {id email : String} :
    fenceProtocol.Valid System.anyAction actor (Fencing actor (fun _ => False) False)
      (Script.selectRowForUpdate .subscriptions (.work actor) id fun row =>
        decide (row.email = email) && row.active)
      fun found host => Fencing actor (fun _ => False) False host ∧
        ∀ row, found = some row → Cancelling actor id (fun row => row.email = email) host := by
  let condition : SubscriptionRow → Bool := fun row => decide (row.email = email) && row.active
  apply Protocol.valid_act (fun before _ after => Fencing actor (fun _ => False) False after ∧
    ∀ row, ((before.subscriptions.cell id).view (.work actor)).filter condition = some row →
      Cancelling actor id (fun row => row.email = email) after) fenceAssertion_fencing.stable
  · intro before input after invariant fencing _ executed
    obtain ⟨writable, rfl⟩ := Script.execute_eq_some executed
    rw [lockStatement_eq] at writable ⊢
    obtain ⟨kept, still⟩ := fencing_subscriptions invariant fencing writable
      fun _ _ _ => lockRow_move
    refine ⟨kept.1, kept.2, still, fun row found => ⟨still, row, ?_, ?_⟩⟩
    · obtain ⟨seen, accepted⟩ := Option.filter_eq_some_iff.mp found
      apply VersionedTable.held_write id seen
      simp [lockRow, condition, accepted]
    · have accepted := (Option.filter_eq_some_iff.mp found).2
      simp only [condition, Bool.and_eq_true, decide_eq_true_eq] at accepted
      exact accepted.1
  · exact fun _ _ => Protocol.valid_ret fun _ _ holds => holds

theorem valid_deactivate {id email : String} {now : Int} :
    fenceProtocol.Valid System.anyAction actor
      (Cancelling actor id fun row => row.email = email)
      (Script.update .subscriptions (.work actor) fun _ other row =>
        deactivate id email now other row)
      fun _ => Cancelling actor id fun row => row.active = false := by
  apply Protocol.valid_act (fun _ _ => Cancelling actor id fun row => row.active = false)
    fenceAssertion_cancelling.stable
  · rintro before input after invariant ⟨fencing, row, held, owned⟩ _ executed
    obtain ⟨writable, rfl⟩ := Script.execute_eq_some executed
    obtain ⟨kept, still⟩ := fencing_subscriptions invariant fencing writable
      fun _ _ _ => deactivate_move
    refine ⟨kept.1, kept.2, still, { row with active := false, updatedAt := now }, ?_, rfl⟩
    have seen : (before.subscriptions.cell id).view (.work actor) = some row := by
      simp [Cell.view, held]
    apply VersionedTable.held_write id seen
    simp [deactivate, owned]
  · exact fun _ _ => Protocol.valid_ret fun _ _ holds => holds

theorem valid_cancelSubscription {id email : String} :
    fenceProtocol.Valid System.anyAction actor (Calm actor)
      (cancelSubscription actor id email) fun _ => Calm actor := by
  apply Protocol.Valid.bind _ valid_readClock
  intro now
  apply Protocol.Valid.bind _ valid_fence
  intro _
  apply Protocol.Valid.bind _ (fenceAssertion_fencing.valid
    (Script.does_lock fun _ free => .lock email free))
  intro _
  apply Protocol.Valid.bind _ valid_lockSubscription
  intro found
  cases found with
  | none =>
      apply Protocol.Valid.mono fenceAssertion_fencing.raise
      · exact fun _ _ holds => holds.1
      · exact fun _ _ _ holds => holds
  | some subscription =>
      apply Protocol.Valid.bind (fun _ => Cancelling actor id fun row => row.active = false)
      · apply Protocol.Valid.mono valid_deactivate
        · exact fun _ _ holds => holds.2 subscription rfl
        · exact fun _ _ _ holds => holds
      intro _
      apply Protocol.Valid.bind _ (fenceAssertion_cancelling.valid
        (Script.does_update fun before writable =>
          .outbox _ writable fun _ _ _ => cancelOpenRow_move))
      intro _
      apply Protocol.Valid.bind _ (fenceAssertion_cancelling.valid does_fencedGenerations)
      intro _
      exact valid_fenceCommit fenceAssertion_cancelling fun _ => Cancelling.entry

end

end TennisAlerts.HostCore
