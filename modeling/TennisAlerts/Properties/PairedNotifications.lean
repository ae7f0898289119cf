import TennisAlerts.Properties.PairProtocol
import TennisAlerts.Properties.SingleSend

/-!
# One notification for every match

The matching loop of an ingest puts a subscription event and, when the event is new, the
notification row of the same subscription and event key.  Both become visible with the
same commit, and no other script adds or removes either.  So whatever is interleaved,
every committed event has exactly one notification row and every row has its event.
-/

namespace TennisAlerts.HostCore

open TennisAlerts.Concurrent TennisAlerts.Database

/-! ## Scripts -/

/-- One change that keeps every event of the process complete. -/
inductive PairStep (actor : Actor) (before : Host) : Host → Prop
  | same {after : Host} (same : SamePairs before after) : PairStep actor before after
  | rows {after : Host} (step : RowsRewritten actor before after) : PairStep actor before after
  | commit {after : Host} (tx : Tx) (own : tx.actor = actor)
      (step : PairsCommitted tx before after) : PairStep actor before after

section

variable {actor : Actor} {before after : Host} {pair : String × String}
  {allowed : Actor → Label → Host → Input → Prop}

theorem PairStep.kept (step : PairStep actor before after) (invariant : PairInvariant before)
    (complete : Complete actor before) :
    PairInvariant after ∧ pairProtocol.Guarantees actor before after ∧ Complete actor after := by
  cases step with
  | same same =>
      rcases SamePairs.kept same invariant with ⟨kept, guarantees⟩
      exact ⟨kept, guarantees, same.complete complete⟩
  | rows step =>
      rcases step.kept invariant with ⟨kept, guarantees⟩
      exact ⟨kept, guarantees, step.complete complete⟩
  | commit tx own step =>
      rcases step.kept own invariant complete with ⟨kept, guarantees⟩
      exact ⟨kept, guarantees, step.complete complete⟩

theorem notification_put (table : VersionedTable Tx String OutboxRow) (host : Host) (id : String) :
    ((TableRef.outbox .subscriber).put table host).notification id = table.cell id :=
  congrArg (fun stored => VersionedTable.cell stored id)
    ((TableRef.outbox .subscriber).get_put table host)

theorem PairStep.of_bystander (step : BystanderStep actor before after) :
    PairStep actor before after := by
  cases step with
  | still untouched outbox locks =>
      apply PairStep.same
      constructor
      · simp [untouched.events]
      · simp [Host.notification, outbox]
  | rows statement writable same =>
      apply PairStep.rows
      constructor
      · exact fun _ => rfl
      · intro id
        rw [notification_put]
        exact rewritten_write writable same id
  | commit tx own quiet => exact .commit tx own ⟨fun _ => rfl, fun _ => rfl⟩

theorem valid_pairSteps {α : Type} {script : Script α}
    (does : Script.Does (PairStep actor) script) :
    pairProtocol.Valid allowed actor (Complete actor) script fun _ => Complete actor :=
  does.valid stable_complete fun _ _ invariant complete step => step.kept invariant complete

theorem does_beside_pairs {α : Type} {label : Label} {value : Host → α} :
    Script.Does (PairStep actor) (Script.observe label value) :=
  Script.does_observe fun _ => .same ⟨fun _ => rfl, fun _ => rfl⟩

/-! ### The matching loop -/

/-- A script beside the pairs leaves a missing row missing. -/
theorem valid_owing {α : Type} {script : Script α} (does : Script.Does SamePairs script) :
    pairProtocol.Valid allowed actor (Owing actor pair) script fun _ => Owing actor pair := by
  apply does.valid stable_owing
  intro before after invariant owing same
  rcases SamePairs.kept same invariant with ⟨kept, guarantees⟩
  exact ⟨kept, guarantees, same.owing owing⟩

/-- The event is put, or it was there. -/
theorem valid_insertEvent {time : Int} :
    pairProtocol.Valid allowed actor (Complete actor)
      (Script.insertIfAbsent .events (.work actor) pair time)
      fun inserted host =>
        if inserted = true then Owing actor pair host else Complete actor host := by
  apply Protocol.valid_act (fun before _ host =>
    if (((TableRef.events.get before).cell pair).view (.work actor)).isNone = true then
      Owing actor pair host
    else Complete actor host) stable_complete
  · intro before input after invariant complete _ acted
    split at acted
    · split at acted
      · rename_i absent
        rcases Script.insertRow_eq_some acted with ⟨free, rfl⟩
        have isAbsent := Option.isNone_iff_eq_none.mp absent
        have step : EventPut actor pair before
            (TableRef.events.put (before.events.insert (.work actor) pair time) before) := by
          constructor
          · exact invariant.unheld free isAbsent
          · exact ⟨time, VersionedTable.cell_insert_self⟩
          · exact fun other different => VersionedTable.cell_insert_of_ne different
          · exact fun _ => rfl
        rcases step.kept invariant with ⟨kept, guarantees⟩
        refine ⟨kept, guarantees, ?_⟩
        rw [if_pos absent]
        exact step.owing invariant complete
      · rename_i present
        cases acted
        have same : SamePairs before before := ⟨fun _ => rfl, fun _ => rfl⟩
        rcases same.kept invariant with ⟨kept, guarantees⟩
        refine ⟨kept, guarantees, ?_⟩
        rw [if_neg present]
        exact complete
    · cases acted
  · exact fun _ _ => Protocol.valid_ret fun _ _ reached => reached

theorem pair_of_taken {row other : OutboxRow}
    (taken : (decide (other.subscriptionId = row.subscriptionId) &&
      decide (other.eventKey = row.eventKey)) = true) : other.pair = row.pair := by
  simp only [Bool.and_eq_true, decide_eq_true_eq] at taken
  rw [OutboxRow.pair, taken.1, taken.2, OutboxRow.pair]

/-- The missing row is put. -/
theorem valid_insertNotification {id : String} {row : OutboxRow}
    (request : Tx.isRequest (.work actor)) :
    pairProtocol.Valid allowed actor (Owing actor row.pair) (insertNotification actor id row)
      fun _ => Complete actor := by
  apply Protocol.valid_act (fun _ _ => Complete actor) stable_owing
  · intro before input after invariant owing _ acted
    dsimp only at acted
    split at acted
    · cases acted
    · split at acted
      · -- a row of the pair would have its event, which is new
        rename_i found
        rcases List.any_eq_true.mp found with ⟨key, _, taken⟩
        have version : ∃ other, (before.notification key).Version other ∧
            other.pair = row.pair := by
          rw [Bool.or_eq_true, Option.any_eq_true, Option.any_eq_true] at taken
          rcases taken with ⟨other, seen, same⟩ | ⟨other, stored, same⟩
          · exact ⟨other, Cell.version_of_view seen, pair_of_taken same⟩
          · exact ⟨other, .inl stored, pair_of_taken same⟩
        rcases version with ⟨other, version, same⟩
        exact absurd same (owing.no_version invariant version)
      · split at acted
        · rename_i absent
          rcases Script.insertRow_eq_some acted with ⟨free, rfl⟩
          have step : NotificationPut actor id row before
              ((TableRef.outbox .subscriber).put
                ((before.outbox .subscriber).insert (.work actor) id row) before) := by
            constructor
            · exact Option.isNone_iff_eq_none.mp absent
            · exact free
            · rw [notification_put]
              exact VersionedTable.cell_insert_self
            · intro other different
              rw [notification_put]
              exact VersionedTable.cell_insert_of_ne different
            · exact fun _ => rfl
          rcases step.kept request owing invariant with ⟨kept, guarantees⟩
          exact ⟨kept, guarantees, step.complete owing invariant⟩
        · cases acted
  · exact fun _ _ => Protocol.valid_ret fun _ _ complete => complete

theorem valid_matchSubscription {number : Nat} {observation : Observation} {slot : Slot}
    {eventKey : String} {rules : List ((String × Int) × PauseRow)} {now : Int}
    {subscription : ActiveSubscription} :
    pairProtocol.Valid allowed (.request number) (Complete (.request number))
      (matchSubscription (.request number) observation slot eventKey rules now subscription)
      fun _ => Complete (.request number) := by
  unfold matchSubscription
  dsimp only
  split
  · apply Protocol.Valid.bind _ valid_insertEvent
    intro inserted
    cases inserted with
    | true =>
        apply Protocol.Valid.bind (fun _ => Owing (.request number) (subscription.id, eventKey))
        · exact valid_owing (Script.does_freshId fun _ => ⟨fun _ => rfl, fun _ => rfl⟩)
        · intro id
          apply Protocol.Valid.mono (valid_insertNotification ⟨number, rfl⟩)
          · exact fun _ _ owing => owing
          · exact fun _ _ _ complete => complete
    | false =>
        apply Protocol.Valid.mono
        · apply valid_pairSteps
          apply Script.does_ite (by simp)
          intro _
          apply Script.does_ite
          · intro _
            apply Script.does_update
            intro before writable
            apply PairStep.rows
            constructor
            · exact fun _ => rfl
            · intro id
              rw [notification_put]
              exact rewritten_write writable
                (fun _ _ _ changed => (restorePaused_move changed).content.subject) id
          · exact fun _ => Script.does_pure _
        · exact fun _ _ complete => complete
        · exact fun _ _ _ complete => complete
  · exact Protocol.valid_ret fun _ _ complete => complete

/-! ### The ingest -/

theorem same_pairs {α : Type} {script : Script α} (does : Script.Does SamePairs script) :
    Script.Does (PairStep actor) script :=
  does.mono fun _ _ => .same

theorem does_commit_pairs {event : Event} :
    Script.Does (PairStep actor) (Script.commitRecording (.work actor) event) :=
  Script.does_commitRecording fun _ => .commit (.work actor) rfl ⟨fun _ => rfl, fun _ => rfl⟩

theorem does_putAvailability_pairs {digests : Digests} {observation : Observation} {now : Int} :
    Script.Does SamePairs (putAvailability actor digests observation now) := by
  apply Script.does_forM
  intro slot _
  apply Script.Does.bind (Script.does_upsert fun _ _ => ⟨fun _ => rfl, fun _ => rfl⟩)
  exact fun _ => Script.does_insert fun _ _ _ => ⟨fun _ => rfl, fun _ => rfl⟩

theorem valid_acceptObservation_pairs {digests : Digests} {number : Nat}
    {observation : Observation} {generation : Nat} {state : Option ObservationRow}
    {begun now : Int} :
    pairProtocol.Valid allowed (.request number) (Complete (.request number))
      (acceptObservation (.request number) digests observation generation state begun now)
      fun _ => Complete (.request number) := by
  have beside : ∀ {α : Type} {script : Script α}, Script.Does SamePairs script →
      pairProtocol.Valid allowed (.request number) (Complete (.request number)) script
        fun _ => Complete (.request number) :=
    fun does => valid_pairSteps (same_pairs does)
  apply Protocol.Valid.bind _ (beside (Script.does_delete fun _ _ => ⟨fun _ => rfl, fun _ => rfl⟩))
  intro _
  apply Protocol.Valid.bind _ (beside (Script.does_when fun _ => does_putAvailability_pairs))
  intro _
  apply Protocol.Valid.bind _ (beside (Script.does_update fun _ _ => ⟨fun _ => rfl, fun _ => rfl⟩))
  intro _
  apply Protocol.Valid.bind _ (valid_pairSteps does_beside_pairs)
  intro subscriptions
  apply Protocol.Valid.bind _ (valid_pairSteps does_beside_pairs)
  intro rules
  dsimp only
  split
  · apply Protocol.Valid.bind _
      (beside (Script.does_update fun _ _ => ⟨fun _ => rfl, fun _ => rfl⟩))
    exact fun _ => valid_pairSteps does_commit_pairs
  · apply Protocol.Valid.bind (fun _ => Complete (.request number))
    · unfold Script.when
      split
      · apply Protocol.valid_forM
        intro slot _
        apply Protocol.valid_forM
        exact fun subscription _ => valid_matchSubscription
      · exact Protocol.valid_ret fun _ _ complete => complete
    intro _
    apply Protocol.Valid.bind _
      (beside (Script.does_upsert fun _ _ => ⟨fun _ => rfl, fun _ => rfl⟩))
    intro _
    apply Protocol.Valid.bind _
      (beside (Script.does_update fun _ _ => ⟨fun _ => rfl, fun _ => rfl⟩))
    exact fun _ => valid_pairSteps does_commit_pairs

theorem valid_ingestObservation_pairs {digests : Digests} {number : Nat}
    {observation : Observation} :
    pairProtocol.Valid allowed (.request number) (Complete (.request number))
      (ingestObservation (.request number) digests observation)
      fun _ => Complete (.request number) := by
  have lock : ∀ {key : LockKey} {mode : LockMode},
      Script.Does (PairStep (.request number)) (Script.lock (.work (.request number)) key mode) :=
    Script.does_lock fun _ _ => .same ⟨fun _ => rfl, fun _ => rfl⟩
  apply Protocol.Valid.bind _ (valid_pairSteps does_beside_pairs)
  intro begun
  apply Protocol.Valid.bind _ (valid_pairSteps lock)
  intro _
  apply Protocol.Valid.bind _ (valid_pairSteps does_beside_pairs)
  intro now
  apply Protocol.Valid.bind _ (valid_pairSteps lock)
  intro _
  apply Protocol.Valid.bind _
    (valid_pairSteps (same_pairs (Script.does_upsert fun _ _ => ⟨fun _ => rfl, fun _ => rfl⟩)))
  intro _
  apply Protocol.Valid.bind _ (valid_pairSteps does_beside_pairs)
  intro generation
  apply Protocol.Valid.bind _
    (valid_pairSteps (same_pairs
      (Script.does_selectRowForUpdate fun _ _ => ⟨fun _ => rfl, fun _ => rfl⟩)))
  intro state
  split
  · exact valid_pairSteps does_commit_pairs
  · exact valid_acceptObservation_pairs

end

/-! ## Whole runs -/

theorem pairProtocol_follows (digests : Digests) (deployed : Settings → Prop)
    (allowed : Actor → Label → Host → Input → Prop) :
    pairProtocol.Follows (hostSystem digests deployed) allowed where
  restingStable _ := stable_complete
  operations actor program operation := by
    rcases BystanderStep.does_operation operation with does | ⟨number, observation, rfl, rfl⟩
    · exact valid_pairSteps (does.mono fun _ _ => .of_bystander)
    · exact valid_ingestObservation_pairs
  crashes actor host invariant := by
    have step : PairsDropped actor host (host.crash actor) := ⟨fun _ => rfl, fun _ => rfl⟩
    rcases step.kept invariant with ⟨kept, guarantees⟩
    exact ⟨kept, guarantees, step.complete⟩
  environments before after invariant passes := by
    rcases passes with ⟨elapsed, rfl⟩
    have same : SamePairs before { before with clock := before.clock + elapsed } :=
      ⟨fun _ => rfl, fun _ => rfl⟩
    exact ⟨same.invariant invariant, fun actor => ⟨fun _ _ _ _ => Iff.rfl, fun _ _ _ _ => Iff.rfl⟩⟩

/-- A host whose events and notification rows are paired, with no transaction open. -/
structure Paired (host : Host) : Prop where
  events : ∀ pair, (host.events.cell pair).held = none
  rows : ∀ id, (host.notification id).held = none
  stored : ∀ pair, (host.events.cell pair).base.isSome = true ↔
    ∃ id row, (host.notification id).base = some row ∧ row.pair = pair
  unique : ∀ id id' row row', (host.notification id).base = some row →
    (host.notification id').base = some row' → row'.pair = row.pair → id' = id

theorem Paired.invariant {host : Host} (paired : Paired host) : PairInvariant host where
  rows id := .of_unheld (paired.rows id)
  events pair tx time held := by
    rw [paired.events pair] at held
    cases held
  unique id id' row row' version version' same := by
    rcases version with stored | ⟨_, held⟩
    · rcases version' with stored' | ⟨_, held⟩
      · exact paired.unique id id' row row' stored stored' same
      · rw [paired.rows id'] at held
        cases held
    · rw [paired.rows id] at held
      cases held
  created id tx row _ held := by
    rw [paired.rows id] at held
    cases held
  stored := paired.stored

theorem Paired.complete {host : Host} (paired : Paired host) (actor : Actor) :
    Complete actor host := by
  intro pair tx time _ held
  rw [paired.events pair] at held
  cases held

/-- In every run a subscription has been matched with an event key exactly when there is
one notification row of the pair, and no pair has two. -/
theorem notified_once {digests : Digests} {deployed : Settings → Prop}
    {allowed : Actor → Label → Host → Input → Prop} {host : Host}
    {config : Config Host Input Label Actor} (paired : Paired host)
    (reachable : (hostSystem digests deployed).Reachable allowed (System.idle host) config)
    (pair : String × String) :
    ((config.shared.events.cell pair).base.isSome = true ↔
      ∃! id, ∃ row, (config.shared.notification id).base = some row ∧ row.pair = pair) ∧
    ∀ id id' row row', (config.shared.notification id).base = some row →
      (config.shared.notification id').base = some row' → row.pair = pair → row'.pair = pair →
      id' = id := by
  have invariant := (pairProtocol_follows digests deployed allowed).invariant_of_reachable
    paired.invariant paired.complete reachable
  have unique : ∀ id id' row row', (config.shared.notification id).base = some row →
      (config.shared.notification id').base = some row' → row.pair = pair → row'.pair = pair →
      id' = id :=
    fun id id' row row' stored stored' same same' =>
      invariant.unique id id' row row' (.inl stored) (.inl stored') (same'.trans same.symm)
  refine ⟨?_, unique⟩
  rw [invariant.stored pair]
  constructor
  · rintro ⟨id, row, stored, same⟩
    refine ⟨id, ⟨row, stored, same⟩, ?_⟩
    rintro other ⟨row', stored', same'⟩
    exact unique id other row row' stored stored' same same'
  · exact fun only => only.exists

/-! ## A slot that two scopes show -/

/-- A host with one subscription of one venue. -/
def subscribedHost : Host :=
  { Host.fresh 0 with
    subscriptions := .singleton "subscription"
      ⟨"reader", ["venue"], 480, 720, 127, 30, "term", false, none, 100, true, 0, 0⟩
    subscriptionVenues := .singleton ("subscription", "venue") () }

theorem subscribedHost_paired : Paired subscribedHost where
  events _ := rfl
  rows _ := rfl
  stored pair := by
    constructor
    · intro impossible
      cases impossible
    · rintro ⟨id, row, impossible, _⟩
      cases impossible
  unique id id' row row' impossible := by
    cases impossible

/-- The slot as one scope of the venue shows it. -/
def shownBy (scope : String) : Observation :=
  ⟨"venue", "Venue", scope, true, 10, none, [⟨20759, "Court", 540, 600⟩]⟩

/-- Both scopes are ingested; the first one matches the slot. -/
def twoScopes : List (Move Host Input Label Actor) :=
  .start (.request 1) (ingestObservation (.request 1) plainDigests (shownBy "first")) ::
    (System.acts (.request 1) .none 14 ++ .act (.request 1) (.fresh "row") ::
      (System.acts (.request 1) .none 4 ++
        .start (.request 2) (ingestObservation (.request 2) plainDigests (shownBy "second")) ::
          System.acts (.request 2) .none 17))

theorem legal_twoScopes :
    ∀ move ∈ twoScopes, (hostSystem plainDigests anySettings).Legal move := by
  simp only [twoScopes, List.forall_mem_append, List.forall_mem_cons]
  exact ⟨.ingest 1 _, System.legal_acts, trivial, System.legal_acts, .ingest 2 _,
    System.legal_acts⟩

set_option maxRecDepth 2000 in
/-- The slot is notified once. -/
theorem twoScopes_notifiedOnce : ∃ config : Config Host Input Label Actor,
    (hostSystem plainDigests anySettings).Reachable System.anyAction
      (System.idle subscribedHost) config ∧
    (.ingested (shownBy "second") ∈ config.shared.log) ∧
    ∃! id, ∃ row, (config.shared.notification id).base = some row ∧
      row.pair = ("subscription", "venue|2026-11-02|Court|09:00|10:00") := by
  have replayed : ((hostSystem plainDigests anySettings).replay System.anyAction
      (System.idle subscribedHost) twoScopes).any (fun config =>
        decide (.ingested (shownBy "second") ∈ config.shared.log) &&
          (config.shared.events.cell
            ("subscription", "venue|2026-11-02|Court|09:00|10:00")).base.isSome) = true := by
    decide
  rcases System.exists_reachable_of_replay legal_twoScopes replayed with
    ⟨config, reachable, both⟩
  rw [Bool.and_eq_true, decide_eq_true_eq] at both
  exact ⟨config, reachable, both.1,
    (notified_once subscribedHost_paired reachable _).1.mp both.2⟩

end TennisAlerts.HostCore
