import TennisAlerts.HostCore.Migration

/-!
# The migration fence

Delivery is enabled only behind an import whose proof matched, and the first
activation closes the door to imports.  The import holds the row of
`runtime_control` from its check to its commit, so that an activation commits before
the check or after the import.
-/

namespace TennisAlerts.HostCore.Migration

open TennisAlerts.Database TennisAlerts.Concurrent Discipline

/-! ## The property -/

/-- Source and target match in every exported table, and the proof says so. -/
def Matched (snapshot : SourceSnapshot) (destination : ExportTable → List (List String))
    (proof : Reconciliation) : Prop :=
  proof.providerIdentityPreserved = true ∧ ∀ table,
    (∀ key ∈ sourceKeys snapshot table, key ∈ destination table) ∧
    ∃ entry, proof.tables table = some entry ∧
      entry.sourceCount = (sourceKeys snapshot table).length ∧
      entry.matchedCount = (sourceKeys snapshot table).length

/-- Some import with a matching proof has committed. -/
def ImportMatched (log : List Event) : Prop :=
  ∃ snapshot destination proof, .imported snapshot destination proof ∈ log ∧
    Matched snapshot destination proof

/-- The instant of the first activation. -/
def firstActivation : List Event → Option Int
  | [] => none
  | .activated now :: older => (firstActivation older).or (some now)
  | .imported _ _ _ :: older => firstActivation older

/-- No import has committed behind an activation. -/
def ImportsFirst : List Event → Prop
  | [] => True
  | .activated _ :: older => ImportsFirst older
  | .imported _ _ _ :: older => firstActivation older = none ∧ ImportsFirst older

/-- What a commit may do to the control row. -/
structure FenceStep (rows : Rows migration) (log : List Event) (later : Rows migration)
    (laterLog : List Event) : Prop where
  grows : log <:+ laterLog
  kept : ∀ control : ControlRow, rows .control () = some control → control.activatedAt ≠ none →
    ∃ new : ControlRow, later .control () = some new ∧ new.activatedAt = control.activatedAt
  enabled : ∀ new : ControlRow, later .control () = some new → new.deliveryEnabled = true →
    rows .control () = some new ∨ ∃ now, laterLog = .activated now :: log
  activated : ∀ now, laterLog = .activated now :: log →
    ∃ control new : ControlRow, rows .control () = some control ∧
      later .control () = some new ∧ new.deliveryEnabled = true ∧
      new.activatedAt = control.activatedAt.or (some now)
  /-- An import finds the delivery never activated and stores its proof. -/
  imported : ∀ snapshot destination proof,
    laterLog = .imported snapshot destination proof :: log →
    (∃ control : ControlRow, rows .control () = some control ∧ control.activatedAt = none ∧
      control.deliveryEnabled = false) ∧
    ∃ row : MigrationRow, later .state source = some row ∧ row.details.reconciliation = proof

/-! ## The discipline -/

structure FenceInvariant (rows : Rows migration) (log : List Event) : Prop where
  control : ∃ control : ControlRow, rows .control () = some control ∧
    control.activatedAt = firstActivation log ∧
    (control.deliveryEnabled = true → control.activatedAt ≠ none)
  stored : ∀ row : MigrationRow, rows .state source = some row → ImportMatched log
  activated : firstActivation log ≠ none → ImportMatched log
  order : ImportsFirst log

theorem ne_cons_self {log : List Event} {event : Event} : log ≠ event :: log := by
  intro same
  exact absurd (congrArg List.length same) (by simp)

theorem FenceStep.refl (rows : Rows migration) (log : List Event) :
    FenceStep rows log rows log where
  grows := List.suffix_refl log
  kept control found _ := ⟨control, found, rfl⟩
  enabled _ found _ := Or.inl found
  activated _ same := absurd same ne_cons_self
  imported _ _ _ same := absurd same ne_cons_self

def fenceDiscipline : Discipline migration LockKey Event where
  holds := FenceInvariant
  allows _ := FenceStep
  still _ rows log := FenceStep.refl rows log

theorem ImportMatched.mono {log later : List Event} (matched : ImportMatched log)
    (grows : log <:+ later) : ImportMatched later := by
  obtain ⟨snapshot, destination, proof, member, matched⟩ := matched
  exact ⟨snapshot, destination, proof, grows.mem member, matched⟩

/-! ## Activation -/

section

variable {tx : Nat} {writes : WriteSet migration} {locks : List LockKey}

theorem steady_matched (condition : Prop) :
    Steady fenceDiscipline writes locks fun _ log => condition → ImportMatched log :=
  fun _ _ _ _ _ _ _ _ _ allowed fact holds => (fact holds).mono allowed.grows

/-- The control row that the transaction has locked. -/
theorem steady_control {control : ControlRow} (locked : writes .control () ≠ none) :
    Steady fenceDiscipline writes locks fun rows _ => rows .control () = some control := by
  obtain ⟨version, written⟩ := Option.ne_none_iff_exists'.mp locked
  exact @steady_row migration LockKey Event _ writes locks .control () version written
    (· = some control)

/-- The control row after a switch. -/
theorem FenceInvariant.switch {rows : Rows migration} {log : List Event} {control : ControlRow}
    (invariant : FenceInvariant rows log) (found : rows .control () = some control)
    {enabled : Bool} {deploymentCommit : String} {now : Int}
    (matched : enabled = true → ImportMatched log) {later : Rows migration}
    (switched : later .control () = some (switchDelivery enabled deploymentCommit now control))
    (state : later .state = rows .state) :
    FenceInvariant later ((if enabled then [.activated now] else []) ++ log) ∧
      FenceStep rows log later ((if enabled then [.activated now] else []) ++ log) := by
  obtain ⟨⟨control', found', first, activated⟩, stored, imported, order⟩ := invariant
  rw [found] at found'
  cases found'
  cases enabled with
  | true =>
      refine ⟨⟨⟨_, switched, ?_, ?_⟩, ?_, ?_, order⟩, ⟨List.suffix_append _ _, ?_, ?_, ?_, ?_⟩⟩
      · simp [switchDelivery, firstActivation, first]
      · simp [switchDelivery]
      · intro row _
        exact (matched rfl).mono (List.suffix_append _ _)
      · intro _
        exact (matched rfl).mono (List.suffix_append _ _)
      · intro before found' active
        rw [found] at found'
        cases found'
        refine ⟨_, switched, ?_⟩
        obtain ⟨instant, at_⟩ := Option.ne_none_iff_exists'.mp active
        simp [switchDelivery, at_]
      · intro new _ _
        exact Or.inr ⟨now, rfl⟩
      · intro instant same
        cases same
        exact ⟨control, _, found, switched, rfl, rfl⟩
      · intro snapshot destination proof same
        cases same
  | false =>
      refine ⟨⟨⟨_, switched, first, ?_⟩, ?_, imported, order⟩, ⟨List.suffix_refl _, ?_, ?_, ?_, ?_⟩⟩
      · simp [switchDelivery]
      · intro row present
        rw [state] at present
        exact stored row present
      · intro before found' _
        rw [found] at found'
        cases found'
        exact ⟨_, switched, rfl⟩
      · intro new present active
        rw [switched] at present
        cases present
        cases active
      · intro instant same
        exact absurd same ne_cons_self
      · intro snapshot destination proof same
        exact absurd same ne_cons_self

theorem updateControl_runs (enabled : Bool) (deploymentCommit : String) (now : Int) :
    fenceDiscipline.Runs tx
      (Holding tx WriteSet.empty locks fun _ log => enabled = true → ImportMatched log)
      (updateControl tx enabled deploymentCommit now) := by
  refine runs_changeRow (fun control rows log => (enabled = true → ImportMatched log) ∧
    rows .control () = some control) (steady_matched _)
    (fun _ _ _ _ fact seen => ⟨fact, seen⟩) ?_ ?_
  · intro control new becomes
    cases becomes
    have switched : ∀ rows : Rows migration, ((WriteSet.empty : WriteSet migration).put .control ()
        (switchDelivery enabled deploymentCommit now control)).apply rows .control () =
        some (switchDelivery enabled deploymentCommit now control) :=
      fun rows => WriteSet.apply_put_self _ _ _ _ _
    have state : ∀ rows : Rows migration, ((WriteSet.empty : WriteSet migration).put .control ()
        (switchDelivery enabled deploymentCommit now control)).apply rows .state = rows .state := by
      intro rows
      rw [WriteSet.apply_put_of_table_ne (by simp), WriteSet.apply_empty]
    refine runs_commit ((steady_matched _).and (steady_control (by simp))) ?_ ?_
    · rintro rows log invariant ⟨matched, found⟩
      exact (FenceInvariant.switch invariant found matched (switched rows) (state rows)).1
    · rintro rows log invariant ⟨matched, found⟩ held _
      exact (FenceInvariant.switch invariant found matched (switched rows) (state rows)).2
  · intro server invariant holding
    obtain ⟨control, found, _⟩ := invariant.2.control
    have missing := holding.fact.2
    rw [WriteSet.apply_empty, found] at missing
    cases missing

theorem setDeliveryEnabled_runs (enabled : Bool) (deploymentCommit : String) :
    fenceDiscipline.Runs tx (fenceDiscipline.protocol.resting tx)
      (setDeliveryEnabled tx enabled deploymentCommit) := by
  refine runs_of_resting (runs_utcNow steady_true.stable fun now => runs_lock steady_true ?_)
  split
  · refine runs_select (fun verified _ log => verified = true → ImportMatched log) steady_true ?_
      fun verified => ?_
    · intro server invariant holding verified
      simp only [verifiedImport, Option.any_eq_true_iff_get, Option.isSome_iff_exists] at verified
      obtain ⟨⟨row, kept⟩, _⟩ := verified
      have present := (Option.filter_eq_some_iff.mp kept).1
      rw [Server.row_view, holding.writes, WriteSet.apply_empty] at present
      exact invariant.2.stored row present
    · unfold ServerScript.require
      cases verified with
      | true => exact runs_weaken (fun _ _ _ fact _ => fact rfl) (updateControl_runs _ _ now)
      | false => exact runs_rollback (steady_matched _).stable
  · rename_i disabled
    exact runs_weaken (fun _ _ _ _ enabling => absurd enabling disabled)
      (updateControl_runs _ _ now)

/-! ## Import -/

/-- What an import has done before it stores its proof: it holds the control row as
it read it, and it has not written its state. -/
structure Importing (writes : WriteSet migration) (control : ControlRow) : Prop where
  control : writes .control () = some (some control)
  state : writes .state source = none

theorem Importing.put {control : ControlRow} (importing : Importing writes control)
    (key : ExportTable × List String) (row : ExportedRow) :
    Importing (writes.put .exported key row) control := by
  constructor
  · rw [WriteSet.put_of_table_ne (by simp)]
    exact importing.control
  · rw [WriteSet.put_of_table_ne (by simp)]
    exact importing.state

theorem Importing.steady {control : ControlRow} (importing : Importing writes control) :
    Steady fenceDiscipline writes locks fun rows _ => rows .control () = some control :=
  steady_control (by simp [importing.control])

theorem writeBatch_runs {control : ControlRow} {rest : MigrationScript Unit}
    (continues : ∀ later, Importing later control → fenceDiscipline.Runs tx
      (Holding tx later locks fun rows _ => rows .control () = some control) rest)
    (batch : List ((ExportTable × List String) × ExportedRow)) :
    ∀ writes, Importing writes control → fenceDiscipline.Runs tx
      (Holding tx writes locks fun rows _ => rows .control () = some control)
      (writeBatch tx batch rest) := by
  induction batch with
  | nil =>
      intro writes importing
      exact continues writes importing
  | cons entry batch ih =>
      intro writes importing
      exact runs_upsert importing.steady fun _ => ih _ (importing.put entry.1 entry.2)

/-- The tables that were reconciled so far. -/
def Reconciled (snapshot : SourceSnapshot) (destination : ExportTable → List (List String))
    (proofs : ExportTable → Option TableProof) (table : ExportTable) : Prop :=
  (∀ key ∈ sourceKeys snapshot table, key ∈ destination table) ∧
    ∃ entry, proofs table = some entry ∧
      entry.sourceCount = (sourceKeys snapshot table).length ∧
      entry.matchedCount = (sourceKeys snapshot table).length

theorem reconcileTables_runs {sha256 : String → String} {snapshot : SourceSnapshot}
    {control : ControlRow} (importing : Importing writes control)
    {rest : (ExportTable → List (List String)) → (ExportTable → Option TableProof) →
      MigrationScript Unit}
    (continues : ∀ destination proofs,
      (∀ table, Reconciled snapshot destination proofs table) → fenceDiscipline.Runs tx
        (Holding tx writes locks fun rows _ => rows .control () = some control)
        (rest destination proofs)) (tables : List ExportTable) :
    ∀ destination proofs,
      (∀ table, table ∈ tables ∨ Reconciled snapshot destination proofs table) →
      fenceDiscipline.Runs tx
        (Holding tx writes locks fun rows _ => rows .control () = some control)
        (reconcileTables sha256 tx snapshot tables destination proofs rest) := by
  induction tables with
  | nil =>
      intro destination proofs done
      exact continues destination proofs fun table => (done table).resolve_left (by simp)
  | cons table tables ih =>
      intro destination proofs done
      refine runs_select (fun _ rows _ => rows .control () = some control) importing.steady
        (fun _ _ holding => holding.fact) fun keys => ?_
      unfold ServerScript.require
      split
      · rename_i present
        apply ih
        intro other
        by_cases mine : other = table
        · subst other
          refine Or.inr ⟨?_, _, Function.update_self _ _ _, rfl, rfl⟩
          intro key member
          rw [Function.update_self]
          simpa using List.all_eq_true.mp present key member
        · rcases done other with member | reconciled
          · exact Or.inl ((List.mem_cons.mp member).resolve_left mine)
          · refine Or.inr ?_
            unfold Reconciled
            rw [Function.update_of_ne mine, Function.update_of_ne mine]
            exact reconciled
      · exact runs_rollback importing.steady.stable

/-- The commit of an import. -/
theorem commit_import_runs {control : ControlRow} {snapshot : SourceSnapshot}
    {destination : ExportTable → List (List String)} {proof : Reconciliation} {row : MigrationRow}
    (matched : Matched snapshot destination proof)
    (unactivated : control.activatedAt = none) (disabled : control.deliveryEnabled = false)
    (held : writes .control () = some (some control))
    (stored : writes .state source = some (some row))
    (proves : row.details.reconciliation = proof) :
    fenceDiscipline.Runs tx
      (Holding tx writes locks fun rows _ => rows .control () = some control)
      (ServerScript.commit tx [.imported snapshot destination proof] : MigrationScript Unit) := by
  have same : ∀ rows : Rows migration, writes.apply rows .control () = some control := by
    intro rows
    simp [WriteSet.apply, held]
  refine runs_commit (steady_control (by simp [held])) ?_ ?_
  · intro rows log invariant found
    obtain ⟨⟨control', found', first, _⟩, _, _, order⟩ := invariant
    rw [found] at found'
    cases found'
    have imported : ImportMatched (.imported snapshot destination proof :: log) :=
      ⟨snapshot, destination, _, List.mem_cons_self, matched⟩
    refine ⟨⟨control, same rows, first, fun enabled => ?_⟩, fun _ _ => imported,
      fun _ => imported, ?_, order⟩
    · rw [disabled] at enabled
      cases enabled
    · exact first.symm.trans unactivated
  · intro rows log invariant found _ _
    refine ⟨List.suffix_append _ _, ?_, ?_, ?_, ?_⟩
    · intro before found' _
      rw [found] at found'
      cases found'
      exact ⟨control, same rows, rfl⟩
    · intro new present _
      rw [same rows] at present
      cases present
      exact Or.inl found
    · intro now impossible
      cases impossible
    · intro other keys proof equal
      cases equal
      exact ⟨⟨control, found, unactivated, disabled⟩, row, by simp [WriteSet.apply, stored], proves⟩

theorem importSnapshot_runs (sha256 : String → String) (snapshot : SourceSnapshot)
    (sourceRevision : String) :
    fenceDiscipline.Runs tx (fenceDiscipline.protocol.resting tx)
      (importSnapshot sha256 tx snapshot sourceRevision) := by
  refine runs_of_resting (runs_utcNow steady_true.stable fun now => runs_lock steady_true ?_)
  refine runs_changeRow (fun control rows _ => rows .control () = some control) steady_true
    (fun _ _ _ _ _ seen => seen) ?_ ?_
  · intro control new locked
    cases locked
    have importing : Importing ((WriteSet.empty : WriteSet migration).put .control () control)
        control := by
      refine ⟨WriteSet.put_self _ _ _ _, ?_⟩
      rw [WriteSet.put_of_table_ne (by simp)]
      rfl
    dsimp only
    unfold ServerScript.require
    split
    · rename_i admitted
      simp only [Bool.and_eq_true, Option.isNone_iff_eq_none, Bool.not_eq_true'] at admitted
      refine runs_await importing.steady.stable fun batch => ?_
      refine writeBatch_runs (fun writes importing => ?_) batch _ importing
      refine reconcileTables_runs importing (fun destination proofs reconciled => ?_) exportTables
        _ _ fun table => Or.inl (mem_exportTables table)
      refine runs_select (fun _ rows _ => rows .control () = some control) importing.steady
        (fun _ _ holding => holding.fact) fun kept => ?_
      unfold ServerScript.require
      split
      · refine runs_upsert importing.steady fun _ => ?_
        refine commit_import_runs ⟨rfl, reconciled⟩ admitted.1 admitted.2 ?_
          (WriteSet.put_self _ _ _ _) rfl
        rw [WriteSet.put_of_table_ne (by simp)]
        exact importing.control
      · exact runs_rollback importing.steady.stable
    · exact runs_rollback importing.steady.stable
  · exact runs_weaken (fun _ _ _ _ => trivial) (runs_rollback steady_true.stable)

end

/-! ## Runs -/

theorem migration_follows (sha256 : String → String) :
    fenceDiscipline.protocol.Follows (migrationSystem sha256) System.anyAction := by
  apply follows
  intro tx script operation
  cases operation with
  | importSnapshot snapshot sourceRevision =>
      exact importSnapshot_runs sha256 snapshot sourceRevision
  | setDeliveryEnabled enabled deploymentCommit =>
      exact setDeliveryEnabled_runs enabled deploymentCommit

/-- Delivery was never enabled and nothing was imported. -/
structure Unmigrated (server : MigrationServer) : Prop where
  atRest : AtRest server
  control : ∃ control : ControlRow, server.base .control () = some control ∧
    control.activatedAt = none ∧ control.deliveryEnabled = false
  state : server.base .state source = none
  log : server.log = []

/-- The digests of the key sets of one run. -/
def sampleSha256 : String → String
  | "[]" => "4f53cda18c2baa0c0354bb5f9a3ecbe5ed12ab4d8e11ba873c2f11161202b945"
  | "[[\"subscription-1\"]]" =>
      "418a148553e965d5dd96b8bd18643b6e49ef563b16af9246506c6839b23f8254"
  | _ => "81d9aa07d229b62be36bf01effa959d3c56677a3b5af34c1a14308c73e06a4dc"

/-- One subscription with a notification that was being sent. -/
def sampleSnapshot : SourceSnapshot
  | .subscriptions => [fun
      | "id" => some (some "subscription-1")
      | _ => none]
  | .notificationOutbox => [fun
      | "subscription_id" => some (some "subscription-1")
      | "event_key" => some (some "event-1")
      | "status" => some (some "processing")
      | "message_id" => some none
      | _ => none]
  | _ => []

/-- The rows that its import writes. -/
def sampleBatch : List ((ExportTable × List String) × ExportedRow) :=
  [((.subscriptions, ["subscription-1"]), ⟨none, ""⟩),
    ((.notificationOutbox, ["subscription-1", "event-1"]), ⟨none, "submission_unknown"⟩)]

/-- A new schema. -/
def preparedServer : MigrationServer where
  clock := 0
  tables
    | .control =>
        { keys := [()]
          cell := fun _ => Cell.committed ⟨false, none, "unknown", "prepared", 0⟩
          complete := by
            intro key missing
            exact absurd List.mem_cons_self missing }
    | .state => VersionedTable.empty
    | .exported => VersionedTable.empty
  locks := []
  log := []

theorem preparedServer_unmigrated : Unmigrated preparedServer where
  atRest := ⟨fun table _ => by cases table <;> rfl, rfl⟩
  control := ⟨_, rfl, rfl, rfl⟩
  state := rfl
  log := rfl

/-- An import, an activation, an import that is refused and a pause. -/
def cutover : List (Move MigrationServer Input Unit Nat) :=
  .start 0 (importSnapshot sampleSha256 0 sampleSnapshot "revision-1") ::
    (System.acts 0 .none 3 ++ .act 0 (.batch sampleBatch) :: (System.acts 0 .none 20 ++
  .environment (fun server => { server with clock := server.clock + (7000000 : Nat) }) ::
  .start 1 (setDeliveryEnabled 1 true "commit-1") :: (System.acts 1 .none 5 ++
  .start 0 (importSnapshot sampleSha256 0 sampleSnapshot "revision-2") ::
    (System.acts 0 .none 4 ++
  .start 1 (setDeliveryEnabled 1 false "commit-1") :: System.acts 1 .none 4))))

theorem legal_cutover : ∀ move ∈ cutover, (migrationSystem sampleSha256).Legal move := by
  simp only [cutover, List.forall_mem_append, List.forall_mem_cons]
  exact ⟨.importSnapshot _ _, System.legal_acts, trivial, System.legal_acts,
    fun server => ⟨7000000, rfl⟩, .setDeliveryEnabled _ _, System.legal_acts,
    .importSnapshot _ _, System.legal_acts, .setDeliveryEnabled _ _, System.legal_acts⟩

/-- Delivery was activated and is paused. -/
def pausedAfterActivation (config : Config MigrationServer Input Unit Nat) : Bool :=
  config.shared.base .control () = some ⟨false, some 7000000, "commit-1", "paused", 7000000⟩ &&
    config.shared.log.length = 2

end TennisAlerts.HostCore.Migration
