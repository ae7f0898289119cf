import TennisAlerts.Properties.PostProtocol

/-!
# What the consumer knows

A consumer that has the session lock knows the rows it reads and the posts of the
history, whatever the other processes do.  Its own steps on other tables keep what it
knows; an update of the queue changes the rows it names.
-/

namespace TennisAlerts.HostCore

open TennisAlerts.Concurrent TennisAlerts.Database

/-! ## Processes beside the queue -/

namespace AsideQueue

open Script

variable {actor : Actor} {before after : Host}

theorem idle (host : Host) : AsideQueue actor host host :=
  .still rfl rfl le_rfl .same fun _ member => member

theorem lock {tx : Tx} (own : tx.actor = actor) {key : LockKey} {mode : LockMode}
    (free : before.mayLock tx key mode = true) :
    AsideQueue actor before { before with locks := ⟨key, mode, tx⟩ :: before.locks } := by
  have change : LockChange actor before.locks (⟨key, mode, tx⟩ :: before.locks) :=
    .take ⟨key, mode, tx⟩ own (Host.mayLock_iff.mp free)
  exact .still rfl rfl le_rfl change fun _ member => List.mem_cons_of_mem _ member

theorem ended (tx : Tx) (own : tx.actor = actor) (brief : ∀ other, tx ≠ .session other) :
    AsideQueue actor before (before.commit tx) :=
  .commit tx own brief rfl le_rfl

theorem endedWith (tx : Tx) (own : tx.actor = actor) (brief : ∀ other, tx ≠ .session other)
    {event : Event} (quiet : event.isPost = false) :
    AsideQueue actor before ((before.commit tx).record event) :=
  .commit tx own brief (postHistory_quiet quiet) (Nat.le_succ _)

theorem recorded {event : Event} (quiet : event.isPost = false) :
    AsideQueue actor before (before.record event) :=
  .still rfl (postHistory_quiet quiet) (Nat.le_succ _) .same fun _ member => member

/-! ### The other scripts -/

theorem of_background (step : BackgroundStep actor before after) :
    AsideQueue actor before after := by
  cases step with
  | idle => exact idle before
  | lock key mode free unfenced => exact lock rfl free
  | commit => exact ended (.work actor) rfl (by simp)
  | redeemed email => exact endedWith (.work actor) rfl (by simp) rfl
  | _ => exact .still rfl rfl le_rfl .same fun _ member => member

theorem of_fence (step : FenceStep actor before after) : AsideQueue actor before after := by
  cases step with
  | background step => exact of_background step
  | lock free => exact lock rfl free
  | commit event fence =>
      apply endedWith (.work actor) rfl (by simp)
      cases event <;> first | rfl | cases fence
  | _ => exact .still rfl rfl le_rfl .same fun _ member => member

theorem of_ingest (step : IngestStep actor before after) : AsideQueue actor before after := by
  cases step with
  | background step => exact of_background step
  | commit observation => exact endedWith (.work actor) rfl (by simp) rfl
  | _ => exact .still rfl rfl le_rfl .same fun _ member => member

theorem of_worker {worker : String} (step : WorkerStep worker before after) :
    AsideQueue (.worker worker) before after := by
  cases step with
  | background step => exact of_background step
  | reserved claimId claim => exact endedWith (.work (.worker worker)) rfl (by simp) rfl
  | _ => exact .still rfl rfl le_rfl .same fun _ member => member

theorem coversSends (worker : String) : CoversSends worker (AsideQueue (.worker worker)) where
  workerStep _ _ := of_worker
  guard _ free := lock rfl free
  unguard _ := ended (.guard (.worker worker)) rfl (by simp)
  dispatched _ _ _ := endedWith (.work (.worker worker)) rfl (by simp) rfl
  called _ event call := by
    apply recorded
    cases event <;> first | rfl | cases call

/-- The operations beside the queue. -/
theorem does_operation {digests : Digests} {deployed : Settings → Prop} {script : Script Unit}
    (operation : HostOperation digests deployed actor script) :
    (Does (AsideQueue actor) script ∧ ∀ worker, actor ≠ .wechat worker) ∨
      (∃ number input, actor = .request number ∧ script = enqueue actor digests input) ∨
      ∃ worker rounds, actor = .wechat worker ∧ script = consumer digests worker rounds := by
  cases operation with
  | cycle worker settings configured =>
      exact .inl ⟨(coversSends worker).does_runCycle, by simp⟩
  | recovery worker =>
      exact .inl ⟨BackgroundStep.does_releaseExpiredLeases.mono fun _ _ => of_background,
        by simp⟩
  | upkeep worker =>
      exact .inl ⟨BackgroundStep.does_maintenance.mono fun _ _ => of_background, by simp⟩
  | cancel number subscriptionId email =>
      exact .inl ⟨FenceStep.does_cancelSubscription.mono fun _ _ => of_fence, by simp⟩
  | preference number email action dates =>
      exact .inl ⟨FenceStep.does_updateNotificationPauses.mono fun _ _ => of_fence, by simp⟩
  | switch number enabled commitId =>
      exact .inl ⟨FenceStep.does_setDeliveryEnabled.mono fun _ _ => of_fence, by simp⟩
  | subscribe number email input dedupeKey limits =>
      exact .inl ⟨BackgroundStep.does_createSubscription.mono fun _ _ => of_background, by simp⟩
  | redeem number email =>
      exact .inl ⟨BackgroundStep.does_redeemPriority.mono fun _ _ => of_background, by simp⟩
  | verify number email code =>
      exact .inl ⟨IngestStep.does_queueVerification.mono fun _ _ => of_ingest, by simp⟩
  | enqueue number input => exact .inr (.inl ⟨number, input, rfl, rfl⟩)
  | consume worker rounds => exact .inr (.inr ⟨worker, rounds, rfl, rfl⟩)
  | ingest number observation =>
      exact .inl ⟨IngestStep.does_ingestObservation.mono fun _ _ => of_ingest, by simp⟩

/-! ### Parts of the queue's scripts -/

theorem does_activeSubscriptionForVenue {venueId : String} :
    Does (AsideQueue actor) (activeSubscriptionForVenue actor venueId) := by
  apply does_ite
  · intro _
    apply Does.bind (does_observe idle)
    intro now
    apply Does.bind (does_observe idle)
    intro found
    apply Does.bind (does_commit fun _ => ended _ rfl (by simp))
    exact fun _ => does_pure _
  · exact fun _ => does_pure _

theorem does_startCooldown {worker : String} {digests : Digests} {row : WechatRow}
    {merge : Option Int → Int} :
    Does (AsideQueue (.wechat worker)) (startCooldown worker digests row merge) := by
  unfold startCooldown
  split
  · exact does_pure _
  · apply Does.bind
    · exact does_upsert fun _ _ => .still rfl rfl le_rfl .same fun _ member => member
    · exact fun _ => does_pure _

theorem does_wechatEnabled {worker : String} :
    Does (AsideQueue (.wechat worker)) (wechatEnabled worker) := by
  apply Does.bind (does_observe idle)
  intro control
  cases control with
  | none => exact does_raise
  | some control =>
      apply Does.bind (does_commit fun _ => ended _ rfl (by simp))
      exact fun _ => does_pure _

end AsideQueue

/-! ## Knowledge of the consumer -/

section

variable {digests : Digests} {allowed : Actor → Label → Host → Input → Prop} {worker : String}
  {before after host : Host} {id : String}

/-- The consumer has the session lock and reads a row with the property. -/
def Sees (worker id : String) (property : List Event → WechatRow → Prop) (host : Host) : Prop :=
  Consuming worker host ∧ ∃ row,
    (host.wechat.cell id).view (.work (.wechat worker)) = some row ∧
      property (postHistory host.log) row

/-- Neither the other processes nor steps beside the queue break the assertion. -/
structure Attentive (digests : Digests) (worker : String) (assertion : Host → Prop) : Prop where
  stable : (postProtocol digests).Stable (.wechat worker) assertion
  aside : ∀ before after, PostInvariant digests before →
    AsideQueue (.wechat worker) before after → assertion before → assertion after

theorem Attentive.and {first second : Host → Prop} (left : Attentive digests worker first)
    (right : Attentive digests worker second) :
    Attentive digests worker fun host => first host ∧ second host := by
  constructor
  · exact left.stable.and right.stable
  · rintro before after invariant step ⟨holds, also⟩
    exact ⟨left.aside before after invariant step holds,
      right.aside before after invariant step also⟩

theorem attentive_forall {α : Type} {items : List α} {assertion : α → Host → Prop}
    (each : ∀ item, Attentive digests worker (assertion item)) :
    Attentive digests worker fun host => ∀ item ∈ items, assertion item host := by
  constructor
  · intro before after invariant kept relied holds item member
    exact (each item).stable invariant kept relied (holds item member)
  · intro before after invariant step holds item member
    exact (each item).aside before after invariant step (holds item member)

theorem attentive_consuming : Attentive digests worker (Consuming worker) := by
  constructor
  · intro before after _ _ relied alone
    exact (relied.locks _ rfl).mpr alone
  · intro before after _ step alone
    cases step with
    | still queue posts longer locks kept => exact kept _ alone
    | commit tx own brief posts longer =>
        exact List.mem_filter.mpr ⟨alone, by simpa using (brief _).symm⟩

theorem attentive_unwriting : Attentive digests worker (Unwriting worker) := by
  constructor
  · exact stable_unwriting
  · intro before after _ step unwriting id row held
    cases step with
    | still queue posts longer locks kept =>
        rw [queue] at held
        exact unwriting id row held
    | commit tx own brief posts longer => exact unwriting id row (Cell.held_commit held)

/-- A transaction reads the same after its commit. -/
theorem view_commit {ρ : Type} (cell : Cell Tx ρ) (tx : Tx) :
    (cell.commit tx).view tx = cell.view tx := by
  have unheld : ∀ row, (cell.commit tx).held ≠ some (tx, row) :=
    fun row held => (commit_of_held_foreign held).2 rfl
  rw [view_eq_base unheld, Cell.base_commit_eq_view]

theorem PostInvariant.view_commit_own (invariant : PostInvariant digests host) {tx : Tx}
    (own : tx.actor = .wechat worker) :
    ((host.wechat.cell id).commit tx).view (.work (.wechat worker)) =
      (host.wechat.cell id).view (.work (.wechat worker)) := by
  by_cases same : tx = .work (.wechat worker)
  · rw [same, view_commit]
  · have unheld : ∀ row, (host.wechat.cell id).held ≠ some (tx, row) := by
      intro row held
      rcases invariant.writers id tx row held with ⟨_, writer⟩
      cases writer with
      | inserting number missing => cases own
      | consuming other stored alone =>
          cases own
          exact same rfl
    rw [commit_eq_self unheld]

theorem attentive_sees {property : List Event → WechatRow → Prop} :
    Attentive digests worker (Sees worker id property) := by
  constructor
  · rintro before after invariant kept relied ⟨alone, row, seen, holds⟩
    have stored := invariant.stored_of_view seen
    refine ⟨attentive_consuming.stable invariant kept relied alone, row, ?_, ?_⟩
    · rw [relied.rows worker rfl alone id stored]
      exact seen
    · rw [relied.posts worker rfl alone]
      exact holds
  · rintro before after invariant step ⟨alone, row, seen, holds⟩
    refine ⟨attentive_consuming.aside before after invariant step alone, row, ?_, ?_⟩
    · cases step with
      | still queue posts longer locks kept =>
          rw [queue]
          exact seen
      | commit tx own brief posts longer => exact (invariant.view_commit_own own).trans seen
    · cases step with
      | still queue posts longer locks kept =>
          rw [posts]
          exact holds
      | commit tx own brief posts longer =>
          rw [posts]
          exact holds

/-- The entry is in the history of the consumer. -/
def Noted (worker : String) (event : Event) (host : Host) : Prop :=
  Consuming worker host ∧ event ∈ postHistory host.log

theorem Sees.mono {property weaker : List Event → WechatRow → Prop}
    (sees : Sees worker id property host)
    (implied : ∀ row, property (postHistory host.log) row → weaker (postHistory host.log) row) :
    Sees worker id weaker host := by
  rcases sees with ⟨alone, row, seen, holds⟩
  exact ⟨alone, row, seen, implied row holds⟩

/-! ## Rules -/

theorem valid_asideQueue {α : Type} {script : Script α} {assertion : Host → Prop}
    (attentive : Attentive digests worker assertion)
    (does : Script.Does (AsideQueue (.wechat worker)) script) :
    (postProtocol digests).Valid allowed (.wechat worker) assertion script
      fun _ => assertion := by
  apply does.valid attentive.stable
  intro before after invariant holds step
  rcases step.kept invariant with ⟨kept, guarantees⟩
  exact ⟨kept, guarantees, attentive.aside before after invariant step holds⟩

/-- The end of a transaction on the queue. -/
theorem valid_workCommit {assertion : Host → Prop}
    (attentive : Attentive digests worker assertion) :
    (postProtocol digests).Valid allowed (.wechat worker) assertion
      (Script.commit (.work (.wechat worker)))
      fun _ host => assertion host ∧ Unwriting worker host := by
  apply Protocol.valid_act (fun _ _ host => assertion host ∧ Unwriting worker host)
    attentive.stable
  · rintro before input after invariant holds _ ⟨⟩
    have step : AsideQueue (.wechat worker) before (before.commit (.work (.wechat worker))) :=
      .ended _ rfl (by simp)
    rcases step.kept invariant with ⟨kept, guarantees⟩
    refine ⟨kept, guarantees, attentive.aside before _ invariant step holds, ?_⟩
    exact fun id row held => (commit_of_held_foreign held).2 rfl
  · exact fun _ _ => Protocol.valid_ret fun _ _ holds => holds

/-- The rows after an update of the queue. -/
theorem Sees.update {property later : List Event → WechatRow → Prop}
    {statement : String → WechatRow → Option WechatRow} (sees : Sees worker id property host)
    (changes : ∀ row, property (postHistory host.log) row →
      later (postHistory host.log) ((statement id row).getD row)) :
    Sees worker id later (TableRef.wechat.put (host.wechat.write (.work (.wechat worker))
      fun id row => (statement id row).map some) host) := by
  rcases sees with ⟨alone, row, seen, holds⟩
  refine ⟨alone, (statement id row).getD row, ?_, changes row holds⟩
  change ((host.wechat.write _ _).cell id).view _ = _
  rw [VersionedTable.view_write, seen, Option.bind_some]
  cases statement id row <;> rfl

theorem valid_update {statement : Snapshot → String → WechatRow → Option WechatRow}
    {pre post : Host → Prop} (stable : (postProtocol digests).Stable (.wechat worker) pre)
    (alone : ∀ host, pre host → Consuming worker host)
    (sound : ∀ host id row new, PostInvariant digests host → pre host →
      (host.wechat.cell id).view (.work (.wechat worker)) = some row →
      statement (host.view (.work (.wechat worker))) id row = some new →
      Permits digests (postHistory host.log) id new.status new)
    (reached : ∀ host, PostInvariant digests host → pre host →
      post (TableRef.wechat.put (host.wechat.write (.work (.wechat worker))
        fun id row => (statement (host.view (.work (.wechat worker))) id row).map some) host)) :
    (postProtocol digests).Valid allowed (.wechat worker) pre
      (Script.update .wechat (.work (.wechat worker)) statement) fun _ => post := by
  apply Protocol.valid_act (fun _ _ => post) stable
  · intro before input after invariant holds _ executed
    rcases Script.execute_eq_some executed with ⟨writable, rfl⟩
    rcases invariant.update (alone before holds) writable
      (fun id row new seen written => sound before id row new invariant holds seen written) with
      ⟨kept, guarantees⟩
    exact ⟨kept, guarantees, reached before invariant holds⟩
  · exact fun _ _ => Protocol.valid_ret fun _ _ holds => holds

/-- The rows that the consumer locks it sees as they were read. -/
theorem valid_lockQueue {order : WechatRow → Int} {condition : Snapshot → WechatRow → Bool}
    {limit : Nat} (chosen : WechatRow → Prop)
    (selected : ∀ snapshot row, condition snapshot row = true → chosen row) :
    (postProtocol digests).Valid allowed (.wechat worker) (Consuming worker)
      (Script.selectForUpdate .wechat (.work (.wechat worker)) order condition limit)
      fun entries host => (Consuming worker host ∧
        ∀ entry ∈ entries, Sees worker entry.1 (fun _ row => row = entry.2) host) ∧
        ∀ entry ∈ entries, chosen entry.2 := by
  apply Protocol.valid_act (fun before _ host =>
    let entries := Script.lockable .wechat (.work (.wechat worker)) order condition limit before
    (Consuming worker host ∧
      ∀ entry ∈ entries, Sees worker entry.1 (fun _ row => row = entry.2) host) ∧
      ∀ entry ∈ entries, chosen entry.2) attentive_consuming.stable
  · intro before input after invariant alone _ executed
    rcases Script.execute_eq_some executed with ⟨writable, rfl⟩
    rw [lockKeys_eq] at writable ⊢
    have kept := invariant.update alone writable fun id row new seen locked => by
      rw [eq_of_lockKeys locked]
      exact invariant.sound id row (Cell.version_of_view seen)
    refine ⟨kept.1, kept.2, ⟨alone, ?_⟩, ?_⟩
    · intro entry member
      have sees : Sees worker entry.1 (fun _ row => row = entry.2) before :=
        ⟨alone, entry.2, (mem_lockable member).1, rfl⟩
      apply sees.update
      rintro row rfl
      cases locked : lockKeys _ entry.1 entry.2 with
      | none => rfl
      | some new => exact eq_of_lockKeys locked
    · exact fun entry member => selected _ _ (mem_lockable member).2
  · exact fun _ _ => Protocol.valid_ret fun _ _ holds => holds

/-- The consumer adds an entry to the history. -/
theorem valid_entry {α : Type} {label : Label} {action : Host → Input → Option Host}
    {value : Host → Input → α} {pre : Host → Prop} {post : α → Host → Prop}
    (stable : (postProtocol digests).Stable (.wechat worker) pre)
    (enters : ∀ before input after, PostInvariant digests before → pre before →
      action before input = some after →
      ∃ event, after = before.record event ∧ PostEntry digests worker event before ∧
        post (value before input) after) :
    (postProtocol digests).Valid allowed (.wechat worker) pre
      (.act label action fun host input => .ret (value host input) : Script α) post := by
  apply Protocol.valid_act (fun before input => post (value before input)) stable
  · intro before input after invariant holds _ acted
    rcases enters before input after invariant holds acted with ⟨event, rfl, entry, reached⟩
    rcases entry.kept invariant with ⟨kept, guarantees⟩
    exact ⟨kept, guarantees, reached⟩
  · exact fun _ _ => Protocol.valid_ret fun _ _ holds => holds

end

end TennisAlerts.HostCore
