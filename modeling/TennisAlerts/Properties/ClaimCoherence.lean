import TennisAlerts.Properties.ClaimProtocol
import TennisAlerts.Properties.SingleSend

/-!
# Claims and rows stay coherent

Every script of the host keeps the claim protocol, provided that the completion
of an accepted call still finds the rows of the call dispatching and leased to
its worker.  The code marks the claim sent without this check.
-/

namespace TennisAlerts.HostCore

open TennisAlerts.Concurrent TennisAlerts.Database

/-- A completion that records an accepted call finds every row of the call in
flight: dispatching, and leased to its worker. -/
def completesInFlight (_ : Actor) (label : Label) (host : Host) (_ : Input) : Prop :=
  match label with
  | .completeUpdate channel worker ids phase => channel = .subscriber → phase = .submitted →
      ∀ id ∈ ids, ((host.notification id).view (.work (.worker worker))).any (fun row =>
        decide (row.leaseOwner = some worker) && decide (row.status = .dispatching)) = true
  | _ => True

instance : ∀ actor label host input, Decidable (completesInFlight actor label host input)
  | _, .completeUpdate _ _ _ _, _, _ => inferInstanceAs (Decidable (_ → _ → ∀ _ ∈ _, _))
  | _, .plain, _, _ | _, .countReserved _ _ _ _, _, _ | _, .beginCall _, _, _
  | _, .outcome _, _, _ | _, .dispatchUpdate _ _ _, _, _ | _, .answer _, _, _
  | _, .evidence _ _, _, _ => isTrue trivial

/-! ## Steps -/

theorem OutboxMove.settled {row new : OutboxRow} (move : OutboxMove row new) {call : Call}
    {messageId : String} (settled : Settled call messageId row) : Settled call messageId new := by
  have reported := settled.reported
  cases move.change with
  | interrupted was =>
      rw [was] at reported
      cases reported
  | stopped was =>
      rw [Status.not_reported_of_open was] at reported
      cases reported
  | restored was =>
      rw [was] at reported
      cases reported
  | reported was is owner claim =>
      constructor
      · exact claim.trans settled.claim
      · exact move.content.messageId.trans settled.message
      · rw [move.content.submittedAt]
        exact settled.submitted
      · exact owner.trans settled.released
      · rcases is with is | is | is | is <;> rw [is] <;> rfl

theorem OutboxMove.rowPut {assigns : String → Prop} {row new : OutboxRow}
    (move : OutboxMove row new) : RowPut assigns (some row) new where
  settled _ _ _ same settled := by
    cases same
    exact move.settled settled
  owner worker owned := by
    refine Or.inr ⟨row, rfl, ?_⟩
    cases move.change with
    | interrupted _ _ released =>
        rw [released] at owned
        cases owned
    | stopped _ _ owner claim =>
        rcases owner with released | same
        · rw [released] at owned
          cases owned
        · exact ⟨same.symm.trans owned, claim.symm⟩
    | restored _ _ released =>
        rw [released] at owned
        cases owned
    | reported _ _ owner claim => exact ⟨owner.symm.trans owned, claim.symm⟩

theorem ClaimMove.claimPut {host : Host} {tx : Tx} {id : String} {claim new : ClaimRow}
    (move : ClaimMove claim new) : ClaimPut host tx id (some claim) new := by
  intro sent
  rcases move.is with is | is <;> rw [is] at sent <;> cases sent

/-- What a step does to claims, for the other processes and for its own. -/
structure ClaimSafe (actor : Actor) (before after : Host) : Prop where
  kept : ClaimKept actor before after
  frame : ∀ worker, ClaimFrame worker before after

section

variable {actor : Actor} {before after : Host}

theorem ClaimStatement.safe (statement : ClaimStatement actor (fun _ => False) before after)
    (invariant : ClaimInvariant before) : ClaimSafe actor before after :=
  ⟨statement.kept (fun _ impossible => impossible.elim) invariant,
    fun _ => statement.frame not_false⟩

theorem claimSafe_commit {tx : Tx} (own : tx.actor = actor) (invariant : ClaimInvariant before) :
    ClaimSafe actor before (before.commit tx) := by
  subst own
  exact ⟨claimKept_commit invariant, fun _ => claimFrame_commit⟩

/-- An entry that is about neither reservations nor calls. -/
theorem claimSafe_record {event : Event} (invariant : ClaimInvariant before)
    (unreserved : ∀ worker id claim, event ≠ .reserved worker id claim)
    (uncalled : ∀ call, event ≠ .began call) : ClaimSafe actor before (before.record event) := by
  refine ⟨claimKept_record invariant ?_,
    fun worker => claimFrame_record fun call _ => uncalled call⟩
  cases event with
  | reserved worker id claim => exact absurd rfl (unreserved worker id claim)
  | began call => exact absurd rfl (uncalled call)
  | _ => trivial

theorem ClaimSafe.trans {middle : Host} (first : ClaimSafe actor before middle)
    (second : ClaimSafe actor middle after) : ClaimSafe actor before after :=
  ⟨first.kept.trans second.kept, fun worker => (first.frame worker).trans (second.frame worker)⟩

theorem claimSafe_commitRecording {event : Event} (invariant : ClaimInvariant before)
    (unreserved : ∀ worker id claim, event ≠ .reserved worker id claim)
    (uncalled : ∀ call, event ≠ .began call) :
    ClaimSafe actor before ((before.commit (.work actor)).record event) := by
  have committed : ClaimSafe actor before (before.commit (.work actor)) :=
    claimSafe_commit rfl invariant
  exact committed.trans (claimSafe_record committed.kept.1 unreserved uncalled)

/-- A statement that writes neither subscriber rows nor claims. -/
theorem claimSafe_of_frame (invariant : ClaimInvariant before)
    (outbox : after.outbox .subscriber = before.outbox .subscriber)
    (claims : after.claims = before.claims) (log : after.log = before.log)
    (clock : after.clock = before.clock) : ClaimSafe actor before after := by
  apply ClaimStatement.safe _ invariant
  constructor
  · intro id
    have same : after.notification id = before.notification id := by
      rw [Host.notification, Host.notification, outbox]
    rw [same]
    exact .same
  · intro id
    rw [claims]
    exact .same
  · exact log
  · exact clock

theorem claimStatement_outbox {channel : Channel} {assigns : String → Prop}
    {statement : String → OutboxRow → Option OutboxRow}
    (writable : (before.outbox channel).writable (.work actor)
      (fun id row => (statement id row).map some) = true)
    (puts : channel = .subscriber → ∀ id row new,
      (before.notification id).view (.work actor) = some row →
      statement id row = some new → RowPut assigns (some row) new) :
    ClaimStatement actor assigns before ((TableRef.outbox channel).put
      ((before.outbox channel).write (.work actor)
        fun id row => (statement id row).map some) before) := by
  cases channel with
  | system => exact ⟨fun _ => .same, fun _ => .same, rfl, rfl⟩
  | subscriber =>
      refine ⟨fun id => ?_, fun _ => .same, rfl, rfl⟩
      exact VersionedTable.put_write writable id fun row new seen changed =>
        puts rfl id row new seen changed

theorem claimStatement_insert {id : String} {row : OutboxRow}
    (absent : (before.notification id).view (.work actor) = none)
    (free : (before.notification id).free (.work actor) = true) (unleased : row.leaseOwner = none) :
    ClaimStatement actor (fun _ => False) before ((TableRef.outbox .subscriber).put
      ((before.outbox .subscriber).insert (.work actor) id row) before) := by
  have permitted : RowPut (fun _ => False) ((before.notification id).view (.work actor)) row := by
    rw [absent]
    constructor
    · intro previous _ _ impossible
      cases impossible
    · intro worker owned
      rw [unleased] at owned
      cases owned
  refine ⟨fun other => ?_, fun _ => .same, rfl, rfl⟩
  exact VersionedTable.put_insert free permitted other

theorem claimStatement_claims {assigns : String → Prop}
    {statement : String → ClaimRow → Option ClaimRow}
    (writable : before.claims.writable (.work actor)
      (fun id row => (statement id row).map some) = true)
    (puts : ∀ id row new, statement id row = some new →
      ClaimPut before (.work actor) id (some row) new) :
    ClaimStatement actor assigns before { before with
      claims := before.claims.write (.work actor) fun id row => (statement id row).map some } :=
  ⟨fun _ => .same, fun id => VersionedTable.put_write writable id fun row new _ changed =>
    puts id row new changed, rfl, rfl⟩

theorem BackgroundStep.claimSafe (step : BackgroundStep actor before after)
    (invariant : ClaimInvariant before) : ClaimSafe actor before after := by
  cases step with
  | outbox channel statement writable moves =>
      exact (claimStatement_outbox writable fun _ id row new _ changed =>
        (moves id row new changed).rowPut).safe invariant
  | claims statement writable moves =>
      exact (claimStatement_claims writable fun id row new changed =>
        (moves id row new changed).claimPut).safe invariant
  | commit => exact claimSafe_commit rfl invariant
  | redeemed email => exact claimSafe_commitRecording invariant nofun nofun
  | _ => exact claimSafe_of_frame invariant rfl rfl rfl rfl

theorem IngestStep.claimSafe (step : IngestStep actor before after)
    (invariant : ClaimInvariant before) : ClaimSafe actor before after := by
  cases step with
  | background step => exact step.claimSafe invariant
  | notification channel id row absent free pending unleased unsent unclaimed =>
      cases channel with
      | system => exact claimSafe_of_frame invariant rfl rfl rfl rfl
      | subscriber =>
          exact (claimStatement_insert absent free unleased).safe invariant
  | commit observation => exact claimSafe_commitRecording invariant nofun nofun
  | _ => exact claimSafe_of_frame invariant rfl rfl rfl rfl

theorem FenceStep.claimSafe (step : FenceStep actor before after)
    (invariant : ClaimInvariant before) : ClaimSafe actor before after := by
  cases step with
  | background step => exact step.claimSafe invariant
  | commit event fence =>
      apply claimSafe_commitRecording invariant
      · rintro worker id claim rfl
        cases fence
      · rintro call rfl
        cases fence
  | _ => exact claimSafe_of_frame invariant rfl rfl rfl rfl

theorem WechatStep.claimSafe (step : WechatStep actor before after)
    (invariant : ClaimInvariant before) : ClaimSafe actor before after := by
  cases step with
  | commit => exact claimSafe_commit rfl invariant
  | _ => exact claimSafe_of_frame invariant rfl rfl rfl rfl

theorem ConsumerStep.claimSafe {worker : String} (step : ConsumerStep worker before after)
    (invariant : ClaimInvariant before) : ClaimSafe (.wechat worker) before after := by
  cases step with
  | wechat step => exact step.claimSafe invariant
  | lock held own => exact claimSafe_of_frame invariant rfl rfl rfl rfl
  | commit tx own => exact claimSafe_commit own invariant
  | record event post =>
      apply claimSafe_record invariant
      · rintro worker id claim rfl
        cases post
      · rintro call rfl
        cases post

end

/-! ## Assertions of a worker -/

/-- The claim was reserved by the worker, and the listed rows are leased to it
only under this claim. -/
structure Mine (worker claimId : String) (ids : List String) (host : Host) : Prop where
  reserved : ∃ claim, Event.reserved worker claimId claim ∈ host.log
  rows : ∀ id ∈ ids, ∀ row, (host.notification id).Version row →
    row.leaseOwner = some worker → row.deliveryClaimId = some claimId

/-- No call was made under the claim yet. -/
def Uncalled (worker claimId : String) (ids : List String) (host : Host) : Prop :=
  Mine worker claimId ids host ∧ ∀ call, Event.began call ∈ host.log → ¬call.Under claimId

/-- The worker has made its call. -/
def Called (worker claimId : String) (ids : List String) (call : Call) (host : Host) : Prop :=
  Mine worker claimId ids host ∧ Event.began call ∈ host.log ∧ call.startedAt ≤ host.clock

/-- An assertion that depends on the worker's leases and calls only. -/
def Framed (worker : String) (assertion : Host → Prop) : Prop :=
  ∀ before after, ClaimInvariant before → ClaimInvariant after →
    ClaimFrame worker before after → assertion before → assertion after

section

variable {worker claimId : String} {ids : List String}

theorem framed_true : Framed worker fun _ => True :=
  fun _ _ _ _ _ _ => trivial

theorem framed_mine : Framed worker (Mine worker claimId ids) := by
  intro before after _ _ frame mine
  constructor
  · obtain ⟨claim, member⟩ := mine.reserved
    exact ⟨claim, frame.log _ member⟩
  · intro id member row version owner
    obtain ⟨old, version', owner', same⟩ := frame.owners id row version owner
    rw [← same]
    exact mine.rows id member old version' owner'

theorem framed_uncalled : Framed worker (Uncalled worker claimId ids) := by
  intro before after beforeInv afterInv frame uncalled
  have mine := framed_mine before after beforeInv afterInv frame uncalled.1
  refine ⟨mine, fun call member under => ?_⟩
  obtain ⟨claim, reserved⟩ := mine.reserved
  obtain ⟨_, other, reserved'⟩ := afterInv.calls claimId call member under
  have caller : call.worker = worker :=
    afterInv.reserver claimId worker claim _ _ reserved reserved'
  exact uncalled.2 call (frame.began call caller member) under

theorem framed_called {call : Call} : Framed worker (Called worker claimId ids call) := by
  intro before after beforeInv afterInv frame called
  exact ⟨framed_mine before after beforeInv afterInv frame called.1, frame.log _ called.2.1,
    called.2.2.trans frame.clock⟩

theorem Framed.stable {assertion : Host → Prop} (framed : Framed worker assertion) :
    claimProtocol.Stable (.worker worker) assertion :=
  fun before after beforeInv afterInv relied holds =>
    framed before after beforeInv afterInv (relied.frame worker rfl) holds

theorem stable_holds {property : OutboxRow → Prop} :
    claimProtocol.Stable (.worker worker)
      (Holds (.outbox .subscriber) (.work (.worker worker)) ids property) :=
  fun _ _ _ _ relied holds => Holds.of_unchanged holds relied.rows

end

/-! ## Scripts without calls -/

theorem stable_anything {actor : Actor} : claimProtocol.Stable actor fun _ => True :=
  fun _ _ _ _ _ _ => trivial

section

variable {α : Type} {script : Script α}

theorem valid_of_claimSteps {actor : Actor} {step : Host → Host → Prop}
    (safe : ∀ before after, step before after → ClaimInvariant before →
      ClaimSafe actor before after)
    (does : Script.Does step script) :
    claimProtocol.Valid completesInFlight actor (fun _ => True) script fun _ _ => True := by
  apply does.valid stable_anything
  intro before after invariant _ step
  have kept := (safe before after step invariant).kept
  exact ⟨kept.1, kept.2, trivial⟩

/-- Background work of a worker keeps what it knows of its leases and calls. -/
theorem Framed.background {worker : String} {assertion : Host → Prop}
    (framed : Framed worker assertion)
    (does : Script.Does (BackgroundStep (.worker worker)) script) :
    claimProtocol.Valid completesInFlight (.worker worker) assertion script
      fun _ => assertion := by
  apply does.valid framed.stable
  intro before after invariant holds step
  have safe := step.claimSafe invariant
  exact ⟨safe.kept.1, safe.kept.2,
    framed before after invariant safe.kept.1 (safe.frame worker) holds⟩

theorem valid_raiseClaim {actor : Actor} {assertion : Host → Prop} {value : α}
    {post : α → Host → Prop} (stable : claimProtocol.Stable actor assertion) :
    claimProtocol.Valid completesInFlight actor assertion (Script.raise value) post := by
  apply Protocol.valid_act (fun _ _ _ => False) stable
  · rintro before input after _ _ _ ⟨⟩
  · exact fun _ _ => Protocol.valid_ret fun _ _ impossible => impossible.elim

end

/-- Neither subscriber rows, claims, history nor clock change. -/
structure QuietClaims (before after : Host) : Prop where
  outbox : after.outbox .subscriber = before.outbox .subscriber
  claims : after.claims = before.claims
  log : after.log = before.log
  clock : after.clock = before.clock

/-! ## Claiming rows -/

section

variable {worker : String}

/-- Locking rows puts the versions that are there. -/
theorem valid_lockOpen {email : String} {bookingDate now : Int} :
    claimProtocol.Valid completesInFlight (.worker worker) (fun _ => True)
      (Script.selectForUpdate (.outbox .subscriber) (.work (.worker worker)) OutboxRow.createdAt
        (fun snapshot row => claimableFor snapshot email bookingDate now row)
        subscriberRowsPerDigest)
      fun entries => Holds (.outbox .subscriber) (.work (.worker worker)) (entries.map Prod.fst)
        fun row => row.status.open = true := by
  apply Protocol.valid_act (fun before _ => Holds (.outbox .subscriber) (.work (.worker worker))
    ((Script.lockable (.outbox .subscriber) (.work (.worker worker)) OutboxRow.createdAt
      (fun snapshot row => claimableFor snapshot email bookingDate now row)
      subscriberRowsPerDigest before).map Prod.fst)
    fun row => row.status.open = true) stable_anything
  · intro before input after invariant _ _ executed
    obtain ⟨writable, rfl⟩ := Script.execute_eq_some executed
    rw [lockKeys_eq] at writable ⊢
    have statement : ClaimStatement (.worker worker) (fun _ => False) before _ :=
      claimStatement_outbox writable fun _ id row new _ changed => by
        rw [eq_of_lockKeys changed]
        exact ⟨fun _ _ _ same settled => Option.some.inj same ▸ settled,
          fun _ owned => Or.inr ⟨row, rfl, owned, rfl⟩⟩
    have kept := (statement.safe invariant).kept
    refine ⟨kept.1, kept.2, holds_lockable ?_⟩
    intro snapshot row accepted
    simp only [claimableFor, claimable, Bool.and_eq_true] at accepted
    exact accepted.1.2.1.1
  · exact fun _ _ => Protocol.valid_ret fun _ _ holds => holds

/-- An open row is not settled. -/
theorem not_settled_of_open {call : Call} {messageId : String} {row : OutboxRow}
    (isOpen : row.status.open = true) : ¬Settled call messageId row := by
  intro settled
  have reported := settled.reported
  rw [Status.not_reported_of_open isOpen] at reported
  cases reported

/-- An update of locked open rows that leases them to nobody else. -/
theorem claimStatement_onIds {ids : List String} {change : OutboxRow → OutboxRow} {before : Host}
    {property : OutboxRow → Prop}
    (holds : Holds (.outbox .subscriber) (.work (.worker worker)) ids property before)
    (opens : ∀ row, property row → row.status.open = true)
    (owner : ∀ row, property row →
      (change row).leaseOwner = none ∨ (change row).leaseOwner = some worker)
    (writable : (before.outbox .subscriber).writable (.work (.worker worker))
      (fun id row => (onIds ids change (before.view (.work (.worker worker))) id row).map some) =
        true) :
    ClaimStatement (.worker worker) (fun other => other = worker) before
      ((TableRef.outbox .subscriber).put ((before.outbox .subscriber).write
        (.work (.worker worker)) fun id row =>
          (onIds ids change (before.view (.work (.worker worker))) id row).map some) before) := by
  apply claimStatement_outbox writable
  intro _ id row new seen changed
  simp only [onIds, Option.ite_none_right_eq_some, Option.some.injEq] at changed
  obtain ⟨member, rfl⟩ := changed
  obtain ⟨held, view, satisfied⟩ := holds.view member
  have same : held = row := Option.some.inj (view.symm.trans seen)
  subst same
  constructor
  · intro previous call messageId old settled
    cases old
    exact absurd settled (not_settled_of_open (opens held satisfied))
  · intro other owned
    rcases owner held satisfied with released | mine
    · rw [released] at owned
      cases owned
    · rw [mine] at owned
      cases owned
      exact Or.inl rfl

theorem valid_updateLocked {ids : List String} {change : OutboxRow → OutboxRow}
    {property weaker : OutboxRow → Prop} {extra : Host → Prop}
    (stable : claimProtocol.Stable (.worker worker) extra)
    (indifferent : ∀ table host, extra host → extra ((TableRef.outbox .subscriber).put table host))
    (opens : ∀ row, property row → row.status.open = true)
    (owner : ∀ row, property row →
      (change row).leaseOwner = none ∨ (change row).leaseOwner = some worker)
    (changes : ∀ row, property row → weaker (change row)) :
    claimProtocol.Valid completesInFlight (.worker worker)
      (fun host => Holds (.outbox .subscriber) (.work (.worker worker)) ids property host ∧
        extra host)
      (Script.update (.outbox .subscriber) (.work (.worker worker)) (onIds ids change))
      fun _ host => Holds (.outbox .subscriber) (.work (.worker worker)) ids weaker host ∧
        extra host := by
  apply Protocol.valid_act (fun _ _ host => Holds (.outbox .subscriber) (.work (.worker worker))
    ids weaker host ∧ extra host) (stable_holds.and stable)
  · intro before input after invariant holds _ executed
    obtain ⟨writable, rfl⟩ := Script.execute_eq_some executed
    have kept := (claimStatement_onIds holds.1 opens owner writable).kept
      (fun _ mine => congrArg Actor.worker mine.symm) invariant
    refine ⟨kept.1, kept.2, holds.1.write ?_, indifferent _ before holds.2⟩
    intro id member row satisfied
    exact ⟨change row, by simp [onIds, member], changes row satisfied⟩
  · exact fun _ _ => Protocol.valid_ret fun _ _ holds => holds

theorem valid_updateOpen {ids : List String} {change : OutboxRow → OutboxRow}
    (weaker : OutboxRow → Prop)
    (owner : ∀ row, row.status.open = true →
      (change row).leaseOwner = none ∨ (change row).leaseOwner = some worker)
    (changes : ∀ row, row.status.open = true → weaker (change row)) :
    claimProtocol.Valid completesInFlight (.worker worker)
      (Holds (.outbox .subscriber) (.work (.worker worker)) ids fun row => row.status.open = true)
      (Script.update (.outbox .subscriber) (.work (.worker worker)) (onIds ids change))
      fun _ => Holds (.outbox .subscriber) (.work (.worker worker)) ids weaker := by
  apply Protocol.Valid.mono (valid_updateLocked stable_anything (fun _ _ _ => trivial)
    (fun _ isOpen => isOpen) owner changes)
  · exact fun _ _ holds => ⟨holds, trivial⟩
  · exact fun _ _ _ holds => holds.1

/-- The worker's transaction holds a claim that nobody else has seen. -/
def Reserving (worker claimId : String) (host : Host) : Prop :=
  (host.claims.cell claimId).base = none ∧
    ∃ claim, (host.claims.cell claimId).held = some (.work (.worker worker), some claim)

theorem stable_reserving {claimId : String} :
    claimProtocol.Stable (.worker worker) (Reserving worker claimId) := by
  rintro before after _ _ relied ⟨unseen, claim, held⟩
  have same := relied.claims claimId _ held
  exact ⟨by rw [same]; exact unseen, claim, by rw [same]; exact held⟩

/-- The rows under a new claim: leased to the worker and linked to it. -/
def Linked (worker claimId : String) (row : OutboxRow) : Prop :=
  row.status.open = true ∧ row.leaseOwner = some worker ∧ row.deliveryClaimId = some claimId

theorem valid_insertClaim {ids : List String} {property : OutboxRow → Prop} {claimId : String}
    {claim : ClaimRow} (unsent : claim.status ≠ .sent) :
    claimProtocol.Valid completesInFlight (.worker worker)
      (Holds (.outbox .subscriber) (.work (.worker worker)) ids property)
      (Script.insert .claims (.work (.worker worker)) claimId claim)
      fun _ host => Holds (.outbox .subscriber) (.work (.worker worker)) ids property host ∧
        Reserving worker claimId host := by
  apply Protocol.valid_act (fun _ _ host => Holds (.outbox .subscriber)
    (.work (.worker worker)) ids property host ∧ Reserving worker claimId host) stable_holds
  · intro before input after invariant holds _ acted
    dsimp only at acted
    split at acted
    · rename_i absent
      obtain ⟨free, rfl⟩ := Script.insertRow_eq_some acted
      have statement : ClaimStatement (.worker worker) (fun _ => False) before
          { before with
            claims := before.claims.insert (.work (.worker worker)) claimId claim } := by
        refine ⟨fun _ => .same, fun other => ?_, rfl, rfl⟩
        exact VersionedTable.put_insert free (fun sent => absurd sent unsent) other
      have kept := (statement.safe invariant).kept
      have self : (before.claims.insert (.work (.worker worker)) claimId claim).cell claimId =
          (before.claims.cell claimId).hold (.work (.worker worker)) (some claim) :=
        VersionedTable.cell_insert_self
      refine ⟨kept.1, kept.2, holds, ?_, claim, ?_⟩
      · change ((before.claims.insert (.work (.worker worker)) claimId claim).cell claimId).base =
          none
        rw [self, Cell.base_hold]
        have unseen := Option.isNone_iff_eq_none.mp absent
        cases base : (before.claims.cell claimId).base with
        | none => rfl
        | some stored =>
            -- a committed claim is never deleted, so its reader sees a row
            exfalso
            change (before.claims.cell claimId).view (.work (.worker worker)) = none at unseen
            unfold Cell.view at unseen
            split at unseen
            · rename_i holder row held
              split at unseen
              · subst unseen
                exact invariant.claims claimId holder held
              · rw [base] at unseen
                cases unseen
            · rw [base] at unseen
              cases unseen
      · change ((before.claims.insert (.work (.worker worker)) claimId claim).cell claimId).held =
          some (.work (.worker worker), some claim)
        rw [self, Cell.held_hold]
    · cases acted
  · exact fun _ _ => Protocol.valid_ret fun _ _ holds => holds

/-- The commit of a claim makes it the worker's own. -/
theorem valid_commitClaim {ids : List String} {claimId : String} {claim : ClaimRow} :
    claimProtocol.Valid completesInFlight (.worker worker)
      (fun host => Holds (.outbox .subscriber) (.work (.worker worker)) ids
        (Linked worker claimId) host ∧ Reserving worker claimId host)
      (Script.commitRecording (.work (.worker worker)) (.reserved worker claimId claim))
      fun _ => Uncalled worker claimId ids := by
  apply Protocol.valid_act (fun _ _ => Uncalled worker claimId ids)
    (stable_holds.and stable_reserving)
  · rintro before input after invariant ⟨holds, unseen, stored, held⟩ _ ⟨⟩
    have unreserved : ∀ other reserved, Event.reserved other claimId reserved ∉ before.log := by
      intro other reserved member
      have known := invariant.stored other claimId reserved member
      rw [unseen] at known
      cases known
    have committed : ClaimKept (.worker worker) before
        (before.commit (.work (.worker worker))) := claimKept_commit invariant
    have entry : ClaimEntry (.worker worker) (before.commit (.work (.worker worker)))
        (.reserved worker claimId claim) := by
      refine ⟨rfl, ?_, unreserved⟩
      change ((before.claims.cell claimId).commit (.work (.worker worker))).base.isSome = true
      rw [Cell.commit_of_held held]
      rfl
    have kept := committed.trans (claimKept_record committed.1 entry)
    refine ⟨kept.1, kept.2, ⟨⟨claim, List.mem_cons_self⟩, ?_⟩, ?_⟩
    · intro id member row version owner
      obtain ⟨linked, isHeld, _, _, link⟩ := holds id member
      have published : (before.notification id).commit (.work (.worker worker)) =
          ⟨some linked, none⟩ := Cell.commit_of_held isHeld
      change ((before.notification id).commit (.work (.worker worker))).Version row at version
      rw [published] at version
      rcases version with base | ⟨_, impossible⟩
      · cases base
        exact link
      · cases impossible
    · intro call member under
      rcases List.mem_cons.mp member with impossible | older
      · cases impossible
      · obtain ⟨_, reserved, known⟩ := invariant.calls claimId call older under
        exact unreserved _ _ known
  · exact fun _ _ => Protocol.valid_ret fun _ _ holds => holds

/-- What a worker knows of the rows that a claim hands to it. -/
def Claimed (worker : String) (rows : List ClaimedRow) (host : Host) : Prop :=
  rows = [] ∨ ∃ claimId, Uncalled worker claimId (rows.map ClaimedRow.id) host ∧
    ∀ row ∈ rows, row.claimId = some claimId

theorem valid_suppressClaim {entries : List (String × OutboxRow)} {reason : String} {now : Int} :
    claimProtocol.Valid completesInFlight (.worker worker)
      (Holds (.outbox .subscriber) (.work (.worker worker)) (entries.map Prod.fst)
        fun row => row.status.open = true)
      (suppressRows worker entries reason now) fun rows => Claimed worker rows := by
  apply Protocol.Valid.bind (fun _ _ => True)
  · apply Protocol.Valid.mono (valid_updateOpen (fun _ => True) (fun _ _ => Or.inl rfl)
      fun _ _ => trivial)
    · exact fun _ _ holds => holds
    · exact fun _ _ _ _ => trivial
  intro _
  apply Protocol.Valid.bind _ (framed_true.background BackgroundStep.does_finish)
  exact fun _ => Protocol.valid_ret fun _ _ _ => Or.inl rfl

theorem valid_reserveClaim {target : Target} {entries : List (String × OutboxRow)} {now : Int} :
    claimProtocol.Valid completesInFlight (.worker worker)
      (Holds (.outbox .subscriber) (.work (.worker worker)) (entries.map Prod.fst)
        fun row => row.status.open = true)
      (reserveRows worker target entries now) fun rows => Claimed worker rows := by
  apply Protocol.Valid.bind _ (valid_updateOpen
    (fun row => row.status.open = true ∧ row.leaseOwner = some worker) (fun _ _ => Or.inr rfl)
    fun _ _ => ⟨rfl, rfl⟩)
  intro _
  apply Protocol.Valid.bind (fun _ => Holds (.outbox .subscriber) (.work (.worker worker))
    (entries.map Prod.fst) fun row => row.status.open = true ∧ row.leaseOwner = some worker)
  · apply (Script.does_freshId (fun _ => rfl) : Script.Does (fun before after => after = before)
      (Script.freshId TableRef.claims)).valid stable_holds
    rintro before after invariant holds rfl
    have kept := (claimSafe_of_frame invariant rfl rfl rfl rfl :
      ClaimSafe (.worker worker) after after).kept
    exact ⟨kept.1, kept.2, holds⟩
  intro claimId
  apply Protocol.Valid.bind _ (valid_insertClaim (by rintro ⟨⟩))
  intro _
  apply Protocol.Valid.bind (fun _ host => Holds (.outbox .subscriber) (.work (.worker worker))
    (entries.map Prod.fst) (Linked worker claimId) host ∧ Reserving worker claimId host)
  · exact valid_updateLocked stable_reserving (fun _ _ holds => holds) (fun _ holds => holds.1)
      (fun _ holds => Or.inr holds.2) fun _ holds => ⟨holds.1, holds.2, rfl⟩
  intro _
  apply Protocol.Valid.bind _ valid_commitClaim
  intro _
  apply Protocol.valid_ret
  intro host _ uncalled
  refine Or.inr ⟨claimId, ?_, ?_⟩
  · rw [List.map_map]
    exact uncalled
  · intro row member
    obtain ⟨entry, _, rfl⟩ := List.mem_map.mp member
    rfl

/-- Reading and taking advisory locks keeps the locked rows. -/
theorem valid_lookOn {α : Type} {ids : List String} {property : OutboxRow → Prop}
    {script : Script α} (does : Script.Does QuietClaims script) :
    claimProtocol.Valid completesInFlight (.worker worker)
      (Holds (.outbox .subscriber) (.work (.worker worker)) ids property) script
      fun _ => Holds (.outbox .subscriber) (.work (.worker worker)) ids property := by
  apply does.valid stable_holds
  intro before after invariant holds quiet
  have kept := (claimSafe_of_frame invariant quiet.outbox quiet.claims quiet.log quiet.clock :
    ClaimSafe (.worker worker) before after).kept
  refine ⟨kept.1, kept.2, Holds.of_unchanged holds fun id _ _ => ?_⟩
  change (after.outbox .subscriber).cell id = (before.outbox .subscriber).cell id
  rw [quiet.outbox]

theorem valid_claimQuota {settings : Settings} {target : Target}
    {entries : List (String × OutboxRow)} {now : Int} :
    claimProtocol.Valid completesInFlight (.worker worker)
      (Holds (.outbox .subscriber) (.work (.worker worker)) (entries.map Prod.fst)
        fun row => row.status.open = true)
      (claimUnderQuota worker settings target entries now) fun rows => Claimed worker rows := by
  apply Protocol.Valid.bind _ (valid_lookOn (Script.does_lock fun _ _ => ⟨rfl, rfl, rfl, rfl⟩))
  intro _
  apply Protocol.Valid.bind _ (valid_lookOn (Script.does_lock fun _ _ => ⟨rfl, rfl, rfl, rfl⟩))
  intro _
  apply Protocol.Valid.bind _ (valid_lookOn (Script.does_observe fun _ => ⟨rfl, rfl, rfl, rfl⟩))
  intro userSubmitted
  apply Protocol.Valid.bind _ (valid_lookOn (Script.does_observe fun _ => ⟨rfl, rfl, rfl, rfl⟩))
  intro userReserved
  apply Protocol.Valid.bind _ (valid_lookOn (Script.does_observe fun _ => ⟨rfl, rfl, rfl, rfl⟩))
  intro globalSubmitted
  apply Protocol.Valid.bind _ (valid_lookOn (Script.does_observe fun _ => ⟨rfl, rfl, rfl, rfl⟩))
  intro globalReserved
  dsimp only
  split
  · exact valid_suppressClaim
  · exact valid_reserveClaim

theorem valid_claimGroup {settings : Settings} {target : Target} {weather : WeatherDecision} :
    claimProtocol.Valid completesInFlight (.worker worker) (fun _ => True)
      (claimSubscriberGroup worker settings target weather) fun rows => Claimed worker rows := by
  apply Protocol.Valid.bind _
    (framed_true.background (BackgroundStep.does_advisory fun _ => rfl))
  intro _
  apply Protocol.Valid.bind _ (framed_true.background BackgroundStep.does_utcNow)
  intro now
  apply Protocol.Valid.bind _ valid_lockOpen
  intro entries
  split
  · apply Protocol.Valid.bind (fun _ _ => True)
    · apply Protocol.Valid.mono (framed_true.background BackgroundStep.does_finish)
      · exact fun _ _ _ => trivial
      · exact fun _ _ _ _ => trivial
    · exact fun _ => Protocol.valid_ret fun _ _ _ => Or.inl rfl
  · split
    · exact valid_suppressClaim
    · exact valid_claimQuota

/-! ## The attempt -/

/-- The rows of an attempt, before its call. -/
def Ready (worker : String) (channel : Channel) (rows : List ClaimedRow) (host : Host) : Prop :=
  channel = .subscriber → Claimed worker rows host

/-- The call of an attempt was made. -/
def CallMade (worker : String) (channel : Channel) (rows : List ClaimedRow) (call : Call)
    (host : Host) : Prop :=
  channel = .subscriber → ∃ claimId, Called worker claimId (rows.map ClaimedRow.id) call host ∧
    digestClaim rows = some claimId ∧ call.Under claimId ∧
    call.rowIds = rows.map ClaimedRow.id

variable {channel : Channel} {rows : List ClaimedRow}

theorem framed_ready : Framed worker (Ready worker channel rows) := by
  intro before after beforeInv afterInv frame ready subscriber
  rcases ready subscriber with empty | ⟨claimId, uncalled, links⟩
  · exact Or.inl empty
  · exact Or.inr ⟨claimId, framed_uncalled before after beforeInv afterInv frame uncalled, links⟩

theorem framed_callMade {call : Call} : Framed worker (CallMade worker channel rows call) := by
  intro before after beforeInv afterInv frame made subscriber
  obtain ⟨claimId, called, rest⟩ := made subscriber
  exact ⟨claimId, framed_called before after beforeInv afterInv frame called, rest⟩

theorem Ready.filter {keep : ClaimedRow → Bool} {host : Host}
    (ready : Ready worker channel rows host) : Ready worker channel (rows.filter keep) host := by
  intro subscriber
  rcases ready subscriber with rfl | ⟨claimId, ⟨mine, unmade⟩, links⟩
  · exact Or.inl rfl
  · refine Or.inr ⟨claimId, ⟨⟨mine.reserved, ?_⟩, unmade⟩, ?_⟩
    · intro id member
      obtain ⟨row, chosen, rfl⟩ := List.mem_map.mp member
      exact mine.rows row.id (List.mem_map_of_mem (List.mem_of_mem_filter chosen))
    · exact fun row chosen => links row (List.mem_of_mem_filter chosen)

/-- One safe action of a worker keeps what it knows of its leases and calls. -/
theorem Framed.update {assertion : Host → Prop} (framed : Framed worker assertion)
    {label : Label} {statement : Snapshot → String → OutboxRow → Option OutboxRow}
    (puts : channel = .subscriber → ∀ snapshot id row new, statement snapshot id row = some new →
      RowPut (fun _ => False) (some row) new) :
    claimProtocol.Valid completesInFlight (.worker worker) assertion
      (Script.update (.outbox channel) (.work (.worker worker)) statement label)
      fun _ => assertion := by
  apply Protocol.valid_act (fun _ _ => assertion) framed.stable
  · intro before input after invariant holds _ executed
    obtain ⟨writable, rfl⟩ := Script.execute_eq_some executed
    have statement : ClaimStatement (.worker worker) (fun _ => False) before _ :=
      claimStatement_outbox writable fun subscriber id row new _ changed =>
        puts subscriber _ id row new changed
    have safe := statement.safe invariant
    exact ⟨safe.kept.1, safe.kept.2,
      framed _ _ invariant safe.kept.1 (safe.frame worker) holds⟩
  · exact fun _ _ => Protocol.valid_ret fun _ _ holds => holds

theorem rowPut_markDispatching {now : Int} {ids : List String} {id : String}
    {row new : OutboxRow} (changed : markDispatching worker now ids id row = some new) :
    RowPut (fun _ => False) (some row) new := by
  simp only [markDispatching, Option.ite_none_right_eq_some, Option.some.injEq] at changed
  obtain ⟨⟨_, owner⟩, rfl⟩ := changed
  constructor
  · rintro previous call messageId ⟨⟩ settled
    rw [settled.released] at owner
    cases owner
  · exact fun _ owned => Or.inr ⟨row, rfl, owned, rfl⟩

theorem rowPut_completeRow {outcome : SendOutcome} {attempts : Nat} {now next : Int}
    {ids : List String} {id : String} {row new : OutboxRow}
    (changed : completeRow outcome attempts worker now next ids id row = some new) :
    RowPut (fun _ => False) (some row) new := by
  simp only [completeRow, Option.ite_none_right_eq_some, Option.some.injEq] at changed
  obtain ⟨⟨_, owner, _⟩, rfl⟩ := changed
  constructor
  · rintro previous call messageId ⟨⟩ settled
    rw [settled.released] at owner
    cases owner
  · intro other owned
    cases owned

theorem valid_dispatchedClaim {ids : List String} {assertion : Host → Prop}
    (framed : Framed worker assertion) :
    claimProtocol.Valid completesInFlight (.worker worker) assertion
      (Script.commitRecording (.work (.worker worker)) (.dispatched worker channel ids))
      fun _ => assertion := by
  apply Protocol.valid_act (fun _ _ => assertion) framed.stable
  · rintro before input after invariant holds _ ⟨⟩
    have safe : ClaimSafe (.worker worker) before
        ((before.commit (.work (.worker worker))).record (.dispatched worker channel ids)) :=
      claimSafe_commitRecording invariant nofun nofun
    exact ⟨safe.kept.1, safe.kept.2,
      framed _ _ invariant safe.kept.1 (safe.frame worker) holds⟩
  · exact fun _ _ => Protocol.valid_ret fun _ _ holds => holds

theorem digestClaim_eq {claimId : String} (nonempty : rows ≠ [])
    (links : ∀ row ∈ rows, row.claimId = some claimId) : digestClaim rows = some claimId := by
  cases rows with
  | nil => exact absurd rfl nonempty
  | cons first rest => exact links first List.mem_cons_self

theorem valid_beginCall {email : String × String × String} (nonempty : rows ≠ []) :
    claimProtocol.Valid completesInFlight (.worker worker) (Ready worker channel rows)
      (Script.beginSend (emailCall worker channel rows email) (.beginCall (digestClaim rows)))
      fun call => CallMade worker channel rows call := by
  apply Protocol.valid_act (fun before _ =>
    CallMade worker channel rows (emailCall worker channel rows email before.clock))
    framed_ready.stable
  · rintro before input after invariant ready _ ⟨⟩
    let call := emailCall worker channel rows email before.clock
    have claims : ∀ id, call.Under id → Uncalled worker id (rows.map ClaimedRow.id) before := by
      rintro id ⟨subscriber, link⟩
      rcases ready subscriber with empty | ⟨claimId, uncalled, links⟩
      · exact absurd empty nonempty
      · have same := digestClaim_eq nonempty links
        change digestClaim rows = some id at link
        rw [link] at same
        cases same
        exact uncalled
    have entry : ClaimEntry (.worker worker) before (.began call) := by
      refine ⟨rfl, fun id under => ⟨?_, (claims id under).1.reserved, (claims id under).2⟩⟩
      change rows.map ClaimedRow.id ≠ []
      simpa using nonempty
    have kept := claimKept_record invariant entry
    refine ⟨kept.1, kept.2, fun subscriber => ?_⟩
    rcases ready subscriber with empty | ⟨claimId, uncalled, links⟩
    · exact absurd empty nonempty
    · have link := digestClaim_eq nonempty links
      refine ⟨claimId, ⟨⟨?_, uncalled.1.rows⟩, List.mem_cons_self, le_rfl⟩, link,
        ⟨subscriber, link⟩, rfl⟩
      obtain ⟨claim, reserved⟩ := uncalled.1.reserved
      exact ⟨claim, List.mem_cons_of_mem _ reserved⟩
  · exact fun _ _ => Protocol.valid_ret fun _ _ holds => holds

theorem valid_endCall {call : Call} :
    claimProtocol.Valid completesInFlight (.worker worker) (CallMade worker channel rows call)
      (Script.awaitOutcome call) fun _ => CallMade worker channel rows call := by
  apply Protocol.valid_act (fun _ _ => CallMade worker channel rows call) framed_callMade.stable
  · intro before input after invariant made _ acted
    cases input with
    | outcome outcome =>
        cases acted
        have safe : ClaimSafe (.worker worker) before (before.record (.ended call outcome)) :=
          claimSafe_record invariant nofun nofun
        exact ⟨safe.kept.1, safe.kept.2,
          framed_callMade _ _ invariant safe.kept.1 (safe.frame worker) made⟩
    | _ => cases acted
  · exact fun _ _ => Protocol.valid_ret fun _ _ holds => holds

/-! ## The completion -/

theorem valid_readBegun {call : Call} :
    claimProtocol.Valid completesInFlight (.worker worker) (CallMade worker channel rows call)
      Script.utcNow fun now host => CallMade worker channel rows call host ∧
        (channel = .subscriber → call.startedAt ≤ now) := by
  apply Protocol.valid_act (fun before _ host => CallMade worker channel rows call host ∧
    (channel = .subscriber → call.startedAt ≤ before.clock)) framed_callMade.stable
  · rintro before input after invariant made _ ⟨⟩
    have kept := (claimSafe_of_frame invariant rfl rfl rfl rfl :
      ClaimSafe (.worker worker) before before).kept
    refine ⟨kept.1, kept.2, made, fun subscriber => ?_⟩
    obtain ⟨_, called, _⟩ := made subscriber
    exact called.2.2
  · exact fun _ _ => Protocol.valid_ret fun _ _ holds => holds

/-- The rows of an accepted call are settled by the completion. -/
def Settling (worker : String) (channel : Channel) (rows : List ClaimedRow) (call : Call)
    (outcome : SendOutcome) (host : Host) : Prop :=
  CallMade worker channel rows call host ∧ ∀ messageId requestId, channel = .subscriber →
    outcome = .returned (some messageId) requestId →
    Holds (.outbox .subscriber) (.work (.worker worker)) (rows.map ClaimedRow.id)
      (Settled call messageId) host

theorem stable_settling {call : Call} {outcome : SendOutcome} :
    claimProtocol.Stable (.worker worker) (Settling worker channel rows call outcome) := by
  intro before after beforeInv afterInv relied settling
  refine ⟨framed_callMade.stable beforeInv afterInv relied settling.1, ?_⟩
  intro messageId requestId subscriber returned
  exact Holds.of_unchanged (settling.2 messageId requestId subscriber returned) relied.rows

theorem valid_completeRows {call : Call} {outcome : SendOutcome} {begun next : Int}
    (started : channel = .subscriber → call.startedAt ≤ begun) :
    claimProtocol.Valid completesInFlight (.worker worker) (CallMade worker channel rows call)
      (Script.update (.outbox channel) (.work (.worker worker))
        (fun _ id row => completeRow outcome (digestAttempts rows) worker begun next
          (rows.map ClaimedRow.id) id row)
        (.completeUpdate channel worker (rows.map ClaimedRow.id)
          (outcome.phase (digestAttempts rows))))
      fun _ => Settling worker channel rows call outcome := by
  apply Protocol.valid_act (fun _ _ => Settling worker channel rows call outcome)
    framed_callMade.stable
  · intro before input after invariant made inFlight executed
    obtain ⟨writable, rfl⟩ := Script.execute_eq_some executed
    have statement : ClaimStatement (.worker worker) (fun _ => False) before _ :=
      claimStatement_outbox writable fun _ id row new _ changed => rowPut_completeRow changed
    have safe := statement.safe invariant
    refine ⟨safe.kept.1, safe.kept.2,
      framed_callMade _ _ invariant safe.kept.1 (safe.frame worker) made, ?_⟩
    rintro messageId requestId rfl rfl id member
    obtain ⟨claimId, called, _, under, _⟩ := made rfl
    obtain ⟨row, seen, found⟩ := (Option.any_eq_true ..).mp (inFlight rfl rfl id member)
    simp only [Bool.and_eq_true, decide_eq_true_eq] at found
    have link := called.1.rows id member row (Cell.version_of_view seen) found.1
    obtain ⟨new, completed, settled⟩ : ∃ new, completeRow (.returned (some messageId) requestId)
        (digestAttempts rows) worker begun next (rows.map ClaimedRow.id) id row = some new ∧
          Settled call messageId new := by
      refine ⟨_, if_pos ⟨member, found⟩, ?_, rfl, ⟨begun, rfl, started rfl⟩, rfl, rfl⟩
      exact link.trans under.2.symm
    refine ⟨new, ?_, settled⟩
    rw [TableRef.get_put]
    apply VersionedTable.held_write id seen
    dsimp only
    rw [completed]
    rfl
  · exact fun _ _ => Protocol.valid_ret fun _ _ holds => holds

theorem sent_completeClaim {outcome : SendOutcome} {attempts : Nat}
    (sent : claimStatusOf (outcome.phase attempts) = .sent) :
    ∃ messageId requestId, outcome = .returned (some messageId) requestId := by
  cases outcome with
  | returned message requestId =>
      cases message with
      | some messageId => exact ⟨messageId, requestId, rfl⟩
      | none => cases sent
  | raised error =>
      simp only [SendOutcome.phase] at sent
      split at sent
      · split at sent <;> cases sent
      · cases sent

theorem valid_completeClaim {call : Call} {outcome : SendOutcome} {begun : Int}
    (subscriber : channel = .subscriber) :
    claimProtocol.Valid completesInFlight (.worker worker)
      (Settling worker channel rows call outcome)
      (Script.update .claims (.work (.worker worker)) fun _ id claim =>
        completeClaim outcome (digestAttempts rows) begun (digestClaim rows) id claim)
      fun _ _ => True := by
  apply Protocol.valid_act (fun _ _ _ => True) stable_settling
  · intro before input after invariant settling _ executed
    obtain ⟨writable, rfl⟩ := Script.execute_eq_some executed
    have statement : ClaimStatement (.worker worker) (fun _ => False) before
        { before with
          claims := before.claims.write (.work (.worker worker)) fun id claim =>
            Option.map some (completeClaim outcome (digestAttempts rows) begun
              (digestClaim rows) id claim) } := by
      apply claimStatement_claims writable
      intro id claim new changed sent
      simp only [completeClaim, Option.ite_none_right_eq_some, Option.some.injEq] at changed
      obtain ⟨link, rfl⟩ := changed
      obtain ⟨messageId, requestId, rfl⟩ := sent_completeClaim sent
      obtain ⟨claimId, called, digest, under, included⟩ := settling.1 subscriber
      rw [digest] at link
      cases link
      refine Or.inr ⟨⟨call, called.2.1, under⟩, ?_⟩
      rintro message other ⟨⟩ member under' rowId listed
      have same := invariant.single id call other called.2.1 under member under'
      subst same
      rw [included] at listed
      exact (settling.2 messageId requestId subscriber rfl).view listed
    have kept := (statement.safe invariant).kept
    exact ⟨kept.1, kept.2, trivial⟩
  · exact fun _ _ => Protocol.valid_ret fun _ _ _ => trivial

theorem valid_completeAttempt {call : Call} {attemptId : String} {outcome : SendOutcome} :
    claimProtocol.Valid completesInFlight (.worker worker) (CallMade worker channel rows call)
      (completeEmail channel rows worker attemptId outcome) fun _ _ => True := by
  apply Protocol.Valid.bind _ valid_readBegun
  intro begun
  apply Protocol.valid_of_fact
  intro started
  apply Protocol.Valid.bind _ (framed_callMade.background
    (Script.does_update fun _ _ => BackgroundStep.attempts _))
  intro _
  apply Protocol.Valid.bind _ (framed_callMade.background BackgroundStep.does_utcNow)
  intro later
  apply Protocol.Valid.bind _ (valid_completeRows started)
  intro _
  apply Protocol.Valid.bind (fun _ _ => True)
  · unfold Script.when
    split
    · exact valid_completeClaim ‹_›
    · exact Protocol.valid_ret fun _ _ _ => trivial
  · exact fun _ => framed_true.background BackgroundStep.does_finish

theorem valid_sendClaim {attemptId : String} :
    claimProtocol.Valid completesInFlight (.worker worker) (Ready worker channel rows)
      (sendEmail channel rows worker attemptId) fun _ _ => True := by
  unfold sendEmail
  cases composed : composeEmail channel rows with
  | none => exact valid_raiseClaim framed_ready.stable
  | some email =>
      have nonempty : rows ≠ [] := by
        rintro rfl
        cases channel <;> cases composed
      apply Protocol.Valid.bind _ (valid_beginCall nonempty)
      intro call
      apply Protocol.Valid.bind _ valid_endCall
      exact fun _ => valid_completeAttempt

theorem valid_dispatchClaim :
    claimProtocol.Valid completesInFlight (.worker worker) (Ready worker channel rows)
      (dispatchEmail channel rows worker) fun _ _ => True := by
  apply Protocol.Valid.bind _ (framed_ready.background BackgroundStep.does_utcNow)
  intro now
  apply Protocol.Valid.bind _ (framed_ready.background BackgroundStep.does_select)
  intro valid
  apply Protocol.Valid.bind _ (framed_ready.background
    (Script.does_when fun _ => BackgroundStep.does_outbox fun _ _ _ _ => expireAtDispatch_move))
  intro _
  split
  · apply Protocol.Valid.mono (framed_ready.background
      (Script.Does.bind (Script.does_when fun _ => BackgroundStep.does_claims fun _ _ _ _ =>
        releaseUnusedClaim_move) fun _ => BackgroundStep.does_finish))
    · exact fun _ _ holds => holds
    · exact fun _ _ _ _ => trivial
  · apply Protocol.Valid.bind _ (framed_ready.background
      (Script.does_freshId fun _ => BackgroundStep.idle))
    intro attemptId
    apply Protocol.Valid.bind _ (framed_ready.background
      (Script.does_insert fun _ _ _ => BackgroundStep.attempts _))
    intro _
    apply Protocol.Valid.bind _ (framed_ready.update fun _ _ _ _ _ => rowPut_markDispatching)
    intro _
    apply Protocol.Valid.bind _ (valid_dispatchedClaim framed_ready)
    intro _
    apply Protocol.Valid.mono valid_sendClaim
    · exact fun _ _ ready => ready.filter
    · exact fun _ _ _ _ => trivial

theorem Framed.quiet {α : Type} {script : Script α} {assertion : Host → Prop}
    (framed : Framed worker assertion) (does : Script.Does QuietClaims script) :
    claimProtocol.Valid completesInFlight (.worker worker) assertion script
      fun _ => assertion := by
  apply does.valid framed.stable
  intro before after invariant holds quiet
  have safe : ClaimSafe (.worker worker) before after :=
    claimSafe_of_frame invariant quiet.outbox quiet.claims quiet.log quiet.clock
  exact ⟨safe.kept.1, safe.kept.2,
    framed before after invariant safe.kept.1 (safe.frame worker) holds⟩

theorem valid_attemptClaim :
    claimProtocol.Valid completesInFlight (.worker worker) (Ready worker channel rows)
      (attemptEmail channel rows worker) fun _ _ => True := by
  apply Protocol.Valid.bind _
    (framed_ready.quiet (Script.does_lock fun _ _ => ⟨rfl, rfl, rfl, rfl⟩))
  intro _
  apply Protocol.Valid.bind _
    (framed_ready.quiet (Script.does_observe fun _ => ⟨rfl, rfl, rfl, rfl⟩))
  intro control
  cases control with
  | none => exact valid_raiseClaim framed_ready.stable
  | some control =>
      apply Protocol.Valid.bind (fun _ _ => True)
      · dsimp only
        split
        · exact valid_dispatchClaim
        · exact Protocol.valid_ret fun _ _ _ => trivial
      · intro _
        apply Protocol.valid_act (fun _ _ _ => True) stable_anything
        · rintro before input after invariant _ _ ⟨⟩
          have safe : ClaimSafe (.worker worker) before (before.commit (.guard (.worker worker))) :=
            claimSafe_commit rfl invariant
          exact ⟨safe.kept.1, safe.kept.2, trivial⟩
        · exact fun _ _ => Protocol.valid_ret fun _ _ _ => trivial

/-! ## The cycle -/

/-- Claims of system emails do not touch subscriber rows. -/
theorem valid_claimSystemRow :
    claimProtocol.Valid completesInFlight (.worker worker) (fun _ => True)
      (claimSystem worker) fun _ _ => True := by
  apply Protocol.Valid.bind _ (framed_true.background BackgroundStep.does_utcNow)
  intro now
  apply Protocol.Valid.bind (fun _ _ => True)
  · apply Protocol.valid_act (fun _ _ _ => True) stable_anything
    · intro before input after invariant _ _ executed
      obtain ⟨writable, rfl⟩ := Script.execute_eq_some executed
      have safe : ∀ table, ClaimSafe (.worker worker) before
          ((TableRef.outbox .system).put table before) :=
        fun _ => claimSafe_of_frame invariant rfl rfl rfl rfl
      exact ⟨(safe _).kept.1, (safe _).kept.2, trivial⟩
    · exact fun _ _ => Protocol.valid_ret fun _ _ _ => trivial
  intro entries
  cases entries with
  | nil =>
      apply Protocol.Valid.bind _ (framed_true.background BackgroundStep.does_finish)
      exact fun _ => Protocol.valid_ret fun _ _ _ => trivial
  | cons entry rest =>
      apply Protocol.Valid.bind _ (framed_true.update (by simp))
      intro _
      apply Protocol.Valid.bind _ (framed_true.background BackgroundStep.does_finish)
      exact fun _ => Protocol.valid_ret fun _ _ _ => trivial

theorem valid_systemClaims (rounds : Nat) :
    claimProtocol.Valid completesInFlight (.worker worker) (fun _ => True)
      (systemLoop worker rounds) fun _ _ => True := by
  induction rounds with
  | zero => exact Protocol.valid_ret fun _ _ _ => trivial
  | succ rounds ih =>
      apply Protocol.Valid.bind _
        (framed_true.background (Script.does_awaitFlag fun _ => BackgroundStep.idle))
      intro late
      split
      · exact Protocol.valid_ret fun _ _ _ => trivial
      · apply Protocol.Valid.bind _ valid_claimSystemRow
        intro claimed
        cases claimed with
        | none => exact Protocol.valid_ret fun _ _ _ => trivial
        | some row =>
            apply Protocol.Valid.bind (fun _ _ => True)
            · apply Protocol.Valid.mono valid_attemptClaim
              · exact fun _ _ _ => nofun
              · exact fun _ _ _ _ => trivial
            · exact fun _ => ih

theorem valid_subscriberClaims {settings : Settings} (rounds : Nat) :
    claimProtocol.Valid completesInFlight (.worker worker) (fun _ => True)
      (subscriberLoop worker settings rounds) fun _ _ => True := by
  induction rounds with
  | zero => exact Protocol.valid_ret fun _ _ _ => trivial
  | succ rounds ih =>
      apply Protocol.Valid.bind _
        (framed_true.background (Script.does_awaitFlag fun _ => BackgroundStep.idle))
      intro late
      split
      · exact Protocol.valid_ret fun _ _ _ => trivial
      · apply Protocol.Valid.bind _
          (framed_true.background BackgroundStep.does_nextSubscriberTarget)
        intro target
        cases target with
        | none => exact Protocol.valid_ret fun _ _ _ => trivial
        | some target =>
            apply Protocol.Valid.bind _
              (framed_true.background (Script.does_awaitWeather fun _ => BackgroundStep.idle))
            intro weather
            apply Protocol.Valid.bind _ valid_claimGroup
            intro rows
            apply Protocol.Valid.bind (fun _ _ => True)
            · unfold Script.when
              split
              · apply Protocol.Valid.mono valid_attemptClaim
                · exact fun _ _ claimed _ => claimed
                · exact fun _ _ _ _ => trivial
              · exact Protocol.valid_ret fun _ _ _ => trivial
            · exact fun _ => ih

theorem valid_cycleClaims {settings : Settings} :
    claimProtocol.Valid completesInFlight (.worker worker) (fun _ => True)
      (runCycle worker settings) fun _ _ => True := by
  apply Protocol.Valid.bind _ (framed_true.background BackgroundStep.does_expireUnusable)
  intro _
  apply Protocol.Valid.bind _ (valid_systemClaims systemBatch)
  intro _
  apply Protocol.Valid.bind _ (valid_subscriberClaims subscriberRowsPerDigest)
  intro _
  exact framed_true.background BackgroundStep.does_reconcile

end

/-! ## The host -/

/-- The host keeps the claim protocol while its completions find their rows. -/
theorem claimProtocol_follows (digests : Digests) (deployed : Settings → Prop) :
    claimProtocol.Follows (hostSystem digests deployed) completesInFlight where
  restingStable _ := stable_anything
  operations actor program operation := by
    cases operation with
    | cycle worker settings configured => exact valid_cycleClaims
    | recovery worker =>
        exact valid_of_claimSteps (fun _ _ => BackgroundStep.claimSafe)
          BackgroundStep.does_releaseExpiredLeases
    | upkeep worker =>
        exact valid_of_claimSteps (fun _ _ => BackgroundStep.claimSafe)
          BackgroundStep.does_maintenance
    | cancel number subscriptionId email =>
        exact valid_of_claimSteps (fun _ _ => FenceStep.claimSafe)
          FenceStep.does_cancelSubscription
    | preference number email action dates =>
        exact valid_of_claimSteps (fun _ _ => FenceStep.claimSafe)
          FenceStep.does_updateNotificationPauses
    | switch number enabled commitId =>
        exact valid_of_claimSteps (fun _ _ => FenceStep.claimSafe)
          FenceStep.does_setDeliveryEnabled
    | subscribe number email input dedupeKey limits =>
        exact valid_of_claimSteps (fun _ _ => BackgroundStep.claimSafe)
          BackgroundStep.does_createSubscription
    | redeem number email =>
        exact valid_of_claimSteps (fun _ _ => BackgroundStep.claimSafe)
          BackgroundStep.does_redeemPriority
    | verify number email code =>
        exact valid_of_claimSteps (fun _ _ => IngestStep.claimSafe)
          IngestStep.does_queueVerification
    | enqueue number input =>
        exact valid_of_claimSteps (fun _ _ => WechatStep.claimSafe) WechatStep.does_enqueue
    | consume worker rounds =>
        exact valid_of_claimSteps (fun _ _ => ConsumerStep.claimSafe) ConsumerStep.does_consumer
    | ingest number observation =>
        exact valid_of_claimSteps (fun _ _ => IngestStep.claimSafe)
          IngestStep.does_ingestObservation
  crashes actor host invariant := by
    have kept : ClaimKept actor host (host.crash actor) := claimKept_crash invariant
    exact ⟨kept.1, kept.2, trivial⟩
  environments before after invariant passes := by
    obtain ⟨elapsed, rfl⟩ := passes
    constructor
    · exact ⟨invariant.rows, invariant.claims, invariant.stored, invariant.reserver,
        invariant.calls, invariant.single, invariant.called, invariant.coherent⟩
    · intro actor
      refine ⟨fun _ _ _ => rfl, fun _ _ _ => rfl, fun worker _ => ?_⟩
      refine ⟨fun _ row version owner => ⟨row, version, owner, rfl⟩, fun _ member => member,
        fun _ _ member => member, ?_⟩
      change before.clock ≤ before.clock + elapsed
      omega

/-- A host without claims, open transactions and history. -/
structure Unclaimed (host : Host) : Prop where
  history : host.log = []
  rows : ∀ id, (host.notification id).held = none
  claims : ∀ id, host.claims.cell id = Cell.empty

theorem Unclaimed.invariant {host : Host} (unclaimed : Unclaimed host) : ClaimInvariant host := by
  constructor
  · exact fun id call messageId => .of_unheld (unclaimed.rows id)
  · intro id tx held
    rw [unclaimed.claims] at held
    cases held
  · intro worker id claim member
    rw [unclaimed.history] at member
    cases member
  · intro id worker claim other reserved member
    rw [unclaimed.history] at member
    cases member
  · intro id call member
    rw [unclaimed.history] at member
    cases member
  · intro id call other member
    rw [unclaimed.history] at member
    cases member
  · intro id claim version
    rw [unclaimed.claims] at version
    rcases version with stored | ⟨_, held⟩
    · cases stored
    · cases held
  · intro reader id claim messageId call _ _ _ member
    rw [unclaimed.history] at member
    cases member

/-- Every sent claim has a row, and every row of the digest that was sent under it
carries its message and a submission time. -/
def ClaimsCoherent (host : Host) : Prop :=
  ∀ id claim messageId, (host.claims.cell id).base = some claim → claim.status = .sent →
    claim.messageId = some messageId →
    (∃ rowId row, (host.notification rowId).base = some row ∧
      row.deliveryClaimId = some id) ∧
    ∀ call, Event.began call ∈ host.log → call.channel = .subscriber → call.claimId = some id →
      ∀ rowId ∈ call.rowIds, ∃ row, (host.notification rowId).base = some row ∧
        row.messageId = some messageId ∧ row.submittedAt.isSome = true

theorem ClaimInvariant.claimsCoherent {host : Host} (invariant : ClaimInvariant host) :
    ClaimsCoherent host := by
  intro id claim messageId stored sent message
  have settled : ∀ call, Event.began call ∈ host.log → call.Under id → ∀ rowId ∈ call.rowIds,
      ∃ row, (host.notification rowId).base = some row ∧ Settled call messageId row :=
    fun call member under => invariant.coherent none id claim messageId call stored sent message
      member under
  constructor
  · obtain ⟨call, member, under⟩ := invariant.called id claim (Or.inl stored) sent
    obtain ⟨nonempty, _⟩ := invariant.calls id call member under
    obtain ⟨rowId, included⟩ := List.exists_mem_of_ne_nil _ nonempty
    obtain ⟨row, base, settled⟩ := settled call member under rowId included
    exact ⟨rowId, row, base, settled.claim.trans under.2⟩
  · intro call member subscriber link rowId included
    obtain ⟨row, base, settled⟩ := settled call member ⟨subscriber, link⟩ rowId included
    obtain ⟨time, submitted, _⟩ := settled.submitted
    exact ⟨row, base, settled.message, by rw [submitted]; rfl⟩

/-- In every run whose completions of accepted calls find their rows in flight,
claims and rows are coherent in every state reached. -/
theorem claimsCoherent_of_completesInFlight (digests : Digests) (deployed : Settings → Prop)
    {host : Host} (unclaimed : Unclaimed host) {config : Config Host Input Label Actor}
    (reachable : (hostSystem digests deployed).Reachable completesInFlight (System.idle host)
      config) : ClaimsCoherent config.shared :=
  ((claimProtocol_follows digests deployed).invariant_of_reachable unclaimed.invariant
    (fun _ => trivial) reachable).claimsCoherent

/-! ### A completion after the recovery -/

/-- One subscriber row is queued for a slot that was just seen. -/
def digestHost : Host :=
  { Host.fresh 0 with
    subscriptions := .singleton "subscription"
      { email := "a@example.com"
        venueIds := ["szw"]
        startTime := 0
        endTime := 1440
        weekdayMask := 127
        durationDays := 7
        termCode := "7d"
        autoRenew := false
        dedupeKey := none
        activeUntil := days 7
        active := true
        createdAt := 0
        updatedAt := 0 }
    slots := .singleton "slot" ⟨"szw", "court", 3, 600, 660, 0, 0⟩
    availability := .singleton ("scope", "slot") 0
    outbox := fun channel =>
      match channel with
      | .system => .empty
      | .subscriber => .singleton "row"
          { systemEmail "a@example.com" "" "" "b" 0 none with
            subscriptionId := "subscription"
            eventKey := "slot"
            venueId := "szw" } }

theorem digestHost_unclaimed : Unclaimed digestHost where
  history := rfl
  rows id := by
    change (if id = "row" then Cell.committed _ else Cell.empty).held = none
    split <;> rfl
  claims _ := rfl

/-- A worker runs its cycle up to the call for a digest. -/
def toDigestCall (worker : String) : List (Move Host Input Label Actor) :=
  .start (.worker worker) (runCycle worker ⟨1, 1, 1⟩) ::
    (System.acts (.worker worker) .none 4 ++ .act (.worker worker) (.flag false) ::
      (System.acts (.worker worker) .none 3 ++ .act (.worker worker) (.flag false) ::
        (System.acts (.worker worker) .none 3 ++
          .act (.worker worker) (.weather ⟨true, "", "", ""⟩) ::
            (System.acts (.worker worker) .none 10 ++ .act (.worker worker) (.fresh "claim") ::
              (System.acts (.worker worker) .none 7 ++ .act (.worker worker) (.fresh "attempt") ::
                System.acts (.worker worker) .none 4)))))

/-- The provider accepts the call and the worker completes it. -/
def acceptedCall (worker : String) : List (Move Host Input Label Actor) :=
  .act (.worker worker) (.outcome (.returned (some "message") none)) ::
    System.acts (.worker worker) .none 6

/-- The call takes longer than the lease, and another worker recovers the rows
before the completion. -/
def lateCompletion : List (Move Host Input Label Actor) :=
  toDigestCall "first" ++
    (.environment (fun host => { host with clock := host.clock + (301000000 : Nat) }) ::
      .start (.worker "second") (releaseExpiredLeases (.worker "second")) ::
        (System.acts (.worker "second") .none 8 ++ acceptedCall "first"))

theorem legal_toDigestCall (worker : String) :
    ∀ move ∈ toDigestCall worker, (hostSystem plainDigests anySettings).Legal move := by
  simp only [toDigestCall, List.forall_mem_cons, List.forall_mem_append]
  exact ⟨.cycle worker _ trivial, System.legal_acts, trivial, System.legal_acts, trivial,
    System.legal_acts, trivial, System.legal_acts, trivial, System.legal_acts, trivial,
    System.legal_acts⟩

theorem legal_acceptedCall (worker : String) :
    ∀ move ∈ acceptedCall worker, (hostSystem plainDigests anySettings).Legal move := by
  simp only [acceptedCall, List.forall_mem_cons]
  exact ⟨trivial, System.legal_acts⟩

theorem legal_lateCompletion :
    ∀ move ∈ lateCompletion, (hostSystem plainDigests anySettings).Legal move := by
  simp only [lateCompletion, List.forall_mem_cons, List.forall_mem_append]
  exact ⟨legal_toDigestCall _, fun host => ⟨301000000, rfl⟩, .recovery _, System.legal_acts,
    legal_acceptedCall _⟩

/-- The claim is sent with a message that its row does not carry. -/
def strayed (host : Host) : Bool :=
  (host.claims.cell "claim").base.any (fun claim =>
      decide (claim.status = .sent) && decide (claim.messageId = some "message")) &&
    (host.log.any fun event =>
      match event with
      | .began call => decide (call.channel = .subscriber) &&
          decide (call.claimId = some "claim") && decide ("row" ∈ call.rowIds)
      | _ => false) &&
    (host.notification "row").base.all fun row => decide (row.messageId = none)

theorem not_coherent_of_strayed {host : Host} (stray : strayed host = true) :
    ¬ClaimsCoherent host := by
  intro coherent
  simp only [strayed, Bool.and_eq_true] at stray
  obtain ⟨⟨sent, called⟩, without⟩ := stray
  obtain ⟨claim, stored, isSent⟩ := (Option.any_eq_true ..).mp sent
  simp only [Bool.and_eq_true, decide_eq_true_eq] at isSent
  obtain ⟨event, member, includes⟩ := List.any_eq_true.mp called
  cases event with
  | began call =>
      simp only [Bool.and_eq_true, decide_eq_true_eq] at includes
      obtain ⟨⟨subscriber, link⟩, included⟩ := includes
      obtain ⟨row, base, message, _⟩ := (coherent "claim" claim "message" stored isSent.1
        isSent.2).2 call member subscriber link "row" included
      rw [base] at without
      simp [message] at without
  | _ => cases includes

/-- Without the condition a claim is sent whose row carries no message. -/
theorem lateCompletion_strays : Unclaimed digestHost ∧ ∃ config,
    (hostSystem plainDigests anySettings).Reachable System.anyAction (System.idle digestHost)
      config ∧ ¬ClaimsCoherent config.shared := by
  have replayed : ((hostSystem plainDigests anySettings).replay System.anyAction
      (System.idle digestHost) lateCompletion).any (fun config => strayed config.shared) =
        true := by
    decide
  obtain ⟨config, reachable, stray⟩ :=
    System.exists_reachable_of_replay legal_lateCompletion replayed
  exact ⟨digestHost_unclaimed, config, reachable, not_coherent_of_strayed stray⟩

/-- A digest is sent and completed in time. -/
theorem acceptedCall_coherent : ∃ config,
    (hostSystem plainDigests anySettings).Reachable completesInFlight (System.idle digestHost)
      config ∧
      (config.shared.claims.cell "claim").base.any (fun claim =>
        decide (claim.status = .sent) && decide (claim.messageId = some "message")) = true ∧
      ClaimsCoherent config.shared := by
  have replayed : ((hostSystem plainDigests anySettings).replay completesInFlight
      (System.idle digestHost) (toDigestCall "first" ++ acceptedCall "first")).any (fun config =>
        (config.shared.claims.cell "claim").base.any (fun claim =>
          decide (claim.status = .sent) && decide (claim.messageId = some "message"))) = true := by
    decide
  have legal : ∀ move ∈ toDigestCall "first" ++ acceptedCall "first",
      (hostSystem plainDigests anySettings).Legal move :=
    List.forall_mem_append.mpr ⟨legal_toDigestCall _, legal_acceptedCall _⟩
  obtain ⟨config, reachable, sent⟩ := System.exists_reachable_of_replay legal replayed
  exact ⟨config, reachable, sent, claimsCoherent_of_completesInFlight plainDigests anySettings
    digestHost_unclaimed reachable⟩

end TennisAlerts.HostCore
