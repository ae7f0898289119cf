import TennisAlerts.RemoteOps.Operations
import Mathlib.Order.Basic
import Mathlib.Order.Nat

/-!
# Remote operations stay bounded, audited and private

One invariant about the items and one about the history, each preserved by every step.
-/

namespace TennisAlerts.RemoteOps

/-! ## Statements -/

/-- The id that a start draws. -/
def Event.drawnId : Event → Option String
  | .start _ _ _ _ id _ => some id
  | _ => none

/-- `audit` returns only after the record was written. -/
def Event.Synchronous : Event → Prop
  | .start _ _ _ _ _ (.returned written) | .react _ (.returned written) => written = true
  | _ => True

/-- The callback of `then` or `catch` has handled what became of the command. -/
def Chain.Settled (chain : Chain) : Prop :=
  chain = .handled ∨ chain = .done

/-- The record of a start. -/
def Item.startedRecord (redact : String → String) (item : Item) (reason : String) : AuditRecord :=
  .started item.id item.principal (redact item.command) (redact reason) item.timeout

/-- The state and the expiry agree with the chain. -/
def Item.Coherent (item : Item) : Prop :=
  match item.chain with
  | .queued | .executing | .fulfilled _ => item.state = .running ∧ item.expires = none
  | .rejected => item.expires = none
  | .handled => (item.state = .finished ∨ item.state = .unknown) ∧ item.expires = none
  | .done => item.state = .finished ∨ item.state = .unknown

theorem Item.Coherent.done {item : Item} (coherent : item.Coherent) (known : item.expires ≠ none) :
    item.chain = .done := by
  unfold Item.Coherent at coherent
  split at coherent
  · exact absurd coherent.2 known
  · exact absurd coherent.2 known
  · exact absurd coherent.2 known
  · exact absurd coherent known
  · exact absurd coherent.2 known
  · assumption

theorem Item.Coherent.settled {item : Item} (coherent : item.Coherent)
    (settled : item.chain.Settled) : item.state = .finished ∨ item.state = .unknown := by
  unfold Item.Coherent at coherent
  rcases settled with chain | chain
  · rw [chain] at coherent
    exact coherent.1
  · rw [chain] at coherent
    exact coherent

/-- What a start stores in an item and no callback changes. -/
def Item.request (item : Item) : String × Option String × String × Nat :=
  (item.id, item.principal, item.command, item.timeout)

/-- The history entry is a call of `execute` for the operation. -/
def Entry.executes (operation : Nat) : Entry → Bool
  | .audited _ _ => false
  | .executed other _ _ => other == operation

namespace Operations

/-- Every call of `execute` is for the command of a written record. -/
def ExecutesWritten (redact : String → String) (ops : Operations) : Prop :=
  ∀ later earlier operation command timeout,
    ops.log = later ++ .executed operation command timeout :: earlier →
    ∃ reason, .audited ((ops.item operation).startedRecord redact reason) true ∈ earlier

/-- What holds after every run. -/
structure Safe (redact : String → String) (maximum maxRunning : Nat) (events : List Event)
    (ops : Operations) : Prop where
  few : ops.items.length ≤ maximum
  bounded : ops.running ≤ maxRunning
  unswept : ∀ operation < ops.started, (ops.item operation).state = .running →
    operation ∈ ops.items
  once : ∀ operation, ops.log.countP (Entry.executes operation) ≤ 1
  announced : ∀ later earlier operation command timeout,
    ops.log = later ++ .executed operation command timeout :: earlier →
    ∃ reason written, .audited ((ops.item operation).startedRecord redact reason) written ∈ earlier
  written : (∀ event ∈ events, event.Synchronous) → ops.ExecutesWritten redact
  settled : ∀ operation < ops.started, (ops.item operation).chain.Settled →
    (ops.item operation).state = .finished ∨ (ops.item operation).state = .unknown
  kept : ∀ operation < ops.started, (ops.item operation).chain.Settled →
    ops.expired operation = false →
    ops.get (ops.item operation).id (ops.item operation).principal = .ok operation
  owned : ∀ id principal operation, ops.get id principal = .ok operation →
    ∃ command reason timeout auditing,
      .start principal command reason timeout id auditing ∈ events

/-! ## Items -/

/-- What the steps keep of the items. -/
structure Sound (maximum maxRunning : Nat) (past : List Event) (ops : Operations) : Prop where
  maximum : ops.maximum = maximum
  maxRunning : ops.maxRunning = maxRunning
  few : ops.items.length ≤ ops.maximum
  bounded : ops.running ≤ ops.maxRunning
  begun : ∀ operation ∈ ops.items, operation < ops.started
  coherent : ∀ operation < ops.started, (ops.item operation).Coherent
  unstarted : ∀ operation, ops.started ≤ operation → (ops.item operation).chain = .done
  swept : ∀ operation < ops.started, operation ∉ ops.items →
    (ops.item operation).chain = .done ∧ ops.expired operation = true
  distinct : ∀ operation < ops.started, ∀ other < ops.started,
    (ops.item operation).id = (ops.item other).id → operation = other
  drawn : ∀ operation < ops.started, ∃ command reason timeout auditing,
    .start (ops.item operation).principal command reason timeout (ops.item operation).id auditing ∈
      past

variable {redact : String → String} {maximum maxRunning : Nat} {past : List Event}
  {ops ops' : Operations}

theorem sound_new (now : Nat) : Sound maximum maxRunning [] (new maximum maxRunning now) where
  maximum := rfl
  maxRunning := rfl
  few := Nat.zero_le _
  bounded := Nat.zero_le _
  begun _ member := absurd member List.not_mem_nil
  coherent _ less := absurd less (Nat.not_lt_zero _)
  unstarted _ _ := rfl
  swept _ less := absurd less (Nat.not_lt_zero _)
  distinct _ less := absurd less (Nat.not_lt_zero _)
  drawn _ less := absurd less (Nat.not_lt_zero _)

theorem Sound.mono (sound : Sound maximum maxRunning past ops) (event : Event) :
    Sound maximum maxRunning (past ++ [event]) ops :=
  { sound with
    drawn := fun operation less => by
      obtain ⟨command, reason, timeout, auditing, member⟩ := sound.drawn operation less
      exact ⟨command, reason, timeout, auditing, List.mem_append_left _ member⟩ }

theorem Sound.record (sound : Sound maximum maxRunning past ops) (entry : AuditRecord)
    (auditing : Auditing) : Sound maximum maxRunning past (ops.record entry auditing) := by
  cases auditing with
  | thrown message => exact sound
  | returned written => exact { sound with }

theorem expired_advance {milliseconds operation : Nat} (expired : ops.expired operation = true) :
    ({ ops with now := ops.now + milliseconds } : Operations).expired operation = true := by
  unfold Operations.expired at expired ⊢
  cases known : (ops.item operation).expires with
  | none => rw [known] at expired; exact expired
  | some expires =>
      rw [known] at expired
      simp only [Option.any_some, decide_eq_true_eq] at expired ⊢
      omega

theorem Sound.advance (sound : Sound maximum maxRunning past ops) (milliseconds : Nat) :
    Sound maximum maxRunning past { ops with now := ops.now + milliseconds } :=
  { sound with
    swept := fun operation less gone =>
      (sound.swept operation less gone).imp_right expired_advance }

/-! ## Sweeps -/

theorem mem_sweep {operation : Nat} :
    operation ∈ ops.sweep.items ↔ operation ∈ ops.items ∧
      ((ops.item operation).state = .running ∨ ops.expired operation = false) := by
  simp only [sweep, List.mem_filter, Bool.not_and, Bool.or_eq_true, Bool.not_eq_true', bne,
    Bool.not_not, beq_iff_eq]

theorem running_sweep : ops.sweep.running = ops.running := by
  unfold running sweep
  dsimp only
  rw [List.countP_filter]
  refine List.countP_congr fun operation _ => ?_
  simp only [bne, Bool.not_and, Bool.not_not, Bool.and_eq_true, Bool.or_eq_true]
  exact ⟨fun both => both.1, fun state => ⟨state, .inl state⟩⟩

theorem expires_of_expired {operation : Nat} (expired : ops.expired operation = true) :
    (ops.item operation).expires ≠ none := by
  intro endless
  rw [Operations.expired, endless] at expired
  exact Bool.false_ne_true expired

theorem Sound.sweep (sound : Sound maximum maxRunning past ops) :
    Sound maximum maxRunning past ops.sweep :=
  { sound with
    few := (List.length_filter_le _ _).trans sound.few
    bounded := running_sweep.trans_le sound.bounded
    begun := fun operation member => sound.begun operation (mem_sweep.mp member).1
    swept := by
      intro operation less gone
      by_cases member : operation ∈ ops.items
      · have expired : ops.expired operation = true := by
          by_contra unexpired
          exact gone (mem_sweep.mpr ⟨member, .inr (Bool.eq_false_iff.mpr unexpired)⟩)
        exact ⟨(sound.coherent operation less).done (expires_of_expired expired), expired⟩
      · exact sound.swept operation less member }

/-! ## Changes of one item -/

theorem item_change (operation other : Nat) (item : Item) :
    (ops.change operation item).item other = if other = operation then item else ops.item other :=
  Function.update_apply ..

/-- An operation with a callback left is in the map. -/
theorem Sound.live (sound : Sound maximum maxRunning past ops) {operation : Nat}
    (live : (ops.item operation).chain ≠ .done) :
    operation < ops.started ∧ operation ∈ ops.items := by
  have less : operation < ops.started := by
    by_contra unstarted
    exact live (sound.unstarted operation (Nat.le_of_not_lt unstarted))
  refine ⟨less, ?_⟩
  by_contra gone
  exact live (sound.swept operation less gone).1

theorem running_change_le {operation : Nat} {item : Item}
    (running : item.state = .running → (ops.item operation).state = .running) :
    (ops.change operation item).running ≤ ops.running := by
  refine List.countP_mono_left fun other _ counted => ?_
  rw [item_change] at counted
  split at counted
  · rename_i same
    rw [same]
    exact beq_iff_eq.mpr (running (beq_iff_eq.mp counted))
  · exact counted

theorem Sound.change (sound : Sound maximum maxRunning past ops) {operation : Nat} {item : Item}
    (live : (ops.item operation).chain ≠ .done)
    (request : item.request = (ops.item operation).request)
    (running : item.state = .running → (ops.item operation).state = .running)
    (coherent : item.Coherent) :
    Sound maximum maxRunning past (ops.change operation item) := by
  obtain ⟨less, member⟩ := sound.live live
  obtain ⟨sameId, samePrincipal, -⟩ : item.id = (ops.item operation).id ∧
      item.principal = (ops.item operation).principal ∧ True := by
    simp only [Item.request, Prod.mk.injEq] at request
    exact ⟨request.1, request.2.1, trivial⟩
  have ids (other : Nat) : ((ops.change operation item).item other).id = (ops.item other).id := by
    rw [item_change]
    split
    · rename_i same
      rw [same, sameId]
    · rfl
  have principals (other : Nat) :
      ((ops.change operation item).item other).principal = (ops.item other).principal := by
    rw [item_change]
    split
    · rename_i same
      rw [same, samePrincipal]
    · rfl
  exact
    { sound with
      bounded := (running_change_le running).trans sound.bounded
      coherent := by
        intro other begun
        rw [item_change]
        split
        · exact coherent
        · exact sound.coherent other begun
      unstarted := by
        intro other unstarted
        rw [item_change, if_neg (Nat.ne_of_gt (less.trans_le unstarted))]
        exact sound.unstarted other unstarted
      swept := by
        intro other begun gone
        have different : other ≠ operation := fun same => gone (same ▸ member)
        have unchanged : (ops.change operation item).item other = ops.item other := by
          rw [item_change, if_neg different]
        unfold Operations.expired
        rw [unchanged]
        exact sound.swept other begun gone
      distinct := by
        intro other begun another begun' same
        rw [ids, ids] at same
        exact sound.distinct other begun another begun' same
      drawn := by
        intro other begun
        rw [ids, principals]
        exact sound.drawn other begun }

/-! ## Starts -/

theorem put_of_new {id : String} (new : ∀ operation ∈ ops.items, (ops.item operation).id ≠ id) :
    ops.put id = ops.items ++ [ops.started] := by
  unfold put
  rw [if_neg]
  intro known
  obtain ⟨operation, member, same⟩ := List.any_eq_true.mp known
  exact new operation member (beq_iff_eq.mp same)

theorem drawn_ne (sound : Sound maximum maxRunning past ops) {id : String}
    (new : id ∉ past.filterMap Event.drawnId) {operation : Nat} (begun : operation < ops.started) :
    (ops.item operation).id ≠ id := by
  rintro rfl
  obtain ⟨command, reason, timeout, auditing, member⟩ := sound.drawn operation begun
  exact new (List.mem_filterMap.mpr ⟨_, member, rfl⟩)

/-- The state after a start that puts a new item into the map. -/
def opened (ops : Operations) (item : Item) (log : List Entry) : Operations :=
  { ops with
    started := ops.started + 1
    item := Function.update ops.item ops.started item
    items := ops.items ++ [ops.started]
    log := log }

/-- What a start may do: sweep only, or put a new item into the map. -/
theorem start_cases (redact : String → String) (sound : Sound maximum maxRunning past ops)
    (principal : Option String) (command reason : String) (timeout : Nat) (id : String)
    (auditing : Auditing) (new : id ∉ past.filterMap Event.drawnId) :
    (ops.start redact principal command reason timeout id auditing).1 = ops.sweep ∨
      ∃ written, auditing = .returned written ∧ ops.sweep.items.length < ops.maximum ∧
        ops.sweep.running < ops.maxRunning ∧
        (ops.start redact principal command reason timeout id auditing).1 =
          ops.sweep.opened
            ⟨id, principal, command, timeout, .running, none, none, .queued⟩
            (.audited (.started id principal (redact command) (redact reason) timeout) written ::
              ops.log) := by
  unfold start
  dsimp only
  split
  · exact .inl rfl
  · rename_i free
    obtain ⟨-, few⟩ := not_or.mp free
    split
    · exact .inl rfl
    · rename_i idle
      cases auditing with
      | thrown message => exact .inl rfl
      | returned written =>
          refine .inr ⟨written, rfl, Nat.lt_of_not_le few, Nat.lt_of_not_le idle, ?_⟩
          dsimp only
          rw [put_of_new fun operation member =>
            drawn_ne sound.sweep new (sound.sweep.begun operation member)]
          rfl

theorem item_opened (item : Item) (log : List Entry) (operation : Nat) :
    (ops.opened item log).item operation =
      if operation = ops.started then item else ops.item operation :=
  Function.update_apply ..

theorem item_opened_of_lt {item : Item} {log : List Entry} {operation : Nat}
    (begun : operation < ops.started) :
    (ops.opened item log).item operation = ops.item operation := by
  rw [item_opened, if_neg (Nat.ne_of_lt begun)]

theorem running_opened (begun : ∀ operation ∈ ops.items, operation < ops.started) {item : Item}
    {log : List Entry} : (ops.opened item log).running ≤ ops.running + 1 := by
  have earlier : ops.items.countP (fun operation =>
      ((ops.opened item log).item operation).state == .running) = ops.running := by
    refine List.countP_congr fun operation member => ?_
    rw [item_opened_of_lt (begun operation member)]
  have last : [ops.started].countP (fun operation =>
      ((ops.opened item log).item operation).state == .running) ≤ 1 :=
    List.countP_le_length
  change (ops.items ++ [ops.started]).countP _ ≤ _
  rw [List.countP_append, earlier]
  omega

theorem Sound.opened (sound : Sound maximum maxRunning past ops)
    (few : ops.items.length < ops.maximum) (idle : ops.running < ops.maxRunning) {item : Item}
    (new : ∀ operation < ops.started, (ops.item operation).id ≠ item.id)
    (coherent : item.Coherent) {event : Event}
    (drawn : ∃ command reason timeout auditing,
      event = .start item.principal command reason timeout item.id auditing) (log : List Entry) :
    Sound maximum maxRunning (past ++ [event]) (ops.opened item log) where
  maximum := sound.maximum
  maxRunning := sound.maxRunning
  few := by
    change (ops.items ++ [ops.started]).length ≤ ops.maximum
    rw [List.length_append]
    exact few
  bounded := (running_opened sound.begun).trans idle
  begun := by
    intro operation member
    rcases List.mem_append.mp member with old | new
    · exact Nat.lt_succ_of_lt (sound.begun operation old)
    · rw [List.mem_singleton.mp new]
      exact Nat.lt_succ_self _
  coherent := by
    intro operation begun
    rw [item_opened]
    split
    · exact coherent
    · rename_i different
      exact sound.coherent operation (Nat.lt_of_le_of_ne (Nat.le_of_lt_succ begun) different)
  unstarted := by
    intro operation unstarted
    rw [item_opened, if_neg (Nat.ne_of_gt unstarted)]
    exact sound.unstarted operation (Nat.le_of_succ_le unstarted)
  swept := by
    intro operation begun gone
    have different : operation ≠ ops.started := fun same =>
      gone (List.mem_append_right _ (List.mem_singleton.mpr same))
    have less : operation < ops.started :=
      Nat.lt_of_le_of_ne (Nat.le_of_lt_succ begun) different
    unfold Operations.expired
    rw [item_opened_of_lt less]
    exact sound.swept operation less fun member => gone (List.mem_append_left _ member)
  distinct := by
    intro operation begun other begun' same
    rw [item_opened, item_opened] at same
    split at same
    · rename_i last
      split at same
      · rename_i last'
        rw [last, last']
      · rename_i different
        exact absurd same.symm
          (new other (Nat.lt_of_le_of_ne (Nat.le_of_lt_succ begun') different))
    · rename_i different
      have less := Nat.lt_of_le_of_ne (Nat.le_of_lt_succ begun) different
      split at same
      · exact absurd same (new operation less)
      · rename_i different'
        exact sound.distinct operation less other
          (Nat.lt_of_le_of_ne (Nat.le_of_lt_succ begun') different') same
  drawn := by
    intro operation begun
    rw [item_opened]
    split
    · obtain ⟨command, reason, timeout, auditing, rfl⟩ := drawn
      exact ⟨command, reason, timeout, auditing,
        List.mem_append_right _ (List.mem_singleton_self _)⟩
    · rename_i different
      obtain ⟨command, reason, timeout, auditing, member⟩ :=
        sound.drawn operation (Nat.lt_of_le_of_ne (Nat.le_of_lt_succ begun) different)
      exact ⟨command, reason, timeout, auditing, List.mem_append_left _ member⟩

/-! ## History -/

/-- The call of `execute` comes after the record of the start. -/
def Announced (redact : String → String) (ops : Operations) (log : List Entry) : Prop :=
  ∀ later earlier operation command timeout,
    log = later ++ .executed operation command timeout :: earlier →
    operation < ops.started ∧
      ∃ reason written,
        .audited ((ops.item operation).startedRecord redact reason) written ∈ earlier

/-- What the steps keep of the history. -/
structure Logged (redact : String → String) (ops : Operations) : Prop where
  waiting : ∀ operation, ops.started ≤ operation ∨ (ops.item operation).chain = .queued →
    ops.log.countP (Entry.executes operation) = 0
  once : ∀ operation, ops.log.countP (Entry.executes operation) ≤ 1
  recorded : ∀ operation < ops.started, ∃ reason written,
    .audited ((ops.item operation).startedRecord redact reason) written ∈ ops.log
  announced : ops.Announced redact ops.log

theorem logged_new (now : Nat) : Logged redact (new maximum maxRunning now) where
  waiting _ _ := rfl
  once _ := Nat.zero_le _
  recorded _ less := absurd less (Nat.not_lt_zero _)
  announced later _ _ _ _ split := by
    cases later with
    | nil => exact nomatch split
    | cons entry later => exact nomatch split

theorem announced_cons {entry : Entry} {log : List Entry}
    (first : ∀ operation command timeout, entry = .executed operation command timeout →
      operation < ops.started ∧
        ∃ reason written, .audited ((ops.item operation).startedRecord redact reason) written ∈ log)
    (announced : ops.Announced redact log) : ops.Announced redact (entry :: log) := by
  intro later earlier operation command timeout split
  cases later with
  | nil =>
      obtain ⟨same, rfl⟩ := List.cons.inj split
      exact first operation command timeout same
  | cons _ later =>
      exact announced later earlier operation command timeout (List.cons.inj split).2

theorem startedRecord_congr {item item' : Item} (same : item'.request = item.request)
    (reason : String) : item'.startedRecord redact reason = item.startedRecord redact reason := by
  simp only [Item.request, Prod.mk.injEq] at same
  obtain ⟨id, principal, command, timeout⟩ := same
  rw [Item.startedRecord, Item.startedRecord, id, principal, command, timeout]

/-- Steps that write nothing. -/
theorem Logged.frame (logged : Logged redact ops) (log : ops'.log = ops.log)
    (started : ops'.started = ops.started)
    (request : ∀ operation, (ops'.item operation).request = (ops.item operation).request)
    (queued : ∀ operation, (ops'.item operation).chain = .queued →
      (ops.item operation).chain = .queued) : Logged redact ops' where
  waiting := by
    intro operation idle
    rw [log]
    rw [started] at idle
    exact logged.waiting operation (idle.imp_right (queued operation))
  once := by
    rw [log]
    exact logged.once
  recorded := by
    intro operation begun
    rw [started] at begun
    obtain ⟨reason, written, member⟩ := logged.recorded operation begun
    refine ⟨reason, written, ?_⟩
    rw [startedRecord_congr (request operation), log]
    exact member
  announced := by
    intro later earlier operation command timeout split
    rw [log] at split
    obtain ⟨begun, reason, written, member⟩ :=
      logged.announced later earlier operation command timeout split
    refine ⟨started ▸ begun, reason, written, ?_⟩
    rw [startedRecord_congr (request operation)]
    exact member

theorem Logged.change (logged : Logged redact ops) {operation : Nat} {item : Item}
    (request : item.request = (ops.item operation).request) (chain : item.chain ≠ .queued) :
    Logged redact (ops.change operation item) := by
  refine logged.frame rfl rfl (fun other => ?_) fun other queued => ?_
  · rw [item_change]
    split
    · rename_i same
      rw [request, same]
    · rfl
  · rw [item_change] at queued
    split at queued
    · exact absurd queued chain
    · exact queued

theorem Logged.record (logged : Logged redact ops) (entry : AuditRecord) (auditing : Auditing) :
    Logged redact (ops.record entry auditing) := by
  cases auditing with
  | thrown message => exact logged
  | returned written =>
      exact
        { waiting := logged.waiting
          once := logged.once
          recorded := fun operation begun => by
            obtain ⟨reason, written, member⟩ := logged.recorded operation begun
            exact ⟨reason, written, List.mem_cons_of_mem _ member⟩
          announced := announced_cons (fun _ _ _ same => nomatch same) logged.announced }

/-- A first call of `execute`. -/
theorem Logged.executed (logged : Logged redact ops) {operation : Nat}
    (begun : operation < ops.started) (chain : (ops.item operation).chain ≠ .queued)
    (first : ops.log.countP (Entry.executes operation) = 0) (command : String) (timeout : Nat) :
    Logged redact { ops with log := .executed operation command timeout :: ops.log } where
  waiting := by
    intro other idle
    have different : operation ≠ other := by
      rintro rfl
      exact idle.elim (Nat.not_le_of_lt begun) chain
    dsimp only
    rw [List.countP_cons_of_neg]
    · exact logged.waiting other idle
    · exact fun same => different (beq_iff_eq.mp same)
  once := by
    intro other
    dsimp only
    rw [List.countP_cons]
    split
    · rename_i same
      rw [← beq_iff_eq.mp same, first]
    · exact logged.once other
  recorded := by
    intro other begun
    obtain ⟨reason, written, member⟩ := logged.recorded other begun
    exact ⟨reason, written, List.mem_cons_of_mem _ member⟩
  announced := by
    refine announced_cons ?_ logged.announced
    rintro _ _ _ ⟨⟩
    exact ⟨begun, logged.recorded operation begun⟩

theorem Logged.opened (logged : Logged redact ops) {item : Item} {reason : String}
    {written : Bool} :
    Logged redact (ops.opened item (.audited (item.startedRecord redact reason) written :: ops.log))
      where
  waiting := by
    intro operation idle
    refine logged.waiting operation ?_
    rw [item_opened] at idle
    split at idle
    · rename_i last
      exact .inl (Nat.le_of_eq last.symm)
    · exact idle.imp_left Nat.le_of_succ_le
  once := logged.once
  recorded := by
    intro operation begun
    rw [item_opened]
    split
    · exact ⟨reason, written, List.mem_cons_self ..⟩
    · rename_i different
      obtain ⟨reason, written, member⟩ :=
        logged.recorded operation (Nat.lt_of_le_of_ne (Nat.le_of_lt_succ begun) different)
      exact ⟨reason, written, List.mem_cons_of_mem _ member⟩
  announced := by
    refine announced_cons (fun _ _ _ same => nomatch same) ?_
    intro later earlier operation command timeout split
    obtain ⟨begun, announced⟩ := logged.announced later earlier operation command timeout split
    rw [item_opened_of_lt begun]
    exact ⟨Nat.lt_succ_of_lt begun, announced⟩

/-- Every record was written before `audit` returned. -/
def Written (ops : Operations) : Prop :=
  ∀ entry written, .audited entry written ∈ ops.log → written = true

theorem Written.record (known : ops.Written) (entry : AuditRecord) {auditing : Auditing}
    (synchronous : ∀ written, auditing = .returned written → written = true) :
    (ops.record entry auditing).Written := by
  cases auditing with
  | thrown message => exact known
  | returned written =>
      intro other written' member
      rcases List.mem_cons.mp member with same | earlier
      · cases same
        exact synchronous written rfl
      · exact known other written' earlier

/-! ## Steps and runs -/

/-- The invariant of a run. -/
structure Kept (redact : String → String) (maximum maxRunning : Nat) (past : List Event)
    (ops : Operations) : Prop where
  sound : Sound maximum maxRunning past ops
  logged : Logged redact ops
  written : (∀ event ∈ past, event.Synchronous) → ops.Written

theorem kept_new (now : Nat) : Kept redact maximum maxRunning [] (new maximum maxRunning now) :=
  ⟨sound_new now, logged_new now, fun _ _ _ member => absurd member List.not_mem_nil⟩

section

variable (kept : Kept redact maximum maxRunning past ops)
include kept

theorem Kept.synchronous {event : Event}
    (synchronous : ∀ earlier ∈ past ++ [event], earlier.Synchronous) :
    ops.Written ∧ event.Synchronous :=
  ⟨kept.written fun earlier member => synchronous earlier (List.mem_append_left _ member),
    synchronous event (List.mem_append_right _ (List.mem_singleton_self _))⟩

theorem Kept.sweep (event : Event) :
    Kept redact maximum maxRunning (past ++ [event]) ops.sweep where
  sound := kept.sound.sweep.mono event
  logged := kept.logged.frame rfl rfl (fun _ => rfl) fun _ queued => queued
  written synchronous := (kept.synchronous synchronous).1

theorem Kept.start {principal : Option String} {command reason : String} {timeout : Nat}
    {id : String} {auditing : Auditing} (new : id ∉ past.filterMap Event.drawnId) :
    Kept redact maximum maxRunning
      (past ++ [.start principal command reason timeout id auditing])
      (ops.start redact principal command reason timeout id auditing).1 := by
  rcases start_cases redact kept.sound principal command reason timeout id auditing new
    with same | ⟨written, rfl, few, idle, same⟩
  · rw [same]
    exact kept.sweep _
  · rw [same]
    have swept := kept.sound.sweep
    have coherent : Item.Coherent
        ⟨id, principal, command, timeout, .running, none, none, .queued⟩ := ⟨rfl, rfl⟩
    exact
      { sound := swept.opened few idle (fun operation begun => drawn_ne swept new begun)
          coherent ⟨command, reason, timeout, _, rfl⟩ _
        logged := (kept.logged.frame rfl rfl (fun _ => rfl) fun _ queued => queued :
          Logged redact ops.sweep).opened
        written := by
          intro synchronous other written' member
          obtain ⟨known, now⟩ := kept.synchronous synchronous
          rcases List.mem_cons.mp member with same | earlier
          · cases same
            exact now
          · exact known other written' earlier }

theorem Kept.change {operation : Nat} {item : Item} (event : Event)
    (live : (ops.item operation).chain ≠ .done)
    (request : item.request = (ops.item operation).request) (chain : item.chain ≠ .queued)
    (running : item.state = .running → (ops.item operation).state = .running)
    (coherent : item.Coherent) :
    Kept redact maximum maxRunning (past ++ [event]) (ops.change operation item) where
  sound := (kept.sound.change live request running coherent).mono event
  logged := kept.logged.change request chain
  written synchronous := (kept.synchronous synchronous).1

end

theorem Kept.record {operation : Nat} {auditing : Auditing}
    (kept : Kept redact maximum maxRunning (past ++ [.react operation auditing]) ops)
    (entry : AuditRecord) :
    Kept redact maximum maxRunning (past ++ [.react operation auditing])
      (ops.record entry auditing) where
  sound := kept.sound.record entry auditing
  logged := kept.logged.record entry auditing
  written synchronous := by
    refine (kept.written synchronous).record entry ?_
    rintro written rfl
    exact synchronous _ (List.mem_append_right _ (List.mem_singleton_self _))

section

variable (kept : Kept redact maximum maxRunning past ops)
include kept

theorem Kept.call {operation : Nat} {throws : Bool}
    (called : ops.call operation throws = some ops') :
    Kept redact maximum maxRunning (past ++ [.call operation throws]) ops' := by
  unfold Operations.call at called
  dsimp only at called
  split at called
  · rename_i queued
    cases called
    have live : (ops.item operation).chain ≠ .done := by
      rw [queued]
      exact nofun
    have begun := (kept.sound.live live).1
    have coherent := kept.sound.coherent operation begun
    unfold Item.Coherent at coherent
    rw [queued] at coherent
    have changed : Kept redact maximum maxRunning (past ++ [.call operation throws])
        (ops.change operation { ops.item operation with
          chain := if throws then .rejected else .executing }) := by
      refine kept.change _ live rfl ?_ id ?_
      · cases throws <;> exact nofun
      · cases throws
        · exact coherent
        · exact coherent.2
    refine ⟨{ changed.sound with }, ?_, ?_⟩
    · refine changed.logged.executed begun ?_ (kept.logged.waiting operation (.inr queued)) _ _
      rw [item_change, if_pos rfl]
      cases throws <;> exact nofun
    · intro synchronous entry written member
      rcases List.mem_cons.mp member with same | earlier
      · exact nomatch same
      · exact changed.written synchronous entry written earlier
  · exact nomatch called

theorem Kept.settle {operation : Nat} {settlement : Option (Option Result)}
    (settled : ops.settle operation settlement = some ops') :
    Kept redact maximum maxRunning (past ++ [.settle operation settlement]) ops' := by
  unfold Operations.settle at settled
  dsimp only at settled
  split at settled
  · rename_i executing
    cases settled
    have live : (ops.item operation).chain ≠ .done := by
      rw [executing]
      exact nofun
    have coherent := kept.sound.coherent operation (kept.sound.live live).1
    unfold Item.Coherent at coherent
    rw [executing] at coherent
    refine kept.change _ live rfl ?_ id ?_
    · cases settlement <;> exact nofun
    · cases settlement with
      | none => exact coherent.2
      | some result => exact coherent
  · exact nomatch settled

theorem Kept.react {operation : Nat} {auditing : Auditing}
    (reacted : ops.react operation auditing = some ops') :
    Kept redact maximum maxRunning (past ++ [.react operation auditing]) ops' := by
  have coherent (live : (ops.item operation).chain ≠ .done) :=
    kept.sound.coherent operation (kept.sound.live live).1
  unfold Operations.react at reacted
  unfold Item.Coherent at coherent
  dsimp only at reacted
  split at reacted
  all_goals rename_i chain
  all_goals rw [chain] at coherent
  · cases reacted
    exact kept.change _ (by rw [chain]; exact nofun) rfl nofun nofun (coherent nofun).2
  · cases reacted
    refine Kept.record ?_ _
    refine kept.change _ (by rw [chain]; exact nofun) rfl nofun nofun ?_
    exact ⟨.inl rfl, (coherent nofun).2⟩
  · cases reacted
    refine Kept.record ?_ _
    refine kept.change _ (by rw [chain]; exact nofun) rfl nofun nofun ?_
    exact ⟨.inr rfl, coherent nofun⟩
  · cases reacted
    exact kept.change _ (by rw [chain]; exact nofun) rfl nofun id (coherent nofun).1
  · exact nomatch reacted
  · exact nomatch reacted
  · exact nomatch reacted

/-- One step. -/
theorem Kept.step {event : Event}
    (new : ∀ id, event.drawnId = some id → id ∉ past.filterMap Event.drawnId)
    (stepped : ops.step redact event = some ops') :
    Kept redact maximum maxRunning (past ++ [event]) ops' := by
  cases event with
  | advance milliseconds =>
      cases stepped
      exact
        { sound := (kept.sound.advance milliseconds).mono _
          logged := kept.logged.frame rfl rfl (fun _ => rfl) fun _ queued => queued
          written := fun synchronous => (kept.synchronous synchronous).1 }
  | sweep =>
      cases stepped
      exact kept.sweep _
  | start principal command reason timeout id auditing =>
      cases stepped
      exact kept.start (new id rfl)
  | get id principal =>
      cases stepped
      exact
        { sound := kept.sound.mono _
          logged := kept.logged
          written := fun synchronous => (kept.synchronous synchronous).1 }
  | call operation throws => exact kept.call stepped
  | settle operation settlement => exact kept.settle stepped
  | react operation auditing => exact kept.react stepped

/-- All steps. -/
theorem Kept.run {events : List Event}
    (drawn : ((past ++ events).filterMap Event.drawnId).Nodup)
    (ran : ops.run redact events = some ops') :
    Kept redact maximum maxRunning (past ++ events) ops' := by
  induction events generalizing past ops with
  | nil =>
      cases ran
      rw [List.append_nil]
      exact kept
  | cons event rest ih =>
      obtain ⟨between, stepped, ran⟩ := Option.bind_eq_some_iff.mp ran
      rw [List.append_cons] at drawn ⊢
      refine ih (kept.step ?_ stepped) drawn ran
      intro id draws known
      rw [List.filterMap_append, List.filterMap_append, List.filterMap_cons_some draws] at drawn
      have apart := (List.nodup_append.mp (List.nodup_append.mp drawn).1).2.2
      exact apart id known id (List.mem_cons_self ..) rfl

end

/-! ## What a run keeps -/

theorem find_item (sound : Sound maximum maxRunning past ops) {operation : Nat}
    (member : operation ∈ ops.items) :
    (ops.items.find? fun other => (ops.item other).id == (ops.item operation).id) =
      some operation := by
  cases found : ops.items.find? fun other => (ops.item other).id == (ops.item operation).id with
  | none => exact absurd (beq_self_eq_true _) (List.find?_eq_none.mp found operation member)
  | some other =>
      have same := List.find?_some found
      rw [beq_iff_eq] at same
      rw [sound.distinct other (sound.begun other (List.mem_of_find?_eq_some found)) operation
        (sound.begun operation member) same]

theorem get_eq_ok {id : String} {principal : Option String} {operation : Nat}
    (got : ops.get id principal = .ok operation) :
    operation ∈ ops.items ∧ (ops.item operation).id = id ∧
      (ops.item operation).principal = principal := by
  unfold Operations.get at got
  split at got
  · exact nomatch got
  · rename_i other found
    dsimp only at got
    split at got
    · exact nomatch got
    · rename_i allowed
      cases got
      have same := List.find?_some found
      rw [beq_iff_eq] at same
      refine ⟨List.mem_of_find?_eq_some found, same, ?_⟩
      by_contra different
      exact allowed (.inl different)

theorem Kept.safe (kept : Kept redact maximum maxRunning past ops) :
    Safe redact maximum maxRunning past ops where
  few := kept.sound.few.trans_eq kept.sound.maximum
  bounded := kept.sound.bounded.trans_eq kept.sound.maxRunning
  unswept := by
    intro operation begun running
    by_contra gone
    have chain := (kept.sound.swept operation begun gone).1
    have settled := (kept.sound.coherent operation begun).settled (.inr chain)
    rw [running] at settled
    exact settled.elim nofun nofun
  once := kept.logged.once
  announced later earlier operation command timeout split :=
    (kept.logged.announced later earlier operation command timeout split).2
  written := by
    intro synchronous later earlier operation command timeout split
    obtain ⟨-, reason, written, member⟩ :=
      kept.logged.announced later earlier operation command timeout split
    have known := kept.written synchronous _ written (by
      rw [split]
      exact List.mem_append_right _ (List.mem_cons_of_mem _ member))
    exact ⟨reason, known ▸ member⟩
  settled operation begun := (kept.sound.coherent operation begun).settled
  kept := by
    intro operation begun settled unexpired
    have member : operation ∈ ops.items := by
      by_contra gone
      rw [(kept.sound.swept operation begun gone).2] at unexpired
      exact Bool.false_ne_true unexpired.symm
    unfold Operations.get
    rw [find_item kept.sound member]
    dsimp only
    rw [if_neg]
    rintro (other | ⟨-, expired⟩)
    · exact other rfl
    · rw [unexpired] at expired
      exact Bool.false_ne_true expired
  owned := by
    intro id principal operation got
    obtain ⟨member, rfl, rfl⟩ := get_eq_ok got
    exact kept.sound.drawn operation (kept.sound.begun operation member)

/-- Every run is safe whose drawn ids are distinct. -/
theorem safe_of_run {redact : String → String} {maximum maxRunning now : Nat}
    {events : List Event} {ops : Operations} (drawn : (events.filterMap Event.drawnId).Nodup)
    (ran : (new maximum maxRunning now).run redact events = some ops) :
    Safe redact maximum maxRunning events ops :=
  ((kept_new now).run drawn ran).safe

/-- A command that finishes and expires, beside one that throws. -/
def twoCommands : List Event :=
  [.start (some "alice") "uptime" "check" 5 "0a" (.returned true), .call 0 false,
    .start (some "bob") "false" "" 5 "0b" (.returned true), .sweep,
    .settle 0 (some (some ⟨some 0, false, false, "up"⟩)), .call 1 true, .react 0 (.returned true),
    .react 1 (.thrown "disk full"), .react 0 (.returned true), .advance 900001,
      .react 1 (.returned true),
    .sweep, .get "0b" (some "bob")]

theorem safe_of_run_twoCommands :
    ∃ ops, (new 100 8 0).run (fun text => text) twoCommands = some ops ∧ ops.items = [1] ∧
      Safe (fun text => text) 100 8 twoCommands ops := by
  have ran : ((new 100 8 0).run (fun text => text) twoCommands).any
      (fun ops => ops.items == [1]) = true := by decide
  obtain ⟨ops, ran, items⟩ := (Option.any_eq_true _ _).mp ran
  exact ⟨ops, ran, beq_iff_eq.mp items, safe_of_run (by decide) ran⟩

/-- `audit` returns a promise that is rejected; the command is executed. -/
def lostRecord : List Event :=
  [.start (some "alice") "uptime" "check" 5 "0a" (.returned false), .call 0 false]

theorem lostRecord_executes :
    ¬∀ events ops, (events.filterMap Event.drawnId).Nodup →
      (new 100 8 0).run (fun text => text) events = some ops →
      ops.ExecutesWritten fun text => text := by
  intro claimed
  have written := claimed lostRecord _ (by decide) rfl
  obtain ⟨reason, member⟩ := written [] _ 0 _ _ rfl
  rcases List.mem_cons.mp member with same | none
  · cases same
  · exact absurd none List.not_mem_nil

end Operations

end TennisAlerts.RemoteOps
