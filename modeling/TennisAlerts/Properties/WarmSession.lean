import TennisAlerts.Sender.WarmSession

/-!
# The warm session owns the phone

Whenever `device_lock` is free, a retained operator has the lease of its device and one timer of
the current generation, and without an operator there is no lease.  What a turn relies on while
the lock is held depends on where it stands.  A timer that was cancelled too late finds another
generation, since every request moves the generation on before anything else.
-/

namespace TennisAlerts.Sender.Warm

/-- The last timer that was armed, and the operator it was armed for. -/
def lastArmed : List Entry → Option (Nat × Operator)
  | [] => none
  | .armed timer operator :: _ => some (timer, operator)
  | _ :: log => lastArmed log

/-- Who holds the lock at the end of a history. -/
def holderAt : List Entry → Option Holder
  | [] => none
  | .locked holder :: _ => some holder
  | .unlocked _ :: _ => none
  | _ :: log => holderAt log

/-- Every operator that a timer closes is closed while that timer holds the lock, and no timer
was armed since this one was armed for it. -/
def TimersClose (log : List Entry) : Prop :=
  ∀ later timer operator earlier, log = later ++ .closed (.timer timer) operator :: earlier →
    holderAt earlier = some (.timer timer) ∧ lastArmed earlier = some (timer, operator)

theorem timersClose_cons {log : List Entry} {entry : Entry} (close : TimersClose log)
    (here : ∀ timer operator, entry = .closed (.timer timer) operator →
      holderAt log = some (.timer timer) ∧ lastArmed log = some (timer, operator)) :
    TimersClose (entry :: log) := by
  intro later timer operator earlier split
  cases later with
  | nil =>
      obtain ⟨rfl, rfl⟩ := List.cons.inj split
      exact here timer operator rfl
  | cons first later => exact close later timer operator earlier (List.cons.inj split).2

namespace Runtime

/-- A timer of the current generation that is armed or waits for the lock. -/
def Current (runtime : Runtime) (number : Nat) : Prop :=
  (runtime.timer number).generation = runtime.warmGeneration ∧
    ((runtime.timer number).state = .armed ∨ (runtime.timer number).state = .waiting)

/-- The session owns the phone. -/
structure Owned (runtime : Runtime) : Prop where
  retained : runtime.deviceLock = none → ∀ operator, runtime.warmOperator = some operator →
    runtime.deviceLease = some operator.device ∧
      runtime.kernel operator.device = some .sender ∧ ∃! number, runtime.Current number
  released : runtime.deviceLock = none → runtime.warmOperator = none →
    runtime.deviceLease = none ∧ ∀ device, runtime.kernel device ≠ some .sender
  timers : TimersClose runtime.log

/-! ## Invariants -/

/-- What holds at every time. -/
structure Sound (runtime : Runtime) : Prop where
  future : ∀ number, runtime.started ≤ number → (runtime.timer number).state = .finished
  ordered : ∀ first second, first < second → second < runtime.started →
    (runtime.timer first).generation < (runtime.timer second).generation
  bounded : ∀ number, number < runtime.started →
    (runtime.timer number).generation ≤ runtime.warmGeneration
  lease : ∀ device, runtime.kernel device = some .sender ↔ runtime.deviceLease = some device
  lock : holderAt runtime.log = runtime.deviceLock.map Turn.holder
  timers : TimersClose runtime.log

/-- The lease of a retained operator is held. -/
def Guarded (runtime : Runtime) : Prop :=
  ∀ operator, runtime.warmOperator = some operator →
    runtime.deviceLease = some operator.device

/-- The lease is held for a retained operator only. -/
def Leased (runtime : Runtime) : Prop :=
  runtime.Guarded ∧ (runtime.warmOperator = none → runtime.deviceLease = none)

/-- A retained operator has a timer, which has not been called yet or is the one `called`. -/
def Timed (runtime : Runtime) (called : Option Nat) : Prop :=
  ∀ operator, runtime.warmOperator = some operator →
    ∃ number, number < runtime.started ∧
      (runtime.timer number).generation = runtime.warmGeneration ∧
      lastArmed runtime.log = some (number, operator) ∧
      ((runtime.timer number).state ≠ .finished ∨ called = some number)

/-- What a request relies on at each of its phases. -/
def PhaseHolds (runtime : Runtime) (device : String) : Phase → Prop
  | .cancelTimer => runtime.Leased ∧ runtime.Timed none
  | .preparePayload => runtime.Leased
  | .findOperator _ => runtime.Leased
  | .acquireLease _ existing =>
      runtime.Leased ∧ runtime.warmOperator = existing ∧
        ∀ operator, existing = some operator → operator.device = device
  | .claimKey _ existing =>
      runtime.warmOperator = existing ∧ runtime.deviceLease = some device ∧
        ∀ operator, existing = some operator → operator.device = device
  | .sendMessages _ existing =>
      runtime.warmOperator = existing ∧ runtime.deviceLease = some device ∧
        ∀ operator, existing = some operator → operator.device = device
  | .finishKey => runtime.Guarded
  | .settle => runtime.Guarded

/-- What the holder of the lock relies on. -/
def TurnHolds (runtime : Runtime) : Option Turn → Prop
  | none => runtime.Leased ∧ runtime.Timed none
  | some (.send _ device phase) => runtime.PhaseHolds device phase
  | some (.status _) => runtime.Leased ∧ runtime.Timed none
  | some (.timer number) =>
      number < runtime.started ∧ runtime.Leased ∧ runtime.Timed (some number)
  | some .reset => runtime.Leased ∧ runtime.Timed none
  | some (.leave _) => runtime.Leased ∧ runtime.Timed none

/-- The invariant. -/
structure Kept (runtime : Runtime) : Prop where
  sound : runtime.Sound
  turn : runtime.TurnHolds runtime.deviceLock

/-- Two timers of one generation are the same. -/
theorem Sound.unique {runtime : Runtime} (sound : runtime.Sound) {first second : Nat}
    (firstSmall : first < runtime.started) (secondSmall : second < runtime.started)
    (same : (runtime.timer first).generation = (runtime.timer second).generation) :
    first = second := by
  obtain before | equal | behind := Nat.lt_trichotomy first second
  · have order := sound.ordered first second before secondSmall
    omega
  · exact equal
  · have order := sound.ordered second first behind firstSmall
    omega

theorem Kept.owned {runtime : Runtime} (kept : runtime.Kept) : runtime.Owned where
  retained := by
    intro free operator retained
    have turn := kept.turn
    rw [free] at turn
    obtain ⟨⟨guarded, -⟩, timed⟩ := turn
    obtain ⟨number, small, generation, -, live⟩ := timed operator retained
    have lease := guarded operator retained
    refine ⟨lease, (kept.sound.lease _).mpr lease, number, ⟨generation, ?_⟩, ?_⟩
    · cases state : (runtime.timer number).state with
      | armed => exact Or.inl rfl
      | waiting => exact Or.inr rfl
      | finished => simp [state] at live
    · rintro other ⟨otherGeneration, otherLive⟩
      have otherSmall : other < runtime.started := by
        by_contra large
        have finished := kept.sound.future other (by omega)
        simp [finished] at otherLive
      exact kept.sound.unique otherSmall small (otherGeneration.trans generation.symm)
  released := by
    intro free nobody
    have turn := kept.turn
    rw [free] at turn
    have none_leased := turn.1.2 nobody
    refine ⟨none_leased, fun device sender => ?_⟩
    rw [kept.sound.lease, none_leased] at sender
    cases sender
  timers := kept.sound.timers

/-! ## Operations -/

variable {runtime : Runtime}

theorem IdleTimer.generation_cancel (timer : IdleTimer) :
    timer.cancel.generation = timer.generation := by
  rw [IdleTimer.cancel]
  split <;> rfl

theorem IdleTimer.cancel_finished {timer : IdleTimer} (finished : timer.state = .finished) :
    timer.cancel.state = .finished := by
  rw [IdleTimer.cancel, if_neg (by simp [finished]), finished]

theorem cancel_generation (runtime : Runtime) (number : Nat) :
    (runtime.cancelWarmIdleTimer.timer number).generation =
      (runtime.timer number).generation := by
  rw [cancelWarmIdleTimer]
  dsimp only
  cases runtime.warmIdleTimer with
  | none => rfl
  | some idle =>
      dsimp only
      by_cases same : number = idle
      · subst same
        rw [Function.update_self, IdleTimer.generation_cancel]
      · rw [Function.update_of_ne same]

theorem Sound.cancel (sound : runtime.Sound) : runtime.cancelWarmIdleTimer.Sound where
  future := by
    intro number large
    have finished := sound.future number large
    rw [cancelWarmIdleTimer]
    dsimp only
    cases runtime.warmIdleTimer with
    | none => exact finished
    | some idle =>
        dsimp only
        by_cases same : number = idle
        · subst same
          rw [Function.update_self]
          exact IdleTimer.cancel_finished finished
        · rw [Function.update_of_ne same]
          exact finished
  ordered := by
    intro first second before small
    rw [cancel_generation, cancel_generation]
    exact sound.ordered first second before small
  bounded := by
    intro number small
    rw [cancel_generation]
    exact Nat.le_succ_of_le (sound.bounded number small)
  lease := sound.lease
  lock := sound.lock
  timers := sound.timers

/-- The timers and the locks do not depend on the operator. -/
theorem Sound.withOperator (sound : runtime.Sound) (operator : Option Operator) (url : String)
    (operators : Nat) :
    ({ runtime with
      warmOperator := operator, warmAppiumUrl := url, operators := operators } : Runtime).Sound :=
  ⟨sound.future, sound.ordered, sound.bounded, sound.lease, sound.lock, sound.timers⟩

theorem Sound.releaseLease (sound : runtime.Sound) : runtime.releaseLease.Sound := by
  rw [Runtime.releaseLease]
  cases leased : runtime.deviceLease with
  | none => exact sound
  | some device =>
      refine ⟨sound.future, sound.ordered, sound.bounded, ?_, sound.lock, sound.timers⟩
      intro other
      have before := sound.lease other
      rw [leased] at before
      by_cases same : other = device
      · subst same
        simp
      · have different : ¬ device = other := fun equal => same equal.symm
        simp only [Function.update_of_ne same, reduceCtorEq, iff_false]
        simpa [different] using before

/-- An operator is closed by the holder of the lock; a timer closes what it was armed for. -/
theorem Sound.close (sound : runtime.Sound) {holder : Holder} {operator : Option Operator}
    (called : ∀ number, holder = .timer number → holderAt runtime.log = some holder ∧
      ∀ closed, operator = some closed → lastArmed runtime.log = some (number, closed)) :
    (runtime.close holder operator).Sound := by
  cases operator with
  | none => exact sound
  | some operator =>
      refine ⟨sound.future, sound.ordered, sound.bounded, sound.lease, sound.lock, ?_⟩
      apply timersClose_cons sound.timers
      intro timer closed same
      cases same
      obtain ⟨held, armed⟩ := called timer rfl
      exact ⟨held, armed operator rfl⟩

theorem Sound.discard (sound : runtime.Sound) {holder : Holder}
    (called : ∀ number, holder = .timer number → holderAt runtime.log = some holder ∧
      ∀ closed, runtime.warmOperator = some closed →
        lastArmed runtime.log = some (number, closed)) :
    (runtime.discardWarmOperator holder).Sound := by
  rw [discardWarmOperator]
  apply Sound.releaseLease
  apply Sound.close
  · exact sound.cancel.withOperator none "" runtime.operators
  · exact called

theorem close_fields (runtime : Runtime) (holder : Holder) (operator : Option Operator) :
    (runtime.close holder operator).warmOperator = runtime.warmOperator ∧
      (runtime.close holder operator).deviceLease = runtime.deviceLease ∧
      (runtime.close holder operator).deviceLock = runtime.deviceLock := by
  cases operator <;> exact ⟨rfl, rfl, rfl⟩

/-- Without an operator nothing is leased. -/
theorem discard_fields (runtime : Runtime) (holder : Holder) :
    (runtime.discardWarmOperator holder).warmOperator = none ∧
      (runtime.discardWarmOperator holder).deviceLease = none := by
  rw [discardWarmOperator]
  dsimp only
  rw [Runtime.releaseLease]
  split
  · exact ⟨(close_fields _ holder _).1, rfl⟩
  · next unleased => exact ⟨(close_fields _ holder _).1, unleased⟩

theorem leased_discard (runtime : Runtime) (holder : Holder) (called : Option Nat) :
    (runtime.discardWarmOperator holder).Leased ∧
      (runtime.discardWarmOperator holder).Timed called := by
  obtain ⟨nobody, unleased⟩ := discard_fields runtime holder
  refine ⟨⟨?_, fun _ => unleased⟩, ?_⟩
  · intro operator retained
    rw [nobody] at retained
    cases retained
  · intro operator retained
    rw [nobody] at retained
    cases retained

/-- A new timer is armed for the retained operator. -/
theorem Sound.arm (sound : runtime.Sound) : runtime.armWarmIdleTimer.Sound := by
  have cancelled := sound.cancel
  rw [armWarmIdleTimer]
  split
  · exact cancelled
  · next operator retained =>
      refine ⟨?_, ?_, ?_, cancelled.lease, cancelled.lock, ?_⟩
      · intro number large
        have different : number ≠ runtime.cancelWarmIdleTimer.started := by
          dsimp only at large
          omega
        dsimp only
        rw [Function.update_of_ne different]
        exact cancelled.future number (by dsimp only at large; omega)
      · intro first second before small
        dsimp only at small ⊢
        have different : first ≠ runtime.cancelWarmIdleTimer.started := by omega
        rw [Function.update_of_ne different]
        by_cases last : second = runtime.cancelWarmIdleTimer.started
        · subst last
          rw [Function.update_self, cancel_generation]
          exact Nat.lt_succ_of_le (sound.bounded first before)
        · rw [Function.update_of_ne last]
          exact cancelled.ordered first second before (by omega)
      · intro number small
        dsimp only at small ⊢
        by_cases last : number = runtime.cancelWarmIdleTimer.started
        · subst last
          simp
        · rw [Function.update_of_ne last]
          exact cancelled.bounded number (by omega)
      · apply timersClose_cons cancelled.timers
        intro timer closed same
        cases same

theorem leased_arm (guarded : runtime.Guarded) (retained : runtime.warmOperator ≠ none) :
    runtime.armWarmIdleTimer.Leased ∧ runtime.armWarmIdleTimer.Timed none := by
  obtain ⟨operator, is_retained⟩ := Option.ne_none_iff_exists'.mp retained
  have armed : runtime.armWarmIdleTimer =
      { runtime.cancelWarmIdleTimer with
        warmIdleTimer := some runtime.started
        started := runtime.started + 1
        timer := Function.update runtime.cancelWarmIdleTimer.timer runtime.started
          ⟨runtime.warmGeneration + 1, .armed⟩
        log := .armed runtime.started operator :: runtime.log } := by
    rw [armWarmIdleTimer]
    dsimp only
    have same : runtime.cancelWarmIdleTimer.warmOperator = some operator := is_retained
    rw [same]
    rfl
  rw [armed]
  refine ⟨⟨guarded, fun nobody => absurd nobody retained⟩, ?_⟩
  intro other same
  have other_eq : operator = other := Option.some.inj (is_retained.symm.trans same)
  subst other_eq
  refine ⟨runtime.started, Nat.lt_succ_self _, ?_, rfl, Or.inl ?_⟩
  · simp [cancelWarmIdleTimer]
  · simp

theorem holderAt_close (runtime : Runtime) (holder : Holder) (operator : Option Operator) :
    holderAt (runtime.close holder operator).log = holderAt runtime.log := by
  cases operator <;> rfl

theorem holderAt_discard (runtime : Runtime) (holder : Holder) :
    holderAt (runtime.discardWarmOperator holder).log = holderAt runtime.log := by
  rw [discardWarmOperator]
  dsimp only
  rw [Runtime.releaseLease]
  split <;> exact holderAt_close _ holder _

theorem holderAt_arm (runtime : Runtime) :
    holderAt runtime.armWarmIdleTimer.log = holderAt runtime.log := by
  rw [armWarmIdleTimer]
  split <;> rfl

/-! ## The lock -/

theorem Sound.enter (sound : runtime.Sound) (turn : Turn) : (runtime.enter turn).Sound := by
  refine ⟨sound.future, sound.ordered, sound.bounded, sound.lease, rfl, ?_⟩
  apply timersClose_cons sound.timers
  intro timer operator same
  cases same

theorem Sound.leave (sound : runtime.Sound) (holder : Holder) :
    (runtime.leave holder).Sound := by
  refine ⟨sound.future, sound.ordered, sound.bounded, sound.lease, rfl, ?_⟩
  apply timersClose_cons sound.timers
  intro timer operator same
  cases same

/-- A turn relies on the operator, its lease and its timer only. -/
theorem TurnHolds.keep {next : Runtime} {turn : Option Turn} (holds : runtime.TurnHolds turn)
    (operator : next.warmOperator = runtime.warmOperator)
    (lease : next.deviceLease = runtime.deviceLease) (started : next.started = runtime.started)
    (timed : ∀ called, runtime.Timed called → next.Timed called) : next.TurnHolds turn := by
  have guarded : runtime.Guarded → next.Guarded := by
    intro guarded
    rw [Guarded, operator, lease]
    exact guarded
  have leased : runtime.Leased → next.Leased := by
    intro leased
    refine ⟨guarded leased.1, ?_⟩
    rw [operator, lease]
    exact leased.2
  cases turn with
  | none => exact ⟨leased holds.1, timed none holds.2⟩
  | some turn =>
      cases turn with
      | send request device phase =>
          cases phase with
          | cancelTimer => exact ⟨leased holds.1, timed none holds.2⟩
          | preparePayload => exact leased holds
          | findOperator url => exact leased holds
          | acquireLease url existing =>
              exact ⟨leased holds.1, operator.trans holds.2.1, holds.2.2⟩
          | claimKey url existing =>
              exact ⟨operator.trans holds.1, lease.trans holds.2.1, holds.2.2⟩
          | sendMessages url existing =>
              exact ⟨operator.trans holds.1, lease.trans holds.2.1, holds.2.2⟩
          | finishKey => exact guarded holds
          | settle => exact guarded holds
      | status request => exact ⟨leased holds.1, timed none holds.2⟩
      | timer number =>
          exact ⟨started ▸ holds.1, leased holds.2.1, timed (some number) holds.2.2⟩
      | reset => exact ⟨leased holds.1, timed none holds.2⟩
      | leave holder => exact ⟨leased holds.1, timed none holds.2⟩

theorem Sound.kept_goOn (sound : runtime.Sound) {turn : Turn}
    (held : holderAt runtime.log = some turn.holder)
    (holds : runtime.TurnHolds (some turn)) : (runtime.goOn turn).Kept where
  sound := ⟨sound.future, sound.ordered, sound.bounded, sound.lease, held, sound.timers⟩
  turn := holds.keep rfl rfl rfl fun _ timed => timed

theorem Kept.enter (kept : runtime.Kept) (free : runtime.deviceLock = none) {turn : Turn}
    (holds : runtime.Leased ∧ runtime.Timed none → runtime.TurnHolds (some turn)) :
    (runtime.enter turn).Kept := by
  have idle := kept.turn
  rw [free] at idle
  exact ⟨kept.sound.enter turn, (holds idle).keep rfl rfl rfl fun _ timed => timed⟩

/-! ## A request -/

/-- An operator that can be used belongs to the device of the request. -/
theorem leased_usable (sound : runtime.Sound) (leased : runtime.Leased) (request : Nat)
    (device url : String) :
    let found := runtime.usableWarmOperator (.send request) device url
    found.1.Sound ∧ holderAt found.1.log = holderAt runtime.log ∧ found.1.Leased ∧
      found.1.warmOperator = found.2 ∧
      ∀ operator, found.2 = some operator → operator.device = device := by
  rw [usableWarmOperator]
  cases retained : runtime.warmOperator with
  | none => exact ⟨sound, rfl, leased, retained, fun _ same => nomatch same⟩
  | some operator =>
      dsimp only
      split
      · refine ⟨sound.discard fun _ same => (nomatch same), holderAt_discard _ _,
          (leased_discard runtime _ none).1, (discard_fields runtime _).1, ?_⟩
        intro other same
        cases same
      · next usable =>
          refine ⟨sound, rfl, leased, retained, ?_⟩
          intro other same
          cases same
          by_contra different
          exact usable (Or.inr different)

/-- A free device is taken. -/
theorem Sound.acquire (sound : runtime.Sound) (unleased : runtime.deviceLease = none)
    (device : String) :
    ({ runtime with
      deviceLease := some device
      kernel := Function.update runtime.kernel device (some .sender) } : Runtime).Sound := by
  refine ⟨sound.future, sound.ordered, sound.bounded, ?_, sound.lock, sound.timers⟩
  intro other
  have before := sound.lease other
  rw [unleased] at before
  by_cases same : other = device
  · subst same
    simp
  · have different : ¬ device = other := fun equal => same equal.symm
    simp only [Function.update_of_ne same, Option.some.injEq, different, iff_false]
    simpa using before

/-- The operator of a request is retained under the lease of its device. -/
theorem guarded_retain (sound : runtime.Sound) {request : Nat} {device url : String}
    {existing : Option Operator} {result : SentWith} {next : Runtime}
    (lease : runtime.deviceLease = some device)
    (own : ∀ operator, existing = some operator → operator.device = device)
    (retained : runtime.retain (.send request) device url existing result = some next) :
    next.Sound ∧ holderAt next.log = holderAt runtime.log ∧ next.Guarded := by
  have closed : (runtime.close (.send request) existing).Sound :=
    sound.close fun _ same => by cases same
  have leased : (runtime.close (.send request) existing).deviceLease = some device :=
    (close_fields runtime _ existing).2.1.trans lease
  cases result with
  | existing =>
      cases existing with
      | none => cases retained
      | some operator =>
          cases retained
          refine ⟨sound.withOperator _ url runtime.operators, rfl, ?_⟩
          intro other same
          cases same
          exact lease.trans (congrArg some (own operator rfl).symm)
  | fresh =>
      cases retained
      refine ⟨closed.withOperator _ url _, holderAt_close _ _ _, ?_⟩
      intro other same
      cases same
      exact leased
  | nothing =>
      cases retained
      refine ⟨closed.withOperator _ url _, holderAt_close _ _ _, ?_⟩
      intro other same
      cases same

/-- Every phase of a request leaves what the next one relies on. -/
theorem Kept.stepSend (kept : runtime.Kept) {request : Nat} {device : String} {phase : Phase}
    {answer : Answer} {next : Runtime}
    (locked : runtime.deviceLock = some (.send request device phase))
    (stepped : runtime.stepSend request device phase answer = some next) : next.Kept := by
  obtain ⟨sound, holds⟩ := kept
  have held := sound.lock
  rw [locked] at holds held
  cases phase with
  | cancelTimer =>
      cases answer with
      | done =>
          cases stepped
          exact sound.cancel.kept_goOn held holds.1
      | _ => cases stepped
  | preparePayload =>
      cases answer with
      | raised =>
          cases stepped
          exact sound.kept_goOn held holds.1
      | url value =>
          cases stepped
          exact sound.kept_goOn held holds
      | _ => cases stepped
  | findOperator url =>
      cases answer with
      | done =>
          cases stepped
          obtain ⟨sound, log, found⟩ := leased_usable sound holds request device url
          exact sound.kept_goOn (log.trans held) found
      | _ => cases stepped
  | acquireLease url existing =>
      obtain ⟨leased, operator, own⟩ := holds
      cases answer with
      | done =>
          rw [Runtime.stepSend] at stepped
          split at stepped
          · next has_lease =>
              cases stepped
              refine sound.kept_goOn held ⟨operator, ?_, own⟩
              cases existing with
              | none =>
                  rw [leased.2 operator] at has_lease
                  cases has_lease
              | some operator' =>
                  exact (leased.1 operator' operator).trans (congrArg some (own operator' rfl))
          · next no_lease =>
              split at stepped
              · cases stepped
                have unleased := Option.not_isSome_iff_eq_none.mp no_lease
                exact (sound.acquire unleased device).kept_goOn held ⟨operator, rfl, own⟩
              · cases stepped
      | leaseTimeout =>
          rw [Runtime.stepSend] at stepped
          split at stepped <;> cases stepped
          exact sound.kept_goOn held leased.1
      | raised =>
          rw [Runtime.stepSend] at stepped
          split at stepped <;> cases stepped
          exact sound.kept_goOn held leased.1
      | _ => cases stepped
  | claimKey url existing =>
      obtain ⟨operator, lease, own⟩ := holds
      have guarded : runtime.Guarded := by
        intro retained same
        rw [lease, own retained (operator.symm.trans same)]
      cases answer with
      | raised =>
          cases stepped
          exact sound.kept_goOn held guarded
      | claim claimed =>
          rw [Runtime.stepSend] at stepped
          split at stepped <;> cases stepped
          · exact sound.kept_goOn held ⟨operator, lease, own⟩
          · exact sound.kept_goOn held guarded
      | _ => cases stepped
  | sendMessages url existing =>
      obtain ⟨operator, lease, own⟩ := holds
      cases answer with
      | raised =>
          cases stepped
          refine (sound.discard fun _ same => by cases same).kept_goOn ?_ ?_
          · exact (holderAt_discard runtime _).trans held
          · exact (leased_discard runtime _ none).1.1
      | sent result =>
          rw [Runtime.stepSend] at stepped
          obtain ⟨retained, isRetained, rfl⟩ := Option.map_eq_some_iff.mp stepped
          obtain ⟨sound, log, guarded⟩ := guarded_retain sound lease own isRetained
          exact sound.kept_goOn (log.trans held) guarded
      | _ => cases stepped
  | finishKey =>
      cases answer with
      | raised =>
          cases stepped
          exact sound.kept_goOn held holds
      | done =>
          cases stepped
          exact sound.kept_goOn held holds
      | _ => cases stepped
  | settle =>
      cases answer with
      | done =>
          rw [Runtime.stepSend] at stepped
          split at stepped <;> cases stepped
          · refine (sound.discard fun _ same => by cases same).kept_goOn ?_ ?_
            · exact (holderAt_discard runtime _).trans held
            · exact leased_discard runtime _ none
          · next retained =>
              refine sound.arm.kept_goOn ?_ ?_
              · exact (holderAt_arm runtime).trans held
              · exact leased_arm holds retained
      | _ => cases stepped

/-! ## Runs -/

/-- A timer of the current generation is the one that was armed last. -/
theorem Kept.stepTimer (kept : runtime.Kept) {number : Nat} {answer : Answer} {next : Runtime}
    (locked : runtime.deviceLock = some (.timer number))
    (stepped : runtime.stepTurn (.timer number) answer = some next) : next.Kept := by
  obtain ⟨sound, holds⟩ := kept
  have held := sound.lock
  rw [locked] at holds held
  obtain ⟨small, leased, timed⟩ := holds
  rw [stepTurn] at stepped
  split at stepped
  · next current =>
      cases stepped
      refine (sound.discard ?_).kept_goOn ?_ ?_
      · intro called same
        cases same
        refine ⟨held, fun operator retained => ?_⟩
        obtain ⟨armed, armedSmall, generation, last, -⟩ := timed operator retained
        have same_timer := sound.unique small armedSmall (current.trans generation.symm)
        rw [same_timer]
        exact last
      · exact (holderAt_discard runtime _).trans held
      · exact leased_discard runtime _ none
  · next stale =>
      cases stepped
      refine sound.kept_goOn held ⟨leased, ?_⟩
      intro operator retained
      obtain ⟨armed, armedSmall, generation, last, live⟩ := timed operator retained
      refine ⟨armed, armedSmall, generation, last, Or.inl ?_⟩
      obtain live | called := live
      · exact live
      · cases called
        exact absurd generation stale

theorem Kept.stepTurn (kept : runtime.Kept) {turn : Turn} {answer : Answer} {next : Runtime}
    (locked : runtime.deviceLock = some turn)
    (stepped : runtime.stepTurn turn answer = some next) : next.Kept := by
  have sound := kept.sound
  have holds := kept.turn
  have held := sound.lock
  rw [locked] at holds held
  cases turn with
  | send request device phase => exact kept.stepSend locked stepped
  | status request =>
      cases stepped
      exact sound.kept_goOn held holds
  | timer number => exact kept.stepTimer locked stepped
  | reset =>
      cases stepped
      refine (sound.discard fun _ same => by cases same).kept_goOn ?_ ?_
      · exact (holderAt_discard runtime _).trans held
      · exact leased_discard runtime _ none
  | leave holder =>
      cases stepped
      exact ⟨sound.leave holder, holds⟩

/-- A timer fires or is called. -/
theorem Sound.withTimer (sound : runtime.Sound) {number : Nat} (small : number < runtime.started)
    (state : TimerState) :
    ({ runtime with
      timer := Function.update runtime.timer number
        { runtime.timer number with state := state } } : Runtime).Sound := by
  have generation : ∀ other, (Function.update runtime.timer number
      { runtime.timer number with state := state } other).generation =
        (runtime.timer other).generation := by
    intro other
    by_cases same : other = number
    · subst same
      rw [Function.update_self]
    · rw [Function.update_of_ne same]
  refine ⟨?_, ?_, ?_, sound.lease, sound.lock, sound.timers⟩
  · intro other large
    have different : other ≠ number := by
      dsimp only at large
      omega
    dsimp only
    rw [Function.update_of_ne different]
    exact sound.future other large
  · intro first second before secondSmall
    dsimp only
    rw [generation, generation]
    exact sound.ordered first second before secondSmall
  · intro other otherSmall
    dsimp only
    rw [generation]
    exact sound.bounded other otherSmall

theorem Sound.small (sound : runtime.Sound) {number : Nat}
    (live : (runtime.timer number).state ≠ .finished) : number < runtime.started := by
  by_contra large
  exact live (sound.future number (by omega))

/-- Another worker takes a free device or gives it back. -/
theorem Sound.withKernel (sound : runtime.Sound) {device : String} {owner : Option Owner}
    (before : runtime.kernel device ≠ some .sender) (after : owner ≠ some .sender) :
    ({ runtime with kernel := Function.update runtime.kernel device owner } : Runtime).Sound := by
  refine ⟨sound.future, sound.ordered, sound.bounded, ?_, sound.lock, sound.timers⟩
  intro other
  by_cases same : other = device
  · subst same
    dsimp only
    rw [Function.update_self, ← sound.lease]
    exact iff_of_false after before
  · dsimp only
    rw [Function.update_of_ne same]
    exact sound.lease other

theorem Kept.step (kept : runtime.Kept) {move : Move} {next : Runtime}
    (stepped : runtime.step move = some next) : next.Kept := by
  have sound := kept.sound
  cases move with
  | send request device allowedDevice =>
      rw [Runtime.step] at stepped
      split at stepped
      · cases stepped
        exact kept
      · split at stepped <;> cases stepped
        next free => exact kept.enter free fun idle => idle
  | status request =>
      rw [Runtime.step] at stepped
      split at stepped <;> cases stepped
      · next free => exact kept.enter free fun idle => idle
      · exact kept
  | reset =>
      rw [Runtime.step] at stepped
      split at stepped <;> cases stepped
      next free => exact kept.enter free fun idle => idle
  | fire number =>
      rw [Runtime.step] at stepped
      split at stepped <;> cases stepped
      next armed =>
        have small : number < runtime.started := sound.small (by simp [armed])
        refine ⟨sound.withTimer small .waiting, kept.turn.keep rfl rfl rfl ?_⟩
        intro called timed operator retained
        obtain ⟨timer, timerSmall, generation, last, live⟩ := timed operator retained
        refine ⟨timer, timerSmall, ?_, last, ?_⟩
        · by_cases same : timer = number
          · subst same
            simpa using generation
          · simpa [Function.update_of_ne same] using generation
        · by_cases same : timer = number
          · subst same
            simp
          · simpa [Function.update_of_ne same] using live
  | expire number =>
      rw [Runtime.step] at stepped
      split at stepped <;> cases stepped
      next ready =>
        obtain ⟨waiting, free⟩ := ready
        have small : number < runtime.started := sound.small (by simp [waiting])
        have idle := kept.turn
        rw [free] at idle
        obtain ⟨leased, timed⟩ := idle
        refine ⟨(sound.withTimer small .finished).enter _, ⟨small, leased, ?_⟩⟩
        intro operator retained
        obtain ⟨timer, timerSmall, generation, last, live⟩ := timed operator retained
        refine ⟨timer, timerSmall, ?_, last, ?_⟩
        · by_cases same : timer = number
          · subst same
            simpa [Runtime.enter] using generation
          · simpa [Runtime.enter, Function.update_of_ne same] using generation
        · by_cases same : timer = number
          · exact Or.inr (congrArg some same.symm)
          · left
            simpa [Runtime.enter, Function.update_of_ne same] using live
  | proceed answer =>
      obtain ⟨turn, locked, stepped⟩ := Option.bind_eq_some_iff.mp stepped
      exact kept.stepTurn locked stepped
  | occupy device =>
      rw [Runtime.step] at stepped
      split at stepped <;> cases stepped
      next free =>
        refine ⟨sound.withKernel (by simp [free]) (by simp), ?_⟩
        exact kept.turn.keep rfl rfl rfl fun _ timed => timed
  | vacate device =>
      rw [Runtime.step] at stepped
      split at stepped <;> cases stepped
      next busy =>
        refine ⟨sound.withKernel (by simp [busy]) (by simp), ?_⟩
        exact kept.turn.keep rfl rfl rfl fun _ timed => timed

theorem kept_start (busy : String → Bool) : (start busy).Kept where
  sound := by
    refine ⟨fun _ _ => rfl, ?_, ?_, ?_, rfl, ?_⟩
    · intro first second _ small
      cases small
    · intro number small
      cases small
    · intro device
      dsimp only [start]
      split <;> simp
    · intro later timer operator earlier split
      simp [start] at split
  turn := by
    refine ⟨⟨?_, fun _ => rfl⟩, ?_⟩
    · intro operator retained
      cases retained
    · intro operator retained
      cases retained

theorem Kept.run (kept : runtime.Kept) (moves : List Move) : (runtime.run moves).Kept := by
  induction moves generalizing runtime with
  | nil => exact kept
  | cons move moves ih =>
      apply ih
      dsimp only
      cases stepped : runtime.step move with
      | none => exact kept
      | some next => exact kept.step stepped

/-- The warm session owns the phone after every run. -/
theorem warmSession_owned (busy : String → Bool) (moves : List Move) :
    ((start busy).run moves).Owned :=
  ((kept_start busy).run moves).owned

/-- A first request leaves its operator behind, which the idle timer closes later. -/
example :
    let sent := (start fun _ => false).run
      [.send 1 "phone" "phone", .proceed .done, .proceed (.url "appium"), .proceed .done,
        .proceed .done, .proceed (.claim true), .proceed (.sent .fresh), .proceed .done,
        .proceed .done, .proceed .done]
    let expired := sent.run [.fire 0, .expire 0, .proceed .done, .proceed .done]
    sent.deviceLock = none ∧ sent.warmOperator = some ⟨"phone", 0⟩ ∧
      sent.deviceLease = some "phone" ∧ expired.warmOperator = none ∧
      expired.deviceLease = none := by
  decide

end Runtime

end TennisAlerts.Sender.Warm
