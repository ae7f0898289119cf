import TennisAlerts.PiHost.DagGuard

/-!
# The fence of the paused DAGs

A proof is issued only between two empty counts under one pause and the end of its
lease: nothing is restored before the lease ends, unless the guard was released.  At
the exit what the pause recorded is restored, or that failed at every look at the clock
up to the end of a minute.
-/

namespace TennisAlerts.PiHost.DagGuard

open TennisAlerts.Concurrent

/-! ## Histories -/

/-- The state of the latest pause that no restoration has lifted. -/
def inForce : List Event → Option PauseState
  | [] => none
  | .paused state :: _ => some state
  | .restoring _ (some true) _ :: _ => none
  | _ :: older => inForce older

/-- The deadline of the proof. -/
def drainedUntil : List Event → Option Int
  | [] => none
  | .drained _ deadline :: _ => some deadline
  | _ :: older => drainedUntil older

/-- A restoration that failed lifts nothing. -/
theorem inForce_restoring {older : List Event} {state : PauseState} {result : Option Bool}
    {time : Int} (failed : result ≠ some true) :
    inForce (.restoring state result time :: older) = inForce older := by
  cases result with
  | none => rfl
  | some restored =>
      cases restored with
      | false => rfl
      | true => exact absurd rfl failed

/-- What the release has answered. -/
def releasedBy : List Event → Option String
  | [] => none
  | .released answer :: _ => some answer
  | _ :: older => releasedBy older

/-- The function was interrupted, or failed. -/
def hasFailed : List Event → Bool
  | [] => false
  | .failed _ :: _ => true
  | _ :: older => hasFailed older

/-- Readings of the clock before the deadline, each with an attempt to restore the state
that failed. -/
inductive Attempts (state : PauseState) (deadline : Int) : List Event → Prop
  | none : Attempts state deadline []
  | again {attempts : List Event} {result : Option Bool} {time moment : Int}
      (earlier : Attempts state deadline attempts) (early : time < deadline)
      (failed : result ≠ some true) :
      Attempts state deadline (.restoring state result moment :: .looked time :: attempts)

/-- Since the exit began nothing was done but to restore what is in force, without success,
at every reading of the clock up to one at which a minute had passed. -/
def Exhausted (older : List Event) (time : Int) : Prop :=
  ∃ attempts state start rest last,
    older = .looked last :: (attempts ++ .exiting state start :: rest) ∧
      start + 60 ≤ last ∧ last ≤ time ∧ (∀ paused, inForce rest = some paused → state = paused) ∧
      Attempts state (start + 60) attempts

/-- What holds of an entry after the older ones. -/
def Event.Justified (older : List Event) : Event → Prop
  | .restoring state _ time =>
      (∀ paused, inForce older = some paused → state = paused) ∧
        ∀ deadline, drainedUntil older = some deadline → inForce older = some state ∧
          (deadline ≤ time ∨ releasedBy older = some "release")
  | .drained proof _ =>
      drainedUntil older = none ∧ ∃ rest state,
        older = .counted 0 0 :: .counted 0 0 :: rest ∧ inForce rest = some state ∧
          proof.dags = provenDags state
  | .finished restored _ time => if restored then inForce older = none else Exhausted older time
  | .returned code =>
      ∃ restored state time rest, older = .finished restored state time :: rest ∧
        (code = 0 → restored = true ∧ releasedBy rest = some "release") ∧
        (restored = true → releasedBy rest = some "release" → hasFailed rest = false → code = 0)
  | _ => True

def Justified : List Event → Prop
  | [] => True
  | event :: older => event.Justified older ∧ Justified older

theorem Justified.entry {newer older : List Event} {event : Event}
    (justified : Justified (newer ++ event :: older)) : event.Justified older := by
  induction newer with
  | nil => exact justified.1
  | cons entry newer ih => exact ih justified.2

theorem Justified.older {newer older : List Event} (justified : Justified (newer ++ older)) :
    Justified older := by
  induction newer with
  | nil => exact justified
  | cons entry newer ih => exact ih justified.2

/-- There is one proof. -/
theorem Justified.drainedUntil {newer older : List Event} {proof : Proof} {deadline : Int}
    (justified : Justified (newer ++ .drained proof deadline :: older)) :
    drainedUntil (newer ++ .drained proof deadline :: older) = some deadline := by
  induction newer with
  | nil => rfl
  | cons entry newer ih =>
      have found := ih justified.2
      cases entry with
      | drained another later =>
          have unproved :
              DagGuard.drainedUntil (newer ++ .drained proof deadline :: older) = none :=
            justified.1.1
          rw [found] at unproved
          cases unproved
      | _ => exact found

/-! ## The protocol -/

def guardProtocol : Protocol Desk Unit where
  invariant desk := Justified desk.log
  rely _ before after := ∃ elapsed : Nat, after = { before with now := before.now + elapsed }
  resting _ _ := True

/-- The triples of the guard. -/
abbrev Guards {α : Type} (pre : Desk → Prop) (program : Guard α) (post : α → Desk → Prop)
    (failed : Desk → Prop) : Prop :=
  guardProtocol.Holds System.anyAction () pre program post fun _ => failed

/-- The assertion does not become false with time. -/
def Timeless (assertion : Desk → Prop) : Prop :=
  ∀ desk (elapsed : Nat), assertion desk → assertion { desk with now := desk.now + elapsed }

section

variable {α : Type} {pre : Desk → Prop} {post : α → Desk → Prop} {failed : Desk → Prop}

theorem Timeless.stable (timeless : Timeless pre) : guardProtocol.Stable () pre := by
  rintro before after _ _ ⟨elapsed, rfl⟩ holds
  exact timeless before elapsed holds

theorem guarantees_guard (before after : Desk) : guardProtocol.Guarantees () before after :=
  fun _ different => absurd rfl different

/-- One action of the guard. -/
theorem guards_action {effect : Desk → Input → Option (Desk × Except String α)}
    {stopped : String → Desk → Prop} (timeless : Timeless pre)
    (step : ∀ before input after result, Justified before.log → pre before →
      effect before input = some (after, result) →
      Justified after.log ∧ Protocol.Ends post stopped result after) :
    guardProtocol.Holds System.anyAction () pre (Failing.action () effect) post stopped := by
  apply Protocol.holds_action timeless.stable
  intro before input after result justified holds _ acted
  obtain ⟨kept, ends⟩ := step before input after result justified holds acted
  exact ⟨kept, guarantees_guard before after, ends⟩

theorem guards_stuck (timeless : Timeless pre) : Guards pre (stuck : Guard α) post failed := by
  apply guards_action timeless
  intro before input after result _ _ acted
  cases acted

/-- A statement about the variables. -/
theorem guards_statement {effect : Desk → Desk × α} (timeless : Timeless pre)
    (logs : ∀ desk, (effect desk).1.log = desk.log)
    (done : ∀ desk, pre desk → post (effect desk).2 (effect desk).1)
    (raised : ∀ desk, pre desk → failed desk) :
    Guards pre (statement effect) post failed := by
  apply guards_action timeless
  intro before input after result justified holds acted
  cases input <;> cases acted
  · exact ⟨logs before ▸ justified, done before holds⟩
  · exact ⟨justified, raised _ holds⟩

/-- Reading leaves everything as it is. -/
theorem guards_read {read : Desk → α} (timeless : Timeless pre)
    (raised : ∀ desk, pre desk → failed desk) :
    Guards pre (statement fun desk => (desk, read desk)) (fun _ => pre) failed :=
  guards_statement timeless (fun _ => rfl) (fun _ holds => holds) raised

theorem guards_pauseAWhile (timeless : Timeless pre) (raised : ∀ desk, pre desk → failed desk) :
    Guards pre pauseAWhile (fun _ => pre) failed :=
  guards_statement timeless (fun _ => rfl) (fun _ holds => holds) raised

theorem guards_mono {pre' : Desk → Prop} {post' : α → Desk → Prop} {failed' : Desk → Prop}
    {program : Guard α} (guards : Guards pre program post failed)
    (stronger : ∀ desk, pre' desk → pre desk)
    (weaker : ∀ value desk, post value desk → post' value desk)
    (weaker' : ∀ desk, failed desk → failed' desk) : Guards pre' program post' failed' :=
  Protocol.Holds.mono guards (fun _ _ holds => stronger _ holds)
    (fun _ _ _ holds => weaker _ _ holds) fun _ _ _ holds => weaker' _ holds

end

/-! ## The `try` -/

/-- What the variables say of the history, wherever the `try` is left. -/
structure Standing (desk : Desk) : Prop where
  forced : ∀ state, inForce desk.log = some state → state ≠ [] ∧
    (desk.original = state ∨ desk.original = [] ∧ desk.recorded = state)
  held : ∀ deadline, drainedUntil desk.log = some deadline →
    desk.holdDeadline = some deadline ∧ ∃ state, inForce desk.log = some state
  approved : desk.ok = true → releasedBy desk.log = some "release"

/-- No proof was issued yet. -/
structure Draining (desk : Desk) : Prop where
  standing : Standing desk
  unproved : drainedUntil desk.log = none
  unreleased : releasedBy desk.log = none
  refused : desk.ok = false
  sound : hasFailed desk.log = false

/-- At the head of the loop the variable is what is in force. -/
structure Grounded (desk : Desk) : Prop where
  draining : Draining desk
  found : inForce desk.log = if desk.original = [] then none else some desk.original

/-- At the head of the loop, after so many empty cycles. -/
structure Counting (cycles : Nat) (desk : Desk) : Prop where
  grounded : Grounded desk
  emptied : cycles ≠ 0 → desk.original ≠ [] ∧ ∃ rest, desk.log = .counted 0 0 :: rest

/-- The DAGs are paused. -/
structure Fenced (cycles : Nat) (desk : Desk) : Prop where
  counting : Counting cycles desk
  paused : desk.original ≠ []

/-- Two counts were empty. -/
structure Drained (desk : Desk) : Prop where
  draining : Draining desk
  proved : ∃ rest, desk.log = .counted 0 0 :: .counted 0 0 :: rest ∧
    inForce rest = some desk.original

theorem Standing.timeless : Timeless Standing :=
  fun _ _ holds => ⟨holds.forced, holds.held, holds.approved⟩

theorem Draining.timeless : Timeless Draining :=
  fun desk elapsed holds => ⟨Standing.timeless desk elapsed holds.standing, holds.unproved,
    holds.unreleased, holds.refused, holds.sound⟩

theorem Grounded.timeless : Timeless Grounded :=
  fun desk elapsed holds => ⟨Draining.timeless desk elapsed holds.draining, holds.found⟩

theorem Counting.timeless {cycles : Nat} : Timeless (Counting cycles) :=
  fun desk elapsed holds => ⟨Grounded.timeless desk elapsed holds.grounded, holds.emptied⟩

theorem Fenced.timeless {cycles : Nat} : Timeless (Fenced cycles) :=
  fun desk elapsed holds => ⟨Counting.timeless desk elapsed holds.counting, holds.paused⟩

theorem Drained.timeless : Timeless Drained :=
  fun desk elapsed holds => ⟨Draining.timeless desk elapsed holds.draining, holds.proved⟩

theorem Draining.not_issued {desk : Desk} (draining : Draining desk) {deadline : Int} :
    drainedUntil desk.log ≠ some deadline := by
  rw [draining.unproved]
  exact Option.some_ne_none deadline ∘ Eq.symm

theorem Counting.standing {cycles : Nat} {desk : Desk} (counting : Counting cycles desk) :
    Standing desk :=
  counting.grounded.draining.standing

theorem Fenced.inForce {cycles : Nat} {desk : Desk} (fenced : Fenced cycles desk) :
    inForce desk.log = some desk.original := by
  rw [fenced.counting.grounded.found, if_neg fenced.paused]

section

variable {cycles : Nat}

/-- Between the pause and the assignment of what it returned. -/
structure Paused (state : PauseState) (desk : Desk) : Prop where
  draining : Draining desk
  found : inForce desk.log = some state
  nonempty : state ≠ []

theorem Paused.timeless {state : PauseState} : Timeless (Paused state) :=
  fun desk elapsed holds => ⟨Draining.timeless desk elapsed holds.draining, holds.found,
    holds.nonempty⟩

theorem guards_pauseBackend :
    guardProtocol.Holds System.anyAction ()
      (fun desk => Counting cycles desk ∧ desk.original = []) pauseBackend Paused
      fun errorClass desk => Standing desk ∧
        (errorClass = "DrainBusy" → Counting cycles desk ∧ desk.original = []) := by
  apply guards_action
  · exact fun desk elapsed holds => ⟨Counting.timeless desk elapsed holds.1, holds.2⟩
  rintro before input after result justified ⟨counting, empty⟩ acted
  have draining := counting.grounded.draining
  have unforced : inForce before.log = none := by
    rw [counting.grounded.found, if_pos empty]
  cases input with
  | dags state errorClass =>
      simp only at acted
      split at acted
      · cases acted
      · rename_i allowed
        rw [not_or] at allowed
        have paused : Paused state { before.record (.paused state) with recorded := state } := by
          refine ⟨⟨⟨?_, fun _ issued => (draining.not_issued issued).elim,
            draining.standing.approved⟩, draining.unproved, draining.unreleased,
            draining.refused, draining.sound⟩, rfl, allowed.1⟩
          rintro forced ⟨⟩
          exact ⟨allowed.1, .inr ⟨empty, rfl⟩⟩
        cases errorClass with
        | none =>
            cases acted
            exact ⟨⟨trivial, justified⟩, paused⟩
        | some errorClass =>
            cases acted
            refine ⟨⟨trivial, justified⟩, paused.draining.standing, ?_⟩
            rintro rfl
            exact absurd rfl allowed.2
  | uncommitted state errorClass =>
      simp only at acted
      split at acted
      · cases acted
      · rename_i allowed
        rw [not_or] at allowed
        cases acted
        refine ⟨justified, ⟨?_, draining.standing.held, draining.standing.approved⟩,
          fun busy => absurd busy allowed.2⟩
        intro forced found
        rw [unforced] at found
        cases found
  | raised errorClass =>
      cases acted
      exact ⟨justified, draining.standing, fun _ => ⟨counting, empty⟩⟩
  | _ => cases acted

/-- What an attempt to pause leaves. -/
def Attempted (cycles : Nat) : Option PauseState → Desk → Prop
  | none, desk => Counting cycles desk
  | some state, desk => Paused state desk

/-- The DAGs are paused, or they are busy. -/
def Acquired (cycles : Nat) (busy : Bool) (desk : Desk) : Prop :=
  if busy then Counting cycles desk else Fenced cycles desk

theorem guards_tryPause (first : cycles = 0) :
    Guards (fun desk => Counting cycles desk ∧ desk.original = []) tryPause (Acquired cycles)
      Standing := by
  have attempt : Guards (fun desk => Counting cycles desk ∧ desk.original = [])
      (tryCatch (do
        let state ← pauseBackend
        return some state) fun errorClass =>
          if errorClass = "DrainBusy" then return none else throw errorClass)
      (Attempted cycles) Standing := by
    apply Protocol.Holds.tryCatch (Protocol.Holds.bind guards_pauseBackend _)
    · intro errorClass
      split
      · rename_i busy
        exact Protocol.holds_pure fun _ _ holds => (holds.2 busy).1
      · exact Protocol.holds_throw fun _ _ holds => holds.1
    · exact fun state => Protocol.holds_pure fun _ _ paused => paused
  apply Protocol.Holds.bind attempt
  intro found
  cases found with
  | none => exact Protocol.holds_pure fun _ _ counting => counting
  | some state =>
      have assigned : Guards (Paused state) (assign fun desk => { desk with original := state })
          (fun _ => Fenced cycles) Standing := by
        apply guards_statement Paused.timeless (fun _ => rfl) _
          fun _ paused => paused.draining.standing
        intro desk paused
        have standing := paused.draining.standing
        refine ⟨⟨⟨⟨⟨?_, standing.held, standing.approved⟩, paused.draining.unproved,
          paused.draining.unreleased, paused.draining.refused, paused.draining.sound⟩, ?_⟩,
          fun later => absurd first later⟩, paused.nonempty⟩
        · intro forced found
          rw [show inForce desk.log = some state from paused.found] at found
          cases found
          exact ⟨paused.nonempty, .inl rfl⟩
        · change inForce desk.log = _
          rw [paused.found, if_neg paused.nonempty]
      apply Protocol.Holds.bind assigned
      exact fun _ => Protocol.holds_pure fun _ _ fenced => fenced

theorem guards_acquire : Guards (Counting cycles) acquire (Acquired cycles) Standing := by
  have read : Guards (Counting cycles) readOriginal
      (fun original desk => Counting cycles desk ∧ desk.original = original) Standing :=
    guards_statement Counting.timeless (fun _ => rfl) (fun _ counting => ⟨counting, rfl⟩)
      fun _ counting => counting.standing
  apply Protocol.Holds.bind read
  intro original
  split
  · rename_i empty
    by_cases first : cycles = 0
    · subst empty
      exact guards_tryPause first
    · -- a cycle was empty under the pause that is still there
      exact fun desk _ holds => absurd (holds.2.trans empty) (holds.1.emptied first).1
  · rename_i nonempty
    apply Protocol.holds_pure
    rintro desk _ ⟨counting, rfl⟩
    exact ⟨counting, nonempty⟩

/-- A count under a pause. -/
structure Counted (cycles : Nat) (tasks runs : Int) (desk : Desk) : Prop where
  grounded : Grounded desk
  paused : desk.original ≠ []
  logged : ∃ rest, desk.log = .counted tasks runs :: rest ∧ inForce rest = some desk.original ∧
    (cycles ≠ 0 → ∃ older, rest = .counted 0 0 :: older)

theorem Counted.timeless {tasks runs : Int} : Timeless (Counted cycles tasks runs) :=
  fun desk elapsed holds => ⟨Grounded.timeless desk elapsed holds.grounded, holds.paused,
    holds.logged⟩

theorem Counted.fenced {tasks runs : Int} (counted : Counted cycles tasks runs desk) :
    Fenced 0 desk :=
  ⟨⟨counted.grounded, fun later => absurd rfl later⟩, counted.paused⟩

theorem Counted.counting (counted : Counted cycles 0 0 desk) : Counting (cycles + 1) desk where
  grounded := counted.grounded
  emptied _ := by
    obtain ⟨rest, log, _⟩ := counted.logged
    exact ⟨counted.paused, rest, log⟩

theorem Counted.drained (counted : Counted cycles 0 0 desk) (again : cycles ≠ 0) :
    Drained desk where
  draining := counted.grounded.draining
  proved := by
    obtain ⟨rest, log, forced, earlier⟩ := counted.logged
    obtain ⟨older, rfl⟩ := earlier again
    exact ⟨older, log, forced⟩

theorem guards_countBackend : Guards (Fenced cycles) countBackend
    (fun counts => Counted cycles counts.1 counts.2) Standing := by
  apply guards_action Fenced.timeless
  intro before input after result justified fenced acted
  have draining := fenced.counting.grounded.draining
  have standing := draining.standing
  have forced := fenced.inForce
  cases input with
  | counts tasks runs =>
      cases acted
      have counted : Draining (before.record (.counted tasks runs)) :=
        ⟨⟨standing.forced, standing.held, standing.approved⟩, draining.unproved,
          draining.unreleased, draining.refused, draining.sound⟩
      refine ⟨⟨trivial, justified⟩, ⟨counted, fenced.counting.grounded.found⟩, fenced.paused, ?_⟩
      exact ⟨before.log, rfl, forced, fun again => (fenced.counting.emptied again).2⟩
  | raised errorClass =>
      cases acted
      exact ⟨justified, standing⟩
  | _ => cases acted

/-- Between the restoration and the assignments. -/
structure Lifted (desk : Desk) : Prop where
  draining : Draining desk
  unforced : inForce desk.log = none

theorem Lifted.timeless : Timeless Lifted :=
  fun desk elapsed holds => ⟨Draining.timeless desk elapsed holds.draining, holds.unforced⟩

/-- Without a pause the variables may be anything. -/
theorem Lifted.assigned (lifted : Lifted desk) (original recorded : PauseState) :
    Lifted { desk with original := original, recorded := recorded } where
  draining := by
    have draining := lifted.draining
    refine ⟨⟨?_, draining.standing.held, draining.standing.approved⟩, draining.unproved,
      draining.unreleased, draining.refused, draining.sound⟩
    intro state found
    rw [show inForce desk.log = none from lifted.unforced] at found
    cases found
  unforced := lifted.unforced

/-- The DAGs run again, and the variable says so. -/
structure Cleared (desk : Desk) : Prop where
  lifted : Lifted desk
  empty : desk.original = []

theorem Cleared.timeless : Timeless Cleared :=
  fun desk elapsed holds => ⟨Lifted.timeless desk elapsed holds.lifted, holds.empty⟩

theorem Cleared.counting (cleared : Cleared desk) : Counting 0 desk where
  grounded := ⟨cleared.lifted.draining, by rw [cleared.lifted.unforced, if_pos cleared.empty]⟩
  emptied later := absurd rfl later

theorem Cleared.standing (cleared : Cleared desk) : Standing desk :=
  cleared.lifted.draining.standing

/-- What an attempt to restore leaves. -/
def GivenWay (restored : Bool) (desk : Desk) : Prop :=
  if restored then Lifted desk else Standing desk

/-- A restoration in the `try` comes before any proof. -/
theorem guards_restoreBackend {state : PauseState} :
    Guards (fun desk => Fenced 0 desk ∧ desk.original = state) (restoreBackend state)
      GivenWay Standing := by
  apply guards_action
  · exact fun desk elapsed holds => ⟨Fenced.timeless desk elapsed holds.1, holds.2⟩
  rintro before input after result justified ⟨fenced, rfl⟩ acted
  have draining := fenced.counting.grounded.draining
  have standing := draining.standing
  have justifies : ∀ result, Justified
      (.restoring before.original result before.now :: before.log) := by
    refine fun result => ⟨⟨?_, ?_⟩, justified⟩
    · rw [fenced.inForce]
      rintro paused ⟨⟩
      rfl
    · rw [draining.unproved]
      rintro deadline ⟨⟩
  cases input with
  | answer restored =>
      cases acted
      refine ⟨justifies _, ?_⟩
      cases restored with
      | false => exact ⟨standing.forced, standing.held, standing.approved⟩
      | true =>
          refine ⟨⟨⟨?_, fun _ issued => (draining.not_issued issued).elim, standing.approved⟩,
            draining.unproved, draining.unreleased, draining.refused, draining.sound⟩, rfl⟩
          rintro state ⟨⟩
  | raised errorClass =>
      cases acted
      exact ⟨justifies none, standing.forced, standing.held, standing.approved⟩
  | _ => cases acted

theorem guards_giveWay : Guards (Fenced 0) giveWay (fun _ => Counting 0) Standing := by
  have read : Guards (Fenced 0) readOriginal
      (fun original desk => Fenced 0 desk ∧ desk.original = original) Standing :=
    guards_statement Fenced.timeless (fun _ => rfl) (fun _ fenced => ⟨fenced, rfl⟩)
      fun _ fenced => fenced.counting.standing
  apply Protocol.Holds.bind read
  intro original
  apply Protocol.Holds.bind guards_restoreBackend
  intro restored
  cases restored with
  | false => exact Protocol.holds_throw fun _ _ standing => standing
  | true =>
      have clears : Guards Lifted (assign fun desk => { desk with original := [] })
          (fun _ => Cleared) Standing :=
        guards_statement Lifted.timeless (fun _ => rfl)
          (fun desk lifted => ⟨lifted.assigned [] desk.recorded, rfl⟩)
          fun _ lifted => lifted.draining.standing
      have forgets : Guards Cleared (assign fun desk => { desk with recorded := [] })
          (fun _ => Cleared) Standing :=
        guards_statement Cleared.timeless (fun _ => rfl)
          (fun desk cleared => ⟨cleared.lifted.assigned desk.original [], cleared.empty⟩)
          fun _ cleared => cleared.standing
      have rests : Guards Cleared pauseAWhile (fun _ => Counting 0) Standing :=
        guards_mono (guards_pauseAWhile Cleared.timeless fun _ cleared => cleared.standing)
          (fun _ holds => holds) (fun _ _ cleared => cleared.counting) fun _ holds => holds
      exact Protocol.Holds.bind clears fun _ => Protocol.Holds.bind forgets fun _ => rests

theorem guards_drain {deadline : Int} {rounds : Nat} :
    Guards (Counting cycles) (drain deadline rounds cycles) (fun _ => Drained) Standing := by
  induction rounds generalizing cycles with
  | zero => exact guards_stuck Counting.timeless
  | succ rounds ih =>
      apply Protocol.Holds.bind (guards_read Counting.timeless fun _ counting => counting.standing)
      intro time
      split
      · apply Protocol.Holds.bind guards_acquire
        intro busy
        cases busy with
        | true =>
            apply Protocol.Holds.bind
              (guards_pauseAWhile Counting.timeless fun _ counting => counting.standing)
            exact fun _ => ih
        | false =>
            apply Protocol.Holds.bind guards_countBackend
            rintro ⟨tasks, runs⟩
            dsimp only
            split
            · have yields : Guards (Counted cycles tasks runs) giveWay (fun _ => Counting 0)
                  Standing :=
                guards_mono guards_giveWay (fun _ counted => counted.fenced)
                  (fun _ _ holds => holds) fun _ holds => holds
              exact Protocol.Holds.bind yields fun _ => ih
            · rename_i idle
              rw [not_or, not_not, not_not] at idle
              obtain ⟨rfl, rfl⟩ := idle
              split
              · rename_i twice
                exact Protocol.holds_pure fun _ _ counted => counted.drained (by omega)
              · have rests : Guards (Counted cycles 0 0) pauseAWhile
                    (fun _ => Counting (cycles + 1)) Standing :=
                  guards_mono (guards_pauseAWhile Counted.timeless
                    fun _ counted => counted.grounded.draining.standing)
                    (fun _ holds => holds) (fun _ _ counted => counted.counting)
                    fun _ holds => holds
                exact Protocol.Holds.bind rests fun _ => ih
      · exact Protocol.holds_throw fun _ _ counting => counting.standing

end

/-! ## The lease -/

/-- A proof may be issued. -/
structure Leased (desk : Desk) : Prop where
  drained : Drained desk
  leased : ∃ deadline, desk.holdDeadline = some deadline

/-- A proof was issued, and nobody has answered. -/
structure Issued (desk : Desk) : Prop where
  standing : Standing desk
  unreleased : releasedBy desk.log = none
  refused : desk.ok = false

/-- The release has answered. -/
structure Answered (answer : String) (desk : Desk) : Prop where
  standing : Standing desk
  answered : releasedBy desk.log = some answer

/-- What the result is taken from, with what the `try` raised. -/
structure Resolved (raised : Option String) (desk : Desk) : Prop where
  approved : desk.ok = true → releasedBy desk.log = some "release"
  accepted : raised = none → releasedBy desk.log = some "release" →
    hasFailed desk.log = false → desk.ok = true

/-- The `try` is left, with what it raised. -/
structure Settled (raised : Option String) (desk : Desk) : Prop where
  standing : Standing desk
  accepted : raised = none → releasedBy desk.log = some "release" →
    hasFailed desk.log = false → desk.ok = true

theorem Leased.timeless : Timeless Leased :=
  fun desk elapsed holds => ⟨Drained.timeless desk elapsed holds.drained, holds.leased⟩

theorem Issued.timeless : Timeless Issued :=
  fun desk elapsed holds => ⟨Standing.timeless desk elapsed holds.standing, holds.unreleased,
    holds.refused⟩

theorem Answered.timeless {answer : String} : Timeless (Answered answer) :=
  fun desk elapsed holds => ⟨Standing.timeless desk elapsed holds.standing, holds.answered⟩

theorem Settled.timeless {raised : Option String} : Timeless (Settled raised) :=
  fun desk elapsed holds => ⟨Standing.timeless desk elapsed holds.standing, holds.accepted⟩

theorem Resolved.timeless {raised : Option String} : Timeless (Resolved raised) :=
  fun _ _ holds => ⟨holds.approved, holds.accepted⟩

theorem Settled.resolved {raised : Option String} {desk : Desk} (settled : Settled raised desk) :
    Resolved raised desk :=
  ⟨settled.standing.approved, settled.accepted⟩

theorem Leased.standing {desk : Desk} (leased : Leased desk) : Standing desk :=
  leased.drained.draining.standing

section

variable {guardId commit : String} {rounds : Nat}

theorem guards_lease : Guards Drained
    (assign fun desk => { desk with holdDeadline := some (desk.now + holdSeconds) })
    (fun _ => Leased) Standing := by
  apply guards_statement Drained.timeless (fun _ => rfl) _
    fun _ drained => drained.draining.standing
  intro desk drained
  have draining := drained.draining
  refine ⟨⟨⟨⟨draining.standing.forced, ?_, draining.standing.approved⟩, draining.unproved,
    draining.unreleased, draining.refused, draining.sound⟩, drained.proved⟩, _, rfl⟩
  intro deadline found
  rw [show drainedUntil desk.log = none from draining.unproved] at found
  cases found

theorem guards_wallClock : Guards Leased wallClock (fun _ => Leased) Standing := by
  apply guards_action Leased.timeless
  intro before input after result justified leased acted
  cases input <;> cases acted
  · exact ⟨justified, leased.standing⟩
  · exact ⟨justified, leased⟩

/-- The report of a proof. -/
theorem guards_issue {original : PauseState} {proof : Proof}
    (dags : proof.dags = provenDags original) :
    Guards (fun desk => Leased desk ∧ desk.original = original)
      (safeEmit fun desk => .drained proof (desk.holdDeadline.getD desk.now)) (fun _ => Issued)
      Standing := by
  apply guards_action
  · exact fun desk elapsed holds => ⟨Leased.timeless desk elapsed holds.1, holds.2⟩
  rintro before input after result justified ⟨leased, rfl⟩ acted
  have draining := leased.drained.draining
  have justifies :
      Justified (.drained proof (before.holdDeadline.getD before.now) :: before.log) := by
    obtain ⟨rest, log, forced⟩ := leased.drained.proved
    exact ⟨⟨draining.unproved, rest, before.original, log, forced, dags⟩, justified⟩
  have issued : Issued (before.record (.drained proof (before.holdDeadline.getD before.now))) := by
    refine ⟨⟨draining.standing.forced, ?_, draining.standing.approved⟩, draining.unreleased,
      draining.refused⟩
    obtain ⟨deadline, held⟩ := leased.leased
    obtain ⟨rest, log, forced⟩ := leased.drained.proved
    rintro _ ⟨⟩
    constructor
    · change before.holdDeadline = some (before.holdDeadline.getD before.now)
      rw [held]
      rfl
    · refine ⟨before.original, ?_⟩
      change inForce before.log = some before.original
      rw [log]
      exact forced
  cases input <;> cases acted
  · exact ⟨justifies, issued⟩
  · exact ⟨justifies, issued.standing⟩
  · exact ⟨justifies, issued⟩

theorem guards_awaitRelease : Guards Issued awaitRelease Answered Standing := by
  apply guards_action Issued.timeless
  intro before input after result justified issued acted
  have standing := issued.standing
  cases input <;> cases acted
  · exact ⟨justified, standing⟩
  · refine ⟨⟨trivial, justified⟩, ⟨standing.forced, standing.held, ?_⟩, rfl⟩
    rw [show (before.record (.released _)).ok = false from issued.refused]
    rintro ⟨⟩

theorem guards_accept {answer : String} : Guards (Answered answer)
    (assign fun desk => { desk with ok := answer = "release" }) (fun _ => Settled none)
    Standing := by
  apply guards_statement Answered.timeless (fun _ => rfl) _ fun _ answered => answered.standing
  intro desk answered
  have standing := answered.standing
  refine ⟨⟨standing.forced, standing.held, ?_⟩, ?_⟩
  · intro approved
    change releasedBy desk.log = _
    rw [answered.answered, of_decide_eq_true approved]
  · intro _ released _
    have same := answered.answered.symm.trans released
    exact decide_eq_true (Option.some.inj same)

theorem guards_guardBody : Guards (Counting 0) (guardBody guardId commit rounds)
    (fun _ => Settled none) Standing := by
  apply Protocol.Holds.bind (guards_read Counting.timeless fun _ counting => counting.standing)
  intro start
  apply Protocol.Holds.bind guards_drain
  intro _
  apply Protocol.Holds.bind guards_lease
  intro _
  apply Protocol.Holds.bind guards_wallClock
  intro issuedAt
  have read : Guards Leased readOriginal
      (fun original desk => Leased desk ∧ desk.original = original) Standing :=
    guards_statement Leased.timeless (fun _ => rfl) (fun _ leased => ⟨leased, rfl⟩)
      fun _ leased => leased.standing
  apply Protocol.Holds.bind read
  intro original
  apply Protocol.Holds.bind (guards_issue rfl)
  intro _
  apply Protocol.Holds.bind guards_awaitRelease
  exact fun answer => guards_accept

theorem guards_reportFailure {errorClass : String} :
    Guards Standing (reportFailure errorClass) (fun _ => Settled none) Standing := by
  apply Protocol.Holds.bind (guards_read Standing.timeless fun _ standing => standing)
  intro name
  apply guards_action Standing.timeless
  intro before input after result justified standing acted
  have kept : Standing (before.record (.failed name)) :=
    ⟨standing.forced, standing.held, standing.approved⟩
  have settled : Settled none (before.record (.failed name)) := by
    refine ⟨kept, fun _ _ sound => ?_⟩
    cases sound
  cases input <;> cases acted
  · exact ⟨⟨trivial, justified⟩, settled⟩
  · exact ⟨⟨trivial, justified⟩, kept⟩
  · exact ⟨⟨trivial, justified⟩, settled⟩

/-- The `try`, with what it raised. -/
theorem guards_attempt : Guards (Counting 0)
    (tryCatch (do
      tryCatch (guardBody guardId commit rounds) reportFailure
      return none) fun errorClass => return some errorClass)
    Settled fun _ => True := by
  have handled : Guards (Counting 0) (tryCatch (guardBody guardId commit rounds) reportFailure)
      (fun _ => Settled none) Standing :=
    Protocol.Holds.tryCatch guards_guardBody fun _ => guards_reportFailure
  apply Protocol.Holds.tryCatch
    (Protocol.Holds.bind handled fun _ => Protocol.holds_pure fun _ _ settled => settled)
  intro errorClass
  apply Protocol.holds_pure
  intro desk _ standing
  refine ⟨standing, ?_⟩
  rintro ⟨⟩

end

/-! ## The exit -/

/-- The lease is over, or the guard was released. -/
structure Expired (raised : Option String) (desk : Desk) : Prop where
  settled : Settled raised desk
  lapsed : desk.ok = true ∨ ∀ deadline, desk.holdDeadline = some deadline → deadline ≤ desk.now

/-- What is restored is what is in force. -/
structure Restorable (raised : Option String) (state : PauseState) (desk : Desk) : Prop where
  expired : Expired raised desk
  chosen : desk.original = state
  found : ∀ paused, inForce desk.log = some paused → state = paused

/-- The attempts to restore since the exit began, before the newest entries. -/
structure Retrying (raised : Option String) (state : PauseState) (start : Int)
    (newest : List Event) (desk : Desk) : Prop where
  restorable : Restorable raised state desk
  attempted : ∃ attempts rest, desk.log = newest ++ (attempts ++ .exiting state start :: rest) ∧
    (∀ paused, inForce rest = some paused → state = paused) ∧
    Attempts state (start + 60) attempts

/-- How the restoration ended. -/
structure Concluded (raised : Option String) (restored : Bool) (desk : Desk) : Prop where
  resolved : Resolved raised desk
  concluded : if restored then inForce desk.log = none else Exhausted desk.log desk.now

/-- The end was reported. -/
structure Reported (raised : Option String) (restored : Bool) (desk : Desk) : Prop where
  resolved : Resolved raised desk
  reported : ∃ state time rest, desk.log = .finished restored state time :: rest

theorem Expired.timeless {raised : Option String} : Timeless (Expired raised) := by
  intro desk elapsed holds
  refine ⟨Settled.timeless desk elapsed holds.settled, holds.lapsed.imp_right fun lapsed => ?_⟩
  intro deadline held
  have passed : deadline ≤ desk.now := lapsed deadline held
  change deadline ≤ desk.now + elapsed
  omega

theorem Restorable.timeless {raised : Option String} {state : PauseState} :
    Timeless (Restorable raised state) :=
  fun desk elapsed holds => ⟨Expired.timeless desk elapsed holds.expired, holds.chosen, holds.found⟩

theorem Retrying.timeless {raised : Option String} {state : PauseState} {start : Int}
    {newest : List Event} : Timeless (Retrying raised state start newest) :=
  fun desk elapsed holds => ⟨Restorable.timeless desk elapsed holds.restorable, holds.attempted⟩

theorem Exhausted.later {log : List Event} {time later : Int} (exhausted : Exhausted log time)
    (ordered : time ≤ later) : Exhausted log later := by
  obtain ⟨attempts, state, start, rest, last, split, late, looked, tried⟩ := exhausted
  exact ⟨attempts, state, start, rest, last, split, late, Int.le_trans looked ordered, tried⟩

theorem Concluded.timeless {raised : Option String} {restored : Bool} :
    Timeless (Concluded raised restored) := by
  intro desk elapsed holds
  refine ⟨Resolved.timeless desk elapsed holds.resolved, ?_⟩
  have concluded := holds.concluded
  cases restored with
  | true => exact concluded
  | false =>
      have ordered : desk.now ≤ desk.now + elapsed := by omega
      exact Exhausted.later concluded ordered

theorem Reported.timeless {raised : Option String} {restored : Bool} :
    Timeless (Reported raised restored) :=
  fun desk elapsed holds => ⟨Resolved.timeless desk elapsed holds.resolved, holds.reported⟩

/-- A proof that is out has expired, or it was released. -/
theorem Expired.lease {raised : Option String} {desk : Desk} (expired : Expired raised desk)
    {deadline : Int} (issued : drainedUntil desk.log = some deadline) :
    deadline ≤ desk.now ∨ releasedBy desk.log = some "release" := by
  rcases expired.lapsed with approved | lapsed
  · exact .inr (expired.settled.standing.approved approved)
  · exact .inl (lapsed deadline (expired.settled.standing.held deadline issued).1)

/-- What is restored after a proof is in force. -/
theorem Restorable.inForce {raised : Option String} {state : PauseState} {desk : Desk}
    (restorable : Restorable raised state desk) {deadline : Int}
    (issued : drainedUntil desk.log = some deadline) : inForce desk.log = some state := by
  obtain ⟨-, paused, forced⟩ := restorable.expired.settled.standing.held deadline issued
  rw [forced, restorable.found paused forced]

section

variable {raised : Option String} {rounds : Nat} {state : PauseState} {start : Int}

/-- A statement of the `finally`. -/
theorem guards_protectedly {α : Type} {effect : Desk → Desk × α} {pre : Desk → Prop}
    {post : α → Desk → Prop} {failed : Desk → Prop} (timeless : Timeless pre)
    (done : ∀ desk, Justified desk.log → pre desk →
      Justified (effect desk).1.log ∧ post (effect desk).2 (effect desk).1) :
    Guards pre (protectedly effect) post failed := by
  apply guards_action timeless
  intro before input after result justified holds acted
  cases input <;> cases acted
  exact done before justified holds

theorem guards_holdFence : Guards (Settled raised) (holdFence rounds) (fun _ => Expired raised)
    fun _ => True := by
  induction rounds with
  | zero => exact guards_stuck Settled.timeless
  | succ rounds ih =>
      have looks : Guards (Settled raised)
          (protectedly fun desk =>
            (desk, desk.ok || desk.holdDeadline.all fun deadline => deadline ≤ desk.now))
          (fun lapsed desk => Settled raised desk ∧ (lapsed = true → Expired raised desk))
          fun _ => True := by
        apply guards_protectedly Settled.timeless
        refine fun desk justified settled => ⟨justified, settled, fun lapsed => ⟨settled, ?_⟩⟩
        refine ((Bool.or_eq_true _ _).mp lapsed).imp_right fun passed deadline held => ?_
        rw [held] at passed
        exact of_decide_eq_true passed
      apply Protocol.Holds.bind looks
      intro lapsed
      cases lapsed with
      | true => exact Protocol.holds_pure fun _ _ holds => holds.2 rfl
      | false =>
          exact guards_mono ih (fun _ holds => holds.1) (fun _ _ holds => holds)
            fun _ _ => trivial

/-- An attempt that failed leaves what is in force. -/
theorem Retrying.again {time : Int} (retrying : Retrying raised state start [.looked time] desk)
    (early : time < start + 60) {result : Option Bool} (failed : result ≠ some true) :
    Retrying raised state start [] (desk.record (.restoring state result desk.now)) := by
  have restorable := retrying.restorable
  have settled := restorable.expired.settled
  have unlifted : inForce (.restoring state result desk.now :: desk.log) = inForce desk.log :=
    inForce_restoring failed
  refine ⟨⟨⟨⟨⟨?_, ?_, settled.standing.approved⟩, settled.accepted⟩,
    restorable.expired.lapsed⟩, restorable.chosen, ?_⟩, ?_⟩
  · intro paused forced
    exact settled.standing.forced paused (unlifted.symm.trans forced)
  · intro deadline issued
    obtain ⟨held, paused, forced⟩ := settled.standing.held deadline issued
    exact ⟨held, paused, unlifted.trans forced⟩
  · intro paused forced
    exact restorable.found paused (unlifted.symm.trans forced)
  · obtain ⟨attempts, rest, log, found, tried⟩ := retrying.attempted
    refine ⟨.restoring state result desk.now :: .looked time :: attempts, rest, ?_, found,
      tried.again early failed⟩
    change .restoring state result desk.now :: desk.log = _
    rw [log]
    rfl

theorem guards_retryRestore {time : Int} (early : time < start + 60) :
    Guards (Retrying raised state start [.looked time]) (retryRestore state)
      (fun restored desk => if restored then Concluded raised true desk
        else Retrying raised state start [] desk) fun _ => True := by
  apply guards_action Retrying.timeless
  intro before input after result justified retrying acted
  have restorable := retrying.restorable
  have settled := restorable.expired.settled
  have justifies : ∀ result, Justified (.restoring state result before.now :: before.log) :=
    fun result => ⟨⟨restorable.found, fun deadline issued =>
      ⟨restorable.inForce issued, restorable.expired.lease issued⟩⟩, justified⟩
  cases input with
  | answer restored =>
      cases acted
      refine ⟨justifies _, ?_⟩
      cases restored with
      | false => exact retrying.again early (by rintro ⟨⟩)
      | true => exact ⟨⟨settled.standing.approved, settled.accepted⟩, rfl⟩
  | raised errorClass =>
      cases acted
      exact ⟨justifies none, retrying.again early (by rintro ⟨⟩)⟩
  | _ => cases acted

theorem guards_look : Guards (Retrying raised state start [])
    (protectedly fun desk => (desk.record (.looked desk.now), desk.now))
    (fun time desk => Retrying raised state start [.looked time] desk ∧ time ≤ desk.now)
    fun _ => True := by
  apply guards_protectedly Retrying.timeless
  intro desk justified retrying
  have restorable := retrying.restorable
  have settled := restorable.expired.settled
  obtain ⟨attempts, rest, log, tried⟩ := retrying.attempted
  refine ⟨⟨trivial, justified⟩, ⟨⟨⟨⟨⟨settled.standing.forced, settled.standing.held,
    settled.standing.approved⟩, settled.accepted⟩, restorable.expired.lapsed⟩,
    restorable.chosen, restorable.found⟩, attempts, rest, ?_, tried⟩, Int.le_refl desk.now⟩
  exact congrArg (List.cons _) log

theorem guards_restoreLoop :
    Guards (Retrying raised state start []) (restoreLoop state (start + 60) rounds)
      (Concluded raised) fun _ => True := by
  induction rounds with
  | zero => exact guards_stuck Retrying.timeless
  | succ rounds ih =>
      apply Protocol.Holds.bind guards_look
      intro time
      split
      · rename_i early
        have tries : Guards
            (fun desk => Retrying raised state start [.looked time] desk ∧ time ≤ desk.now)
            (retryRestore state) _ fun _ => True :=
          guards_mono (guards_retryRestore early) (fun _ holds => holds.1) (fun _ _ holds => holds)
            fun _ _ => trivial
        apply Protocol.Holds.bind tries
        intro restored
        cases restored with
        | true => exact Protocol.holds_pure fun _ _ concluded => concluded
        | false => exact ih
      · rename_i late
        apply Protocol.holds_pure
        rintro desk _ ⟨retrying, looked⟩
        obtain ⟨attempts, rest, log, tried⟩ := retrying.attempted
        exact ⟨retrying.restorable.expired.settled.resolved, attempts, state, start, rest, time,
          log, Int.not_lt.mp late, looked, tried⟩

/-- `original or getattr(backend, "original", {})` is what is in force. -/
theorem guards_chooseOriginal : Guards (Expired raised)
    (protectedly fun desk =>
      let state := if desk.original = [] then desk.recorded else desk.original
      ({ desk with original := state }, state))
    (Restorable raised) fun _ => True := by
  apply guards_protectedly Expired.timeless
  intro desk justified expired
  have standing := expired.settled.standing
  have chosen : ∀ paused, inForce desk.log = some paused →
      paused ≠ [] ∧ (if desk.original = [] then desk.recorded else desk.original) = paused := by
    intro paused forced
    obtain ⟨nonempty, rfl | ⟨empty, rfl⟩⟩ := standing.forced paused forced
    · exact ⟨nonempty, if_neg nonempty⟩
    · exact ⟨nonempty, if_pos empty⟩
  refine ⟨justified, ⟨⟨⟨?_, standing.held, standing.approved⟩, expired.settled.accepted⟩,
    expired.lapsed⟩, rfl, fun paused forced => (chosen paused forced).2⟩
  exact fun paused forced => ⟨(chosen paused forced).1, .inl (chosen paused forced).2⟩

theorem guards_restoreOriginal : Guards (Expired raised) (restoreOriginal rounds)
    (Concluded raised) fun _ => True := by
  apply Protocol.Holds.bind guards_chooseOriginal
  intro state
  split
  · rename_i empty
    apply Protocol.holds_pure
    intro desk _ restorable
    refine ⟨restorable.expired.settled.resolved, ?_⟩
    cases forced : inForce desk.log with
    | none => rfl
    | some paused =>
        have nonempty := (restorable.expired.settled.standing.forced paused forced).1
        exact absurd ((restorable.found paused forced).symm.trans empty) nonempty
  · have begins : Guards (Restorable raised state)
        (protectedly fun desk => (desk.record (.exiting state desk.now), desk.now))
        (fun start => Retrying raised state start []) fun _ => True := by
      apply guards_protectedly Restorable.timeless
      intro desk justified restorable
      have settled := restorable.expired.settled
      refine ⟨⟨trivial, justified⟩, ⟨⟨⟨⟨settled.standing.forced, settled.standing.held,
        settled.standing.approved⟩, settled.accepted⟩, restorable.expired.lapsed⟩,
        restorable.chosen, restorable.found⟩, [], desk.log, rfl, restorable.found, .none⟩
    exact Protocol.Holds.bind begins fun start => guards_restoreLoop

theorem guards_guardExit : Guards (Settled raised) (guardExit rounds) (Reported raised)
    fun _ => True := by
  have enters : Guards (Settled raised) (assign id) (fun _ => Settled raised) fun _ => True :=
    guards_statement Settled.timeless (fun _ => rfl) (fun _ settled => settled) fun _ _ => trivial
  apply Protocol.Holds.bind enters
  intro _
  apply Protocol.Holds.bind guards_holdFence
  intro _
  apply Protocol.Holds.bind guards_restoreOriginal
  intro restored
  have reports : Guards (Concluded raised restored)
      (safeEmit fun desk => .finished restored desk.original desk.now)
      (fun _ => Reported raised restored) fun _ => True := by
    apply guards_action Concluded.timeless
    intro before input after result justified concluded acted
    have resolved := concluded.resolved
    have reported : Reported raised restored
        (before.record (.finished restored before.original before.now)) :=
      ⟨⟨resolved.approved, resolved.accepted⟩, _, _, _, rfl⟩
    have kept : Justified (.finished restored before.original before.now :: before.log) :=
      ⟨concluded.concluded, justified⟩
    cases input <;> cases acted
    · exact ⟨kept, reported⟩
    · exact ⟨kept, trivial⟩
    · exact ⟨kept, reported⟩
  exact Protocol.Holds.bind reports fun _ => Protocol.holds_pure fun _ _ reported => reported

end

theorem guards_runGuard {guardId commit : String} {rounds : Nat} :
    Guards (Counting 0) (runGuard guardId commit rounds) (fun _ _ => True) fun _ => True := by
  apply Protocol.Holds.bind guards_attempt
  intro raised
  apply Protocol.Holds.bind guards_guardExit
  intro restored
  cases raised with
  | some errorClass => exact Protocol.holds_throw fun _ _ _ => trivial
  | none =>
      apply guards_protectedly Reported.timeless
      intro desk justified reported
      refine ⟨⟨?_, justified⟩, trivial⟩
      obtain ⟨state, time, rest, log⟩ := reported.reported
      have resolved := reported.resolved
      have approved : desk.ok = true → releasedBy rest = some "release" := by
        have approved := resolved.approved
        rw [log] at approved
        exact approved
      have accepted :
          releasedBy rest = some "release" → hasFailed rest = false → desk.ok = true := by
        have accepted := resolved.accepted rfl
        rw [log] at accepted
        exact accepted
      refine ⟨restored, state, time, rest, log, ?_, ?_⟩
      · intro succeeded
        split at succeeded
        · rename_i both
          rw [Bool.and_eq_true] at both
          exact ⟨both.2, approved both.1⟩
        · cases succeeded
      · rintro rfl released sound
        rw [accepted released sound]
        rfl

/-! ## Runs -/

theorem guardProtocol_follows : guardProtocol.Follows guardSystem System.anyAction where
  restingStable _ _ _ _ _ _ _ := trivial
  operations _ _ operation := operation.elim
  crashes _ desk justified := ⟨justified, guarantees_guard desk desk, trivial⟩
  environments before after justified passes := by
    obtain ⟨elapsed, rfl⟩ := passes
    exact ⟨justified, fun _ => ⟨elapsed, rfl⟩⟩

theorem Counting.initial (now : Int) : Counting 0 (Desk.initial now) where
  grounded := by
    refine ⟨⟨⟨?_, ?_, ?_⟩, rfl, rfl, rfl, rfl⟩, rfl⟩
    · rintro state ⟨⟩
    · rintro deadline ⟨⟩
    · rintro ⟨⟩
  emptied later := absurd rfl later

theorem covered_beginning (now : Int) (guardId commit : String) (rounds : Nat) :
    guardProtocol.Covered System.anyAction (beginning now guardId commit rounds) := by
  refine ⟨trivial, fun actor => ?_⟩
  cases actor
  exact Protocol.Holds.ended guards_runGuard _ trivial (Counting.initial now)

section

variable {now : Int} {guardId commit : String} {rounds : Nat}
  {config : Config Desk Input Unit Unit}
  (reachable : guardSystem.Reachable System.anyAction (beginning now guardId commit rounds) config)
  {newer older : List Event}

include reachable

theorem justified_of_reachable : Justified config.shared.log :=
  (guardProtocol_follows.covered_of_run (covered_beginning now guardId commit rounds) reachable).1

/-- At the exit no pause is in force, or its restoration was tried up to the end of a minute. -/
theorem finished_restores {restored : Bool} {state : PauseState} {time : Int}
    (log : config.shared.log = newer ++ .finished restored state time :: older) :
    if restored then inForce older = none else Exhausted older time := by
  have justified := justified_of_reachable reachable
  rw [log] at justified
  exact justified.entry

/-- The result is 0 only after a release and a restoration, and always after them unless
something failed. -/
theorem returned_after_release {code : Nat}
    (log : config.shared.log = newer ++ .returned code :: older) :
    ∃ restored state time rest, older = .finished restored state time :: rest ∧
      (code = 0 → inForce rest = none ∧ releasedBy rest = some "release") ∧
      (restored = true → releasedBy rest = some "release" → hasFailed rest = false → code = 0) := by
  have justified := justified_of_reachable reachable
  rw [log] at justified
  obtain ⟨restored, state, time, rest, rfl, succeeded, approved⟩ := justified.entry
  refine ⟨restored, state, time, rest, rfl, fun zero => ?_, approved⟩
  obtain ⟨rfl, released⟩ := succeeded zero
  exact ⟨justified.older.2.1, released⟩

end

/-! ### A released guard -/

/-- The DAGs are idle, the guard is released, and its exit starts to restore. -/
def releasedStart : List (Move Desk Input Unit Unit) :=
  System.acts () .done 3 ++ .act () (.dags [("大沙河国际网球中心巡检", false)] none) ::
    .act () .done :: .act () (.counts 0 0) ::
    (System.acts () .done 3 ++ .act () (.counts 0 0) :: .act () .done :: .act () (.time 1000) ::
      (System.acts () .done 2 ++ .act () (.text "release") :: System.acts () .done 6))

/-- What it paused is restored. -/
def releasedGuard : List (Move Desk Input Unit Unit) :=
  releasedStart ++ .act () (.answer true) :: System.acts () .done 2

/-- What it paused is not restored, and a minute passes. -/
def strandedGuard : List (Move Desk Input Unit Unit) :=
  releasedStart ++ .act () (.answer false) ::
    .environment (fun desk => { desk with now := desk.now + (60 : Nat) }) :: System.acts () .done 3

/-- The history up to the first look of the exit. -/
def startLog : List Event :=
  [.looked 0, .exiting [("大沙河国际网球中心巡检", false)] 0, .released "release",
    .drained ⟨"guard", "commit", 1000, 2530, [("大沙河国际网球中心巡检", false)]⟩ 1620,
    .counted 0 0, .counted 0 0, .paused [("大沙河国际网球中心巡检", false)]]

def releasedLog : List Event :=
  .returned 0 :: .finished true [("大沙河国际网球中心巡检", false)] 0 ::
    .restoring [("大沙河国际网球中心巡检", false)] (some true) 0 :: startLog

def strandedLog : List Event :=
  .returned 1 :: .finished false [("大沙河国际网球中心巡检", false)] 60 :: .looked 60 ::
    .restoring [("大沙河国际网球中心巡检", false)] (some false) 0 :: startLog

theorem legal_releasedStart : ∀ move ∈ releasedStart, guardSystem.Legal move := by
  simp only [releasedStart, List.forall_mem_cons, List.forall_mem_append]
  exact ⟨System.legal_acts, trivial, trivial, trivial, System.legal_acts, trivial, trivial,
    trivial, System.legal_acts, trivial, System.legal_acts⟩

theorem releasedGuard_log : ∃ config : Config Desk Input Unit Unit,
    guardSystem.Reachable System.anyAction (beginning 0 "guard" "commit" 9) config ∧
      config.shared.log = releasedLog := by
  have legal : ∀ move ∈ releasedGuard, guardSystem.Legal move := by
    simp only [releasedGuard, List.forall_mem_cons, List.forall_mem_append]
    exact ⟨legal_releasedStart, trivial, System.legal_acts⟩
  have replayed : (guardSystem.replay System.anyAction (beginning 0 "guard" "commit" 9)
      releasedGuard).any (fun config => decide (config.shared.log = releasedLog)) = true := by
    decide +kernel
  obtain ⟨config, reachable, log⟩ := System.exists_reachable_of_replay legal replayed
  exact ⟨config, reachable, of_decide_eq_true log⟩

theorem strandedGuard_log : ∃ config : Config Desk Input Unit Unit,
    guardSystem.Reachable System.anyAction (beginning 0 "guard" "commit" 9) config ∧
      config.shared.log = strandedLog := by
  have legal : ∀ move ∈ strandedGuard, guardSystem.Legal move := by
    simp only [strandedGuard, List.forall_mem_cons, List.forall_mem_append]
    exact ⟨legal_releasedStart, trivial, fun desk => ⟨60, rfl⟩, System.legal_acts⟩
  have replayed : (guardSystem.replay System.anyAction (beginning 0 "guard" "commit" 9)
      strandedGuard).any (fun config => decide (config.shared.log = strandedLog)) = true := by
    decide +kernel
  obtain ⟨config, reachable, log⟩ := System.exists_reachable_of_replay legal replayed
  exact ⟨config, reachable, of_decide_eq_true log⟩

theorem twoExits_restores :
    (∃ (config : Config Desk Input Unit Unit) (newer older : List Event) (state : PauseState)
      (time : Int),
      guardSystem.Reachable System.anyAction (beginning 0 "guard" "commit" 9) config ∧
      config.shared.log = newer ++ .finished true state time :: older ∧ inForce older = none) ∧
    ∃ (config : Config Desk Input Unit Unit) (newer older : List Event) (state : PauseState)
      (time : Int),
      guardSystem.Reachable System.anyAction (beginning 0 "guard" "commit" 9) config ∧
      config.shared.log = newer ++ .finished false state time :: older ∧ Exhausted older time := by
  constructor
  · obtain ⟨config, reachable, log⟩ := releasedGuard_log
    have finished : config.shared.log =
        [.returned 0] ++ .finished true _ 0 :: releasedLog.drop 2 := log
    exact ⟨config, _, _, _, _, reachable, finished, finished_restores reachable finished⟩
  · obtain ⟨config, reachable, log⟩ := strandedGuard_log
    have finished : config.shared.log =
        [.returned 1] ++ .finished false _ 60 :: strandedLog.drop 2 := log
    exact ⟨config, _, _, _, _, reachable, finished, finished_restores reachable finished⟩

theorem releasedGuard_returns : ∃ (config : Config Desk Input Unit Unit) (rest : List Event)
    (restored : Bool) (state : PauseState) (time : Int),
    guardSystem.Reachable System.anyAction (beginning 0 "guard" "commit" 9) config ∧
    config.shared.log = .returned 0 :: .finished restored state time :: rest ∧
    inForce rest = none ∧ releasedBy rest = some "release" := by
  obtain ⟨config, reachable, log⟩ := releasedGuard_log
  have returned : config.shared.log = [] ++ .returned 0 :: releasedLog.drop 1 := log
  obtain ⟨restored, state, time, rest, finished, succeeded, _⟩ :=
    returned_after_release reachable returned
  refine ⟨config, rest, restored, state, time, reachable, ?_, succeeded rfl⟩
  rw [returned, finished]
  rfl

end TennisAlerts.PiHost.DagGuard
