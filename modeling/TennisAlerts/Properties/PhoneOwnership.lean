import TennisAlerts.Concurrent.RelyGuarantee
import TennisAlerts.PiHost.DeviceGuard
import Mathlib.Data.List.Infix

/-!
# Exclusive ownership of a phone

Every phone has at most one owner: a create under way or one entry of the map.
A session is used by one call at a time, a lease is released once and, after a
session creation was started, only when the session was reported absent.
-/

namespace TennisAlerts.PiHost

open TennisAlerts.Concurrent

/-! ## The property -/

/-- Entries of the map and creates under way that are about the device. -/
def owners (device : String) (guard : Guard) : Nat :=
  guard.owned.countP (guard.about device) + guard.creating.count device

/-- Callbacks and closes that are using the session. -/
def inFlight (sessionId : String) : List Event → Nat
  | [] => 0
  | .entered _ _ session _ :: older =>
      if session = sessionId then inFlight sessionId older + 1 else inFlight sessionId older
  | .left _ session :: older =>
      if session = sessionId then inFlight sessionId older - 1 else inFlight sessionId older
  | _ :: older => inFlight sessionId older

/-- After the session of the lease was registered, `inspectRemote` did not list it. -/
def ReportedAbsent (lease : Nat) (log : List Event) : Prop :=
  ∃ device sessionId sessions older,
    .inspected device sessions :: older <:+ log ∧ sessionId ∉ sessions ∧
      .registered lease device sessionId ∈ older

/-- What may be recorded over an older history: a create only before the guard is
fenced, the use of a session only while no call uses it, the release of a lease
only once and not while its session may exist. -/
def Admissible (older : List Event) : Event → Prop
  | .reserved _ _ => .fenced ∉ older
  | .entered _ _ sessionId use =>
      inFlight sessionId older = 0 ∧ (use = .callback → .fenced ∉ older)
  | .released lease =>
      .released lease ∉ older ∧ (.started lease ∈ older → ReportedAbsent lease older)
  | _ => True

/-- Every entry was admissible when it was recorded. -/
def Orderly : List Event → Prop
  | [] => True
  | event :: older => Admissible older event ∧ Orderly older

/-- Phones are owned exclusively. -/
structure PhonesExclusive (guard : Guard) : Prop where
  oneOwner : ∀ device, owners device guard ≤ 1
  orderly : Orderly guard.log
  fenced : guard.closing = true ↔ .fenced ∈ guard.log
  retained : ∀ lease device, .retained lease device ∈ guard.log →
    guard.get (pendingKey device) = some lease ∧ (guard.entries lease).busy = true ∧
      .released lease ∉ guard.log

/-- Identifiers of sessions are unique: a session that the registry lists newly
has one that no earlier session had and that is not a key of the guard's own. -/
def uniqueIds : Nat → Label → Guard → Input → Prop
  | _, .plain, _, _ => True
  | _, .registry device previous, guard, input =>
      ∀ created ∈ input.sessions.bind (newSession device previous),
        isPending created.sessionId = false ∧
          ∀ event ∈ guard.log, event.session ≠ some created.sessionId

instance : ∀ call label guard input, Decidable (uniqueIds call label guard input)
  | _, .plain, _, _ => isTrue trivial
  | _, .registry device previous, guard, input =>
      inferInstanceAs (Decidable (∀ created ∈ input.sessions.bind (newSession device previous),
        isPending created.sessionId = false ∧
          ∀ event ∈ guard.log, event.session ≠ some created.sessionId))

/-! ## The protocol -/

/-- The call that is responsible for the lease. -/
def holder (lease : Nat) : List Event → Option Nat
  | [] => none
  | .acquired call other :: older => if other = lease then some call else holder lease older
  | .registered other _ _ :: older => if other = lease then none else holder lease older
  | .entered call other _ _ :: older => if other = lease then some call else holder lease older
  | .left other _ :: older => if other = lease then none else holder lease older
  | _ :: older => holder lease older

/-- The call that is creating a session on the device. -/
def reserver (device : String) : List Event → Option Nat
  | [] => none
  | .reserved call other :: older => if other = device then some call else reserver device older
  | .unreserved other :: older => if other = device then none else reserver device older
  | _ :: older => reserver device older

/-- The pair of the map. -/
def Guard.Owns (guard : Guard) (key : String) (lease : Nat) : Prop :=
  some (key, lease) ∈ guard.owned

/-- Where leases are kept: in the map under the key that was given to their
entry, until they are released. -/
structure Placed (guard : Guard) : Prop where
  keyed : ∀ key lease, guard.Owns key lease →
    (∃ device, .registered lease device key ∈ guard.log) ∨
      ∃ device, key = pendingKey device ∧ .retained lease device ∈ guard.log
  keys : ∀ key first second, guard.Owns key first → guard.Owns key second → first = second
  unreleased : ∀ key lease, guard.Owns key lease → .released lease ∉ guard.log
  device : ∀ lease device key, .registered lease device key ∈ guard.log →
    (guard.entries lease).device.name = device
  unique : ∀ first second device device' key, .registered first device key ∈ guard.log →
    .registered second device' key ∈ guard.log → first = second
  once : ∀ lease device device' key key', .registered lease device key ∈ guard.log →
    .registered lease device' key' ∈ guard.log → key = key'
  foreign : ∀ lease device key, .registered lease device key ∈ guard.log → isPending key = false
  retained : ∀ lease device, .retained lease device ∈ guard.log →
    guard.Owns (pendingKey device) lease ∧ (guard.entries lease).device.name = device

/-- Who is responsible for the leases: no call for an idle entry, the call that
uses it for a session in use, and no later call for a retained one. -/
structure Custody (guard : Guard) : Prop where
  allocated : ∀ event ∈ guard.log, ∀ lease, event.lease = some lease → lease < guard.leases
  idle : ∀ key lease, guard.Owns key lease → (guard.entries lease).busy = false →
    holder lease guard.log = none
  flight : ∀ key, inFlight key guard.log ≠ 0 → inFlight key guard.log = 1 ∧
    ∃ lease device call, .registered lease device key ∈ guard.log ∧
      holder lease guard.log = some call
  busy : ∀ lease device, .retained lease device ∈ guard.log → (guard.entries lease).busy = true

structure GuardInvariant (guard : Guard) : Prop where
  oneOwner : ∀ device, owners device guard ≤ 1
  orderly : Orderly guard.log
  fenced : guard.closing = true ↔ .fenced ∈ guard.log
  creating : ∀ device, device ∈ guard.creating ↔ (reserver device guard.log).isSome
  placed : Placed guard
  custody : Custody guard

/-- What a call relies on: the devices it reserved and the leases it holds. -/
structure GuardRely (call : Nat) (before after : Guard) : Prop where
  grows : before.log <:+ after.log
  reserved : ∀ device, reserver device before.log = some call →
    reserver device after.log = some call
  held : ∀ lease, holder lease before.log = some call → holder lease after.log = some call
  own : ∀ lease, holder lease before.log = some call → ∀ event, event.lease = some lease →
    event ∈ after.log → event ∈ before.log

def guardProtocol : Protocol Guard Nat where
  invariant := GuardInvariant
  rely := GuardRely
  resting _ _ := True

/-- A move of a call. -/
structure Moves (call : Nat) (before after : Guard) : Prop where
  invariant : GuardInvariant after
  guarantees : guardProtocol.Guarantees call before after

theorem GuardRely.trans {call : Nat} {before middle after : Guard}
    (first : GuardRely call before middle) (second : GuardRely call middle after) :
    GuardRely call before after where
  grows := first.grows.trans second.grows
  reserved device held := second.reserved device (first.reserved device held)
  held lease held := second.held lease (first.held lease held)
  own lease held event about member :=
    first.own lease held event about
      (second.own lease (first.held lease held) event about member)

theorem GuardRely.refl (call : Nat) (guard : Guard) : GuardRely call guard guard where
  grows := List.suffix_rfl
  reserved _ held := held
  held _ held := held
  own _ _ _ _ member := member

theorem Moves.trans {call : Nat} {before middle after : Guard} (first : Moves call before middle)
    (second : Moves call middle after) : Moves call before after where
  invariant := second.invariant
  guarantees _ different :=
    (first.guarantees different).trans (second.guarantees different)

/-! ## The map -/

theorem owns_of_get {guard : Guard} {key : String} {lease : Nat}
    (found : guard.get key = some lease) : guard.Owns key lease := by
  obtain ⟨slot, member, value⟩ := List.exists_of_findSome?_eq_some found
  cases slot with
  | none => cases value
  | some pair =>
      rw [Option.bind_some] at value
      split at value
      · rename_i same
        cases value
        rw [← same]
        exact member
      · cases value

theorem not_owns_of_get {guard : Guard} {key : String} (missing : guard.get key = none)
    (lease : Nat) : ¬guard.Owns key lease := by
  intro owned
  have absent := List.findSome?_eq_none_iff.mp missing _ owned
  simp at absent

theorem get_eq_none {guard : Guard} {key : String} (missing : ∀ lease, ¬guard.Owns key lease) :
    guard.get key = none := by
  cases found : guard.get key with
  | none => rfl
  | some lease => exact absurd (owns_of_get found) (missing lease)

theorem Placed.get_of_owns {guard : Guard} (placed : Placed guard)
    {key : String} {lease : Nat} (owned : guard.Owns key lease) : guard.get key = some lease := by
  cases found : guard.get key with
  | none => exact absurd owned (not_owns_of_get found lease)
  | some other => rw [placed.keys key lease other owned (owns_of_get found)]

/-! ## Entries of the history -/

/-- Entries that say where a lease is kept. -/
def Event.places : Event → Bool
  | .registered _ _ _ | .retained _ _ | .released _ => true
  | _ => false

/-- Entries that change neither who holds a lease nor where it is kept. -/
def Event.inert : Event → Bool
  | .reserved _ _ | .unreserved _ | .fenced | .inspected _ _ | .started _ => true
  | _ => false

section

variable {event : Event} {log : List Event}

theorem holder_of_inert (inert : event.inert = true) (lease : Nat) :
    holder lease (event :: log) = holder lease log := by
  cases event <;> first | rfl | cases inert

theorem inFlight_of_inert (inert : event.inert = true) (key : String) :
    inFlight key (event :: log) = inFlight key log := by
  cases event <;> first | rfl | cases inert

/-- An entry about another lease does not change the holder. -/
theorem holder_of_other {lease : Nat} (other : event.lease ≠ some lease) :
    holder lease (event :: log) = holder lease log := by
  cases event <;> simp_all [Event.lease, holder]

theorem reserver_of_lease {lease : Nat} (about : event.lease = some lease) (device : String) :
    reserver device (event :: log) = reserver device log := by
  cases event <;> first | rfl | cases about

theorem mem_of_holder {lease call : Nat} (held : holder lease log = some call) :
    ∃ event ∈ log, event.lease = some lease := by
  induction log with
  | nil => cases held
  | cons event log ih =>
      by_cases about : event.lease = some lease
      · exact ⟨event, List.mem_cons_self, about⟩
      · rw [holder_of_other about] at held
        obtain ⟨older, member, same⟩ := ih held
        exact ⟨older, List.mem_cons_of_mem event member, same⟩

/-- A call relies on an entry about neither its devices nor its leases. -/
theorem guardRely_of_record {before after : Guard} {call : Nat}
    (recorded : after.log = event :: before.log)
    (reserved : ∀ device, reserver device before.log = some call →
      reserver device (event :: before.log) = some call)
    (free : ∀ lease, event.lease = some lease → holder lease before.log ≠ some call) :
    GuardRely call before after where
  grows := by
    rw [recorded]
    exact List.suffix_cons event before.log
  reserved := by
    rw [recorded]
    exact reserved
  held lease held := by
    rw [recorded, holder_of_other]
    · exact held
    · exact fun about => free lease about held
  own lease held other about member := by
    rw [recorded] at member
    rcases List.mem_cons.mp member with rfl | member
    · exact absurd held (free lease about)
    · exact member

theorem guardRely_of_lease {before after : Guard} {call other lease : Nat}
    (recorded : after.log = event :: before.log) (about : event.lease = some lease)
    (mine : ∀ other, holder lease before.log = some other → other = call)
    (different : other ≠ call) : GuardRely other before after := by
  apply guardRely_of_record recorded
  · intro device reserved
    rw [reserver_of_lease about]
    exact reserved
  · intro named same held
    rw [about] at same
    cases same
    exact different (mine other held)

/-- A lease that some call holds was handed out. -/
theorem Custody.lt_leases {guard : Guard} (custody : Custody guard) {lease call : Nat}
    (held : holder lease guard.log = some call) : lease < guard.leases := by
  obtain ⟨event, member, about⟩ := mem_of_holder held
  exact custody.allocated event member lease about

theorem mem_of_not_places {before after : Guard} (recorded : after.log = event :: before.log)
    (unplaced : event.places = false) {other : Event} (places : other.places = true) :
    other ∈ after.log ↔ other ∈ before.log := by
  have different : other ≠ event := by
    rintro rfl
    rw [unplaced] at places
    cases places
  simp [recorded, different]

/-- Other entries leave the leases where they are. -/
theorem Placed.record {before after : Guard} (placed : Placed before)
    (unplaced : event.places = false) (owned : after.owned = before.owned)
    (devices : ∀ lease, (after.entries lease).device = (before.entries lease).device)
    (recorded : after.log = event :: before.log) : Placed after := by
  have owns : ∀ key lease, after.Owns key lease ↔ before.Owns key lease := by
    simp [Guard.Owns, owned]
  have registered : ∀ lease device key, .registered lease device key ∈ after.log ↔
      .registered lease device key ∈ before.log :=
    fun _ _ _ => mem_of_not_places recorded unplaced rfl
  have kept : ∀ lease device, .retained lease device ∈ after.log ↔
      .retained lease device ∈ before.log :=
    fun _ _ => mem_of_not_places recorded unplaced rfl
  have released : ∀ lease, .released lease ∈ after.log ↔ .released lease ∈ before.log :=
    fun _ => mem_of_not_places recorded unplaced rfl
  obtain ⟨keyed, keys, unreleased, device, unique, once, foreign, retained⟩ := placed
  constructor <;> simp only [owns, registered, kept, released, devices] <;> assumption

/-- An inert entry leaves the custody of the leases as it is. -/
theorem Custody.inert {before after : Guard} (custody : Custody before)
    (inert : event.inert = true)
    (handed : ∀ lease, event.lease = some lease → lease < before.leases)
    (owned : after.owned = before.owned) (entries : after.entries = before.entries)
    (leases : after.leases = before.leases) (recorded : after.log = event :: before.log) :
    Custody after := by
  have owns : ∀ key lease, after.Owns key lease ↔ before.Owns key lease := by
    simp [Guard.Owns, owned]
  have unplaced : event.places = false := by
    cases event <;> first | rfl | cases inert
  have registered : ∀ lease device key, .registered lease device key ∈ after.log ↔
      .registered lease device key ∈ before.log :=
    fun _ _ _ => mem_of_not_places recorded unplaced rfl
  have kept : ∀ lease device, .retained lease device ∈ after.log ↔
      .retained lease device ∈ before.log :=
    fun _ _ => mem_of_not_places recorded unplaced rfl
  have holders : ∀ lease, holder lease after.log = holder lease before.log := by
    simp [recorded, holder_of_inert inert]
  have flights : ∀ key, inFlight key after.log = inFlight key before.log := by
    simp [recorded, inFlight_of_inert inert]
  constructor
  case allocated =>
    intro other member lease about
    rw [leases]
    rw [recorded] at member
    rcases List.mem_cons.mp member with rfl | member
    · exact handed lease about
    · exact custody.allocated other member lease about
  all_goals simp only [owns, registered, kept, holders, flights, entries]
  · exact custody.idle
  · exact custody.flight
  · exact custody.busy

end

/-! ## Moves -/

section

variable {guard : Guard} {call : Nat}

theorem moves_reserve (invariant : GuardInvariant guard) {device : String}
    (unfenced : guard.closing = false) (unowned : guard.owned.any (guard.about device) = false)
    (unreserved : device ∉ guard.creating) : Moves call guard (guard.reserve call device) := by
  obtain ⟨oneOwner, orderly, fenced, creating, placed, custody⟩ := invariant
  have free : reserver device guard.log = none := by
    have absent := mt (creating device).mpr unreserved
    simpa using absent
  refine ⟨⟨?_, ⟨?_, orderly⟩, ?_, ?_, placed.record rfl rfl (fun _ => rfl) rfl, ?_⟩, ?_⟩
  · intro other
    have before := oneOwner other
    have zero : guard.owned.countP (guard.about device) = 0 := by
      simpa [List.countP_eq_zero] using unowned
    have none : guard.creating.count device = 0 := List.count_eq_zero.mpr unreserved
    change guard.owned.countP (guard.about other) + (guard.creating ++ [device]).count other ≤ 1
    unfold owners at before
    by_cases same : other = device
    · subst other
      simp [zero, none]
    · have different : [device].count other = 0 := by simp [Ne.symm same]
      rw [List.count_append, different]
      exact before
  · change Event.fenced ∉ guard.log
    simpa [unfenced] using fenced
  · simpa [Guard.reserve, Guard.record] using fenced
  · intro other
    have before := creating other
    simp only [Guard.reserve, Guard.record, reserver]
    grind
  · exact custody.inert rfl (by simp [Event.lease]) rfl rfl rfl rfl
  · intro other different
    refine guardRely_of_record rfl ?_ (by simp [Event.lease])
    intro reserved held
    have apart : device ≠ reserved := by
      rintro rfl
      rw [free] at held
      cases held
    simp only [reserver, if_neg apart]
    exact held

theorem guardRely_unreserve {device : String} (mine : reserver device guard.log = some call)
    {other : Nat} (different : other ≠ call) : GuardRely other guard (guard.unreserve device) := by
  refine guardRely_of_record rfl ?_ (by simp [Event.lease])
  intro reserved held
  have apart : device ≠ reserved := by
    rintro rfl
    rw [mine] at held
    cases held
    exact different rfl
  simp only [reserver, if_neg apart]
  exact held

theorem creating_unreserve {device : String}
    (creating : ∀ device, device ∈ guard.creating ↔ (reserver device guard.log).isSome)
    (other : String) :
    other ∈ (guard.unreserve device).creating ↔
      (reserver other (guard.unreserve device).log).isSome := by
  have before := creating other
  simp only [Guard.unreserve, Guard.record, reserver]
  grind

theorem moves_unreserve (invariant : GuardInvariant guard) {device : String}
    (mine : reserver device guard.log = some call) : Moves call guard (guard.unreserve device) := by
  obtain ⟨oneOwner, orderly, fenced, creating, placed, custody⟩ := invariant
  refine ⟨⟨?_, ⟨trivial, orderly⟩, ?_, creating_unreserve creating,
    placed.record rfl rfl (fun _ => rfl) rfl, ?_⟩, fun _ different => ?_⟩
  · intro other
    refine le_trans ?_ (oneOwner other)
    apply Nat.add_le_add_left
    exact (List.filter_sublist (p := _)).count_le other
  · simpa [Guard.unreserve, Guard.record] using fenced
  · exact custody.inert rfl (by simp [Event.lease]) rfl rfl rfl rfl
  · exact guardRely_unreserve mine different

theorem moves_fence (invariant : GuardInvariant guard) : Moves call guard guard.fence := by
  obtain ⟨oneOwner, orderly, fenced, creating, placed, custody⟩ := invariant
  refine ⟨⟨oneOwner, ⟨trivial, orderly⟩, by simp [Guard.fence, Guard.record], creating,
    placed.record rfl rfl (fun _ => rfl) rfl, ?_⟩, ?_⟩
  · exact custody.inert rfl (by simp [Event.lease]) rfl rfl rfl rfl
  · intro other different
    exact guardRely_of_record rfl (fun _ held => held) (by simp [Event.lease])

theorem moves_inspected (invariant : GuardInvariant guard) (device : String)
    (sessions : List String) :
    Moves call guard (guard.record (.inspected device sessions)) := by
  obtain ⟨oneOwner, orderly, fenced, creating, placed, custody⟩ := invariant
  refine ⟨⟨oneOwner, ⟨trivial, orderly⟩, ?_, creating,
    placed.record rfl rfl (fun _ => rfl) rfl, ?_⟩, ?_⟩
  · simpa [Guard.record] using fenced
  · exact custody.inert rfl (by simp [Event.lease]) rfl rfl rfl rfl
  · intro other different
    exact guardRely_of_record rfl (fun _ held => held) (by simp [Event.lease])

theorem moves_started (invariant : GuardInvariant guard) {lease : Nat}
    (mine : holder lease guard.log = some call) :
    Moves call guard (guard.record (.started lease)) := by
  obtain ⟨oneOwner, orderly, fenced, creating, placed, custody⟩ := invariant
  refine ⟨⟨oneOwner, ⟨trivial, orderly⟩, ?_, creating,
    placed.record rfl rfl (fun _ => rfl) rfl, ?_⟩, ?_⟩
  · simpa [Guard.record] using fenced
  · refine custody.inert rfl ?_ rfl rfl rfl rfl
    intro named about
    cases about
    exact custody.lt_leases mine
  · intro other different
    refine guardRely_of_lease rfl rfl ?_ different
    intro holding held
    rw [mine] at held
    exact (Option.some.inj held).symm

/-- The next lease is new. -/
theorem Custody.fresh (custody : Custody guard) {event : Event} (member : event ∈ guard.log) :
    event.lease ≠ some guard.leases := by
  intro about
  exact absurd (custody.allocated event member _ about) (lt_irrefl _)

theorem moves_acquired (invariant : GuardInvariant guard) :
    Moves call guard
      ({ guard with leases := guard.leases + 1 }.record (.acquired call guard.leases)) := by
  obtain ⟨oneOwner, orderly, fenced, creating, placed, custody⟩ := invariant
  have older : ∀ lease, lease ≠ guard.leases →
      holder lease (.acquired call guard.leases :: guard.log) = holder lease guard.log :=
    fun lease different => holder_of_other (by simpa [Event.lease] using Ne.symm different)
  refine ⟨⟨oneOwner, ⟨trivial, orderly⟩, ?_, creating,
    placed.record rfl rfl (fun _ => rfl) rfl, ⟨?_, ?_, ?_, ?_⟩⟩, ?_⟩
  · simpa [Guard.record] using fenced
  · intro event member lease about
    apply Nat.lt_succ_of_le
    rcases List.mem_cons.mp member with rfl | member
    · cases about
      exact le_rfl
    · exact (custody.allocated event member lease about).le
  · intro key lease owns quiet
    refine (older lease ?_).trans (custody.idle key lease owns quiet)
    rintro rfl
    rcases placed.keyed key _ owns with ⟨device, member⟩ | ⟨device, _, member⟩
    · exact custody.fresh member rfl
    · exact custody.fresh member rfl
  · intro key busy
    obtain ⟨single, lease, device, holding, registered, held⟩ := custody.flight key busy
    refine ⟨single, lease, device, holding, List.mem_cons_of_mem _ registered, ?_⟩
    refine (older lease ?_).trans held
    rintro rfl
    exact custody.fresh registered rfl
  · intro lease device member
    exact custody.busy lease device (List.mem_of_ne_of_mem (by simp) member)
  · intro other different
    refine guardRely_of_lease rfl rfl ?_ different
    intro holding held
    exact absurd (custody.lt_leases held) (lt_irrefl _)

/-- A lease that no entry of the map and no release knows about yet. -/
structure Uncommitted (lease : Nat) (log : List Event) : Prop where
  registered : ∀ device key, .registered lease device key ∉ log
  retained : ∀ device, .retained lease device ∉ log
  released : .released lease ∉ log

theorem Uncommitted.record {lease : Nat} {log : List Event} (uncommitted : Uncommitted lease log)
    {event : Event} (unplaced : event.places = false) : Uncommitted lease (event :: log) := by
  obtain ⟨unregistered, unretained, unreleased⟩ := uncommitted
  have different : ∀ other : Event, other.places = true → other ≠ event := by
    rintro other places rfl
    rw [unplaced] at places
    cases places
  refine ⟨fun device key => ?_, fun device => ?_, ?_⟩
  · simpa [different (.registered lease device key) rfl] using unregistered device key
  · simpa [different (.retained lease device) rfl] using unretained device
  · simpa [different (.released lease) rfl] using unreleased

theorem Uncommitted.not_owns (placed : Placed guard) {lease : Nat}
    (uncommitted : Uncommitted lease guard.log) (key : String) : ¬guard.Owns key lease := by
  intro owns
  rcases placed.keyed key lease owns with ⟨device, member⟩ | ⟨device, _, member⟩
  · exact uncommitted.registered device key member
  · exact uncommitted.retained device member

/-- A new key is added behind the others. -/
theorem owned_set {key : String} (missing : guard.get key = none) (lease : Nat) (entry : Entry) :
    (guard.set key lease entry).owned = guard.owned ++ [some (key, lease)] := by
  simp [Guard.set, missing]

theorem owns_set {key : String} (missing : guard.get key = none) (lease : Nat) (entry : Entry)
    (event : Event) (other : String) (named : Nat) :
    ((guard.set key lease entry).record event).Owns other named ↔
      guard.Owns other named ∨ (other = key ∧ named = lease) := by
  simp [Guard.Owns, Guard.record, owned_set missing]

theorem entries_set (key : String) (lease : Nat) (entry : Entry) :
    (guard.set key lease entry).entries = Function.update guard.entries lease entry :=
  rfl

/-- The device passes from the create under way to the new entry. -/
theorem owners_set (oneOwner : ∀ device, owners device guard ≤ 1) {key : String} {lease : Nat}
    {entry : Entry} (missing : guard.get key = none) (unowned : ∀ key, ¬guard.Owns key lease)
    (creating : entry.device.name ∈ guard.creating) (event : Event) (device : String) :
    owners device (((guard.set key lease entry).record event).unreserve entry.device.name) ≤ 1 := by
  have same : guard.owned.countP ((guard.set key lease entry).about device) =
      guard.owned.countP (guard.about device) := by
    apply List.countP_congr
    intro slot member
    cases slot with
    | none => rfl
    | some pair =>
        have apart : pair.2 ≠ lease := by
          rintro rfl
          exact unowned pair.1 member
        simp [Guard.about, entries_set, Function.update_of_ne apart]
  have before := oneOwner device
  change (guard.set key lease entry).owned.countP ((guard.set key lease entry).about device) +
    (guard.creating.filter (· ≠ entry.device.name)).count device ≤ 1
  rw [owned_set missing, List.countP_append, same]
  unfold owners at before
  by_cases own : device = entry.device.name
  · subst device
    have reserved : 0 < guard.creating.count entry.device.name := List.count_pos_iff.mpr creating
    have gone : (guard.creating.filter (· ≠ entry.device.name)).count entry.device.name = 0 := by
      simp [List.count_eq_zero]
    have single := List.countP_le_length (l := [some (key, lease)])
      (p := (guard.set key lease entry).about entry.device.name)
    simp only [List.length_singleton] at single
    omega
  · have none : [some (key, lease)].countP ((guard.set key lease entry).about device) = 0 := by
      simp [Guard.about, entries_set, Ne.symm own]
    have kept := (List.filter_sublist (l := guard.creating)
      (p := (· ≠ entry.device.name))).count_le device
    omega

section HandOver

variable {lease : Nat} {key : String} {entry : Entry} {event : Event} {after : Guard}

/-- The lease is put into the map under a new key. -/
structure HandedOver (guard : Guard) (key : String) (lease : Nat) (entry : Entry) (event : Event)
    (after : Guard) : Prop where
  owns : ∀ other named, after.Owns other named ↔
    guard.Owns other named ∨ (other = key ∧ named = lease)
  entry : after.entries lease = entry
  entries : ∀ named, named ≠ lease → after.entries named = guard.entries named
  leases : after.leases = guard.leases
  log : after.log = event :: guard.log

theorem handedOver_set (missing : guard.get key = none) (lease : Nat) (entry : Entry)
    (event : Event) :
    HandedOver guard key lease entry event ((guard.set key lease entry).record event) where
  owns := owns_set missing lease entry event
  entry := Function.update_self ..
  entries _ different := Function.update_of_ne different ..
  leases := rfl
  log := rfl

theorem Placed.register (placed : Placed guard) (uncommitted : Uncommitted lease guard.log)
    (missing : guard.get key = none) (foreign : isPending key = false)
    (fresh : ∀ other name, .registered other name key ∉ guard.log)
    (handed : HandedOver guard key lease entry (.registered lease entry.device.name key) after) :
    Placed after := by
  have unowned := uncommitted.not_owns placed
  have lost := not_owns_of_get missing
  obtain ⟨unregistered, unretained, unreleased⟩ := uncommitted
  obtain ⟨owns, put, entries, leases, log⟩ := handed
  obtain ⟨keyed, keys, kept, device, unique, once, alien, retained⟩ := placed
  constructor <;> grind

theorem Placed.retain (placed : Placed guard) (entry : Entry)
    (uncommitted : Uncommitted lease guard.log)
    (missing : guard.get (pendingKey entry.device.name) = none)
    (handed : HandedOver guard (pendingKey entry.device.name) lease entry
      (.retained lease entry.device.name) after) : Placed after := by
  have unowned := uncommitted.not_owns placed
  have lost := not_owns_of_get missing
  obtain ⟨unregistered, unretained, unreleased⟩ := uncommitted
  obtain ⟨owns, put, entries, leases, log⟩ := handed
  obtain ⟨keyed, keys, kept, device, unique, once, alien, retained⟩ := placed
  constructor <;> grind

theorem Custody.register (placed : Placed guard) (custody : Custody guard)
    (held : holder lease guard.log = some call) (uncommitted : Uncommitted lease guard.log)
    {name : String} (handed : HandedOver guard key lease entry (.registered lease name key) after) :
    Custody after := by
  have unowned := uncommitted.not_owns placed
  have small := custody.lt_leases held
  obtain ⟨unregistered, unretained, unreleased⟩ := uncommitted
  obtain ⟨owns, put, entries, leases, log⟩ := handed
  obtain ⟨allocated, idle, flight, busy⟩ := custody
  constructor <;> grind [Event.lease, holder, inFlight]

theorem Custody.retain (placed : Placed guard) (custody : Custody guard)
    (held : holder lease guard.log = some call) (uncommitted : Uncommitted lease guard.log)
    (stays : entry.busy = true) {name : String}
    (handed : HandedOver guard key lease entry (.retained lease name) after) : Custody after := by
  have unowned := uncommitted.not_owns placed
  have small := custody.lt_leases held
  obtain ⟨unregistered, unretained, unreleased⟩ := uncommitted
  obtain ⟨owns, put, entries, leases, log⟩ := handed
  obtain ⟨allocated, idle, flight, busy⟩ := custody
  constructor <;> grind [Event.lease, holder, inFlight]

/-- The lease of a create under way goes into the map, and the device is free for
other creates again. -/
theorem moves_handOver (invariant : GuardInvariant guard) (entry : Entry)
    (uncommitted : Uncommitted lease guard.log)
    (reserved : reserver entry.device.name guard.log = some call)
    (mine : holder lease guard.log = some call) (missing : guard.get key = none)
    (about : event.lease = some lease) (admissible : Admissible guard.log event)
    (placed : Placed ((guard.set key lease entry).record event))
    (custody : Custody ((guard.set key lease entry).record event)) :
    Moves call guard
      (((guard.set key lease entry).record event).unreserve entry.device.name) := by
  have unowned := uncommitted.not_owns invariant.placed
  have under : entry.device.name ∈ guard.creating :=
    (invariant.creating _).mpr (by simp [reserved])
  have still : ∀ device, reserver device (event :: guard.log) = reserver device guard.log :=
    reserver_of_lease about
  refine ⟨⟨owners_set invariant.oneOwner missing unowned under event,
    ⟨trivial, admissible, invariant.orderly⟩, ?_, ?_,
    placed.record rfl rfl (fun _ => rfl) rfl, ?_⟩, ?_⟩
  · have unfenced : Event.fenced ≠ event := by
      rintro rfl
      cases about
    simpa [Guard.unreserve, Guard.record, Guard.set, unfenced] using invariant.fenced
  · apply creating_unreserve
    intro device
    change device ∈ guard.creating ↔ (reserver device (event :: guard.log)).isSome
    rw [still]
    exact invariant.creating device
  · exact custody.inert rfl (by simp [Event.lease]) rfl rfl rfl rfl
  · intro other different
    have put : GuardRely other guard ((guard.set key lease entry).record event) := by
      refine guardRely_of_lease rfl about ?_ different
      intro holding held
      rw [mine] at held
      exact (Option.some.inj held).symm
    exact put.trans (guardRely_unreserve ((still _).trans reserved) different)

end HandOver

theorem moves_register (invariant : GuardInvariant guard) {device : Device} {lease : Nat}
    {key : String} (reserved : reserver device.name guard.log = some call)
    (mine : holder lease guard.log = some call) (uncommitted : Uncommitted lease guard.log)
    (foreign : isPending key = false)
    (fresh : ∀ other name, .registered other name key ∉ guard.log) (now : Int) :
    Moves call guard (guard.register device lease key now) := by
  have missing : guard.get key = none := by
    apply get_eq_none
    intro other owns
    rcases invariant.placed.keyed key other owns with ⟨name, member⟩ | ⟨name, rfl, _⟩
    · exact fresh other name member
    · rw [isPending_pendingKey] at foreign
      cases foreign
  have handed := handedOver_set missing lease ⟨device, false, now, now⟩
    (.registered lease device.name key)
  exact moves_handOver invariant ⟨device, false, now, now⟩ uncommitted reserved mine missing rfl
    trivial
    (invariant.placed.register uncommitted missing foreign fresh handed)
    (invariant.custody.register invariant.placed mine uncommitted handed)

/-- A device under creation has no entry. -/
theorem GuardInvariant.not_about_of_creating (invariant : GuardInvariant guard) {device : String}
    (creating : device ∈ guard.creating) {key : String} {lease : Nat}
    (owns : guard.Owns key lease) : (guard.entries lease).device.name ≠ device := by
  intro same
  have reserved : 0 < guard.creating.count device := List.count_pos_iff.mpr creating
  have entry : 0 < guard.owned.countP (guard.about device) :=
    List.countP_pos_iff.mpr ⟨_, owns, by simp [Guard.about, same]⟩
  have single := invariant.oneOwner device
  unfold owners at single
  omega

theorem pendingKey_injective : Function.Injective pendingKey := by
  intro first second same
  have lists := congrArg String.toList same
  simp only [pendingKey, String.toList_append] at lists
  exact String.toList_injective (List.append_cancel_left lists)

theorem moves_retain (invariant : GuardInvariant guard) {device : Device} {lease : Nat}
    (reserved : reserver device.name guard.log = some call)
    (mine : holder lease guard.log = some call) (uncommitted : Uncommitted lease guard.log)
    (clock : Nat → Int) : Moves call guard (guard.retain device lease clock) := by
  have fence : Moves call guard guard.fence := moves_fence invariant
  have invariant' := fence.invariant
  have missing : guard.fence.get (pendingKey device.name) = none := by
    apply get_eq_none
    intro other owns
    rcases invariant.placed.keyed _ other owns with ⟨name, member⟩ | ⟨name, same, member⟩
    · have alien := invariant.placed.foreign _ _ _ member
      rw [isPending_pendingKey] at alien
      cases alien
    · -- The device would be in the map and under creation at once.
      rw [← pendingKey_injective same] at member
      have under := (invariant.creating device.name).mpr (by simp [reserved])
      exact invariant.not_about_of_creating under owns (invariant.placed.retained _ _ member).2
  have uncommitted' : Uncommitted lease guard.fence.log := uncommitted.record rfl
  have handed := handedOver_set missing lease ⟨device, true, clock 0, clock 1⟩
    (.retained lease device.name)
  exact fence.trans (moves_handOver invariant' ⟨device, true, clock 0, clock 1⟩ uncommitted'
    reserved mine missing rfl trivial
    (invariant'.placed.retain ⟨device, true, clock 0, clock 1⟩ uncommitted' missing handed)
    (invariant'.custody.retain invariant'.placed mine uncommitted' rfl handed))


/-! ### The use of a session -/

/-- The owners depend on the devices of the entries alone. -/
theorem owners_congr {after : Guard} (owned : after.owned = guard.owned)
    (creating : after.creating = guard.creating)
    (devices : ∀ lease, (after.entries lease).device = (guard.entries lease).device)
    (device : String) : owners device after = owners device guard := by
  have about : after.about device = guard.about device := by
    funext slot
    cases slot <;> simp [Guard.about, devices]
  rw [owners, owners, about, owned, creating]

theorem device_onEntry (guard : Guard) (lease : Nat) (change : Entry → Entry)
    (keeps : ∀ entry, (change entry).device = entry.device) (named : Nat) :
    ((guard.onEntry lease change).entries named).device = (guard.entries named).device := by
  by_cases same : named = lease
  · subst named
    simp [Guard.onEntry, keeps]
  · simp [Guard.onEntry, Function.update_of_ne same]

/-- What a call knows about the session it uses. -/
structure Using (call lease : Nat) (key : String) (log : List Event) : Prop where
  mine : holder lease log = some call
  registered : ∃ device, .registered lease device key ∈ log
  unretained : ∀ device, .retained lease device ∉ log

theorem moves_enter (call : Nat) (use : Use) (invariant : GuardInvariant guard) {key : String}
    {lease : Nat} (found : guard.get key = some lease) (free : (guard.entries lease).busy = false)
    (unfenced : use = .callback → guard.closing = false) :
    Moves call guard (guard.enter call lease key use) ∧
      Using call lease key (guard.enter call lease key use).log ∧
      .released lease ∉ (guard.enter call lease key use).log := by
  obtain ⟨oneOwner, orderly, fenced, creating, placed, custody⟩ := invariant
  have owns := owns_of_get found
  have unheld := custody.idle key lease owns free
  have unretained : ∀ device, .retained lease device ∉ guard.log := by
    intro device member
    rw [custody.busy lease device member] at free
    cases free
  have registered : ∃ device, .registered lease device key ∈ guard.log := by
    rcases placed.keyed key lease owns with known | ⟨device, _, member⟩
    · exact known
    · exact absurd member (unretained device)
  have unreleased := placed.unreleased key lease owns
  have unused : inFlight key guard.log = 0 := by
    by_contra used
    obtain ⟨_, other, device, holding, known, held⟩ := custody.flight key used
    obtain ⟨name, mine⟩ := registered
    rw [placed.unique other lease _ _ key known mine, unheld] at held
    cases held
  have log : (guard.enter call lease key use).log =
      .entered call lease key use :: guard.log := rfl
  have devices : ∀ named, ((guard.enter call lease key use).entries named).device =
      (guard.entries named).device :=
    device_onEntry guard lease (fun entry => { entry with busy := true }) fun _ => rfl
  have entries : ∀ named, ((guard.enter call lease key use).entries named).busy =
      if named = lease then true else (guard.entries named).busy := by
    intro named
    simp only [Guard.enter, Guard.record, Guard.onEntry, Function.update_apply]
    split <;> rfl
  refine ⟨⟨⟨?_, ⟨⟨unused, ?_⟩, orderly⟩, ?_, creating, ?_, ?_⟩, ?_⟩, ?_, ?_⟩
  · intro device
    have same : owners device (guard.enter call lease key use) = owners device guard := by
      refine owners_congr ?_ ?_ devices device <;> rfl
    exact same.trans_le (oneOwner device)
  · intro callback
    change Event.fenced ∉ guard.log
    rw [← fenced, unfenced callback]
    exact Bool.false_ne_true
  · simpa [log, Guard.enter, Guard.record, Guard.onEntry] using fenced
  · exact placed.record rfl rfl devices rfl
  · have handed : lease < guard.leases := by
      obtain ⟨device, member⟩ := registered
      exact custody.allocated _ member lease rfl
    have owns' : ∀ other named, (guard.enter call lease key use).Owns other named ↔
        guard.Owns other named := fun _ _ => Iff.rfl
    obtain ⟨allocated, idle, flight, busy⟩ := custody
    obtain ⟨device, member⟩ := registered
    have unique := placed.unique
    have once := placed.once
    constructor
    · grind [Event.lease, Guard.enter, Guard.record, Guard.onEntry]
    · grind [holder]
    · grind [holder, inFlight]
    · grind
  · intro other different
    refine guardRely_of_lease rfl rfl ?_ different
    intro holding held
    rw [unheld] at held
    cases held
  · refine ⟨by simp [log, holder], ?_, ?_⟩
    · obtain ⟨device, member⟩ := registered
      exact ⟨device, List.mem_cons_of_mem _ member⟩
    · simpa [log] using unretained
  · simpa [log] using unreleased

theorem moves_leave (invariant : GuardInvariant guard) {key : String} {lease : Nat}
    (used : Using call lease key guard.log) : Moves call guard (guard.leave lease key) := by
  obtain ⟨oneOwner, orderly, fenced, creating, placed, custody⟩ := invariant
  obtain ⟨mine, ⟨device, registered⟩, unretained⟩ := used
  have log : (guard.leave lease key).log = .left lease key :: guard.log := rfl
  have devices : ∀ named, ((guard.leave lease key).entries named).device =
      (guard.entries named).device :=
    device_onEntry guard lease (fun entry => { entry with busy := false }) fun _ => rfl
  have entries : ∀ named, ((guard.leave lease key).entries named).busy =
      if named = lease then false else (guard.entries named).busy := by
    intro named
    simp only [Guard.leave, Guard.record, Guard.onEntry, Function.update_apply]
    split <;> rfl
  refine ⟨⟨?_, ⟨trivial, orderly⟩, ?_, creating, ?_, ?_⟩, ?_⟩
  · intro name
    have same : owners name (guard.leave lease key) = owners name guard := by
      refine owners_congr ?_ ?_ devices name <;> rfl
    exact same.trans_le (oneOwner name)
  · simpa [log, Guard.leave, Guard.record, Guard.onEntry] using fenced
  · exact placed.record rfl rfl devices rfl
  · have handed := custody.lt_leases mine
    have owns' : ∀ other named, (guard.leave lease key).Owns other named ↔
        guard.Owns other named := fun _ _ => Iff.rfl
    obtain ⟨allocated, idle, flight, busy⟩ := custody
    have once := placed.once
    constructor
    · grind [Event.lease, Guard.leave, Guard.record, Guard.onEntry]
    · grind [holder]
    · grind [holder, inFlight]
    · grind
  · intro other different
    refine guardRely_of_lease rfl rfl ?_ different
    intro holding held
    rw [mine] at held
    exact (Option.some.inj held).symm

/-- Times of an entry do not matter. -/
theorem moves_touch (invariant : GuardInvariant guard) (lease : Nat) (now : Int) :
    Moves call guard (guard.onEntry lease fun entry => { entry with last := now }) := by
  obtain ⟨oneOwner, orderly, fenced, creating, placed, custody⟩ := invariant
  generalize touched : (guard.onEntry lease fun entry => { entry with last := now }) = after
  have owned : after.owned = guard.owned := by rw [← touched]; rfl
  have reserved : after.creating = guard.creating := by rw [← touched]; rfl
  have log : after.log = guard.log := by rw [← touched]; rfl
  have leases : after.leases = guard.leases := by rw [← touched]; rfl
  have closing : after.closing = guard.closing := by rw [← touched]; rfl
  have devices : ∀ named, (after.entries named).device = (guard.entries named).device := by
    rw [← touched]
    exact device_onEntry guard lease _ fun _ => rfl
  have busy : ∀ named, (after.entries named).busy = (guard.entries named).busy := by
    intro named
    simp only [← touched, Guard.onEntry, Function.update_apply]
    split
    · rename_i same
      rw [same]
    · rfl
  have owns : ∀ key named, after.Owns key named ↔ guard.Owns key named := by
    simp [Guard.Owns, owned]
  refine ⟨⟨?_, ?_, ?_, ?_, ?_, ?_⟩, ?_⟩
  · intro name
    exact (owners_congr owned reserved devices name).trans_le (oneOwner name)
  · rw [log]
    exact orderly
  · rw [log, closing]
    exact fenced
  · rw [log, reserved]
    exact creating
  · obtain ⟨keyed, keys, unreleased, device, unique, once, foreign, retained⟩ := placed
    constructor <;> simp only [owns, log, devices] <;> assumption
  · obtain ⟨allocated, idle, flight, stays⟩ := custody
    constructor <;> simp only [owns, log, busy, leases] <;> assumption
  · intro other different
    constructor <;> simp [log]

/-! ### The release of a lease -/

theorem owns_delete {key other : String} {lease : Nat} :
    (guard.delete key).Owns other lease ↔ guard.Owns other lease ∧ other ≠ key := by
  simp only [Guard.Owns, Guard.delete, List.mem_map]
  constructor
  · rintro ⟨slot, member, kept⟩
    obtain ⟨rfl, different⟩ := Option.filter_eq_some_iff.mp kept
    exact ⟨member, by simpa using different⟩
  · rintro ⟨member, different⟩
    exact ⟨_, member, by simp [different]⟩

theorem moves_delete (invariant : GuardInvariant guard) {key : String}
    (foreign : isPending key = false) : Moves call guard (guard.delete key) := by
  obtain ⟨oneOwner, orderly, fenced, creating, placed, custody⟩ := invariant
  have owns : ∀ other lease, (guard.delete key).Owns other lease ↔
      guard.Owns other lease ∧ other ≠ key := fun _ _ => owns_delete
  refine ⟨⟨?_, orderly, fenced, creating, ?_, ?_⟩, ?_⟩
  · intro device
    refine le_trans ?_ (oneOwner device)
    apply Nat.add_le_add_right
    change (guard.owned.map _).countP (guard.about device) ≤ _
    rw [List.countP_map]
    apply List.countP_mono_left
    intro slot _ about
    cases slot with
    | none => exact about
    | some pair =>
        by_cases same : pair.1 = key
        · simp [Guard.about, same] at about
        · simpa [Guard.about, same] using about
  · obtain ⟨keyed, keys, unreleased, device, unique, once, alien, retained⟩ := placed
    constructor
    case retained =>
      intro lease name member
      obtain ⟨owned, same⟩ := retained lease name member
      refine ⟨(owns _ _).mpr ⟨owned, ?_⟩, same⟩
      rintro rfl
      rw [isPending_pendingKey] at foreign
      cases foreign
    · intro other lease owned
      exact keyed other lease ((owns _ _).mp owned).1
    · intro other first second owned owned'
      exact keys other first second ((owns _ _).mp owned).1 ((owns _ _).mp owned').1
    · intro other lease owned
      exact unreleased other lease ((owns _ _).mp owned).1
    all_goals assumption
  · obtain ⟨allocated, idle, flight, busy⟩ := custody
    refine ⟨allocated, ?_, flight, busy⟩
    intro other lease owned
    exact idle other lease ((owns _ _).mp owned).1
  · intro other different
    exact ⟨List.suffix_rfl, fun _ held => held, fun _ held => held, fun _ _ _ _ member => member⟩

theorem moves_release (invariant : GuardInvariant guard) {lease : Nat}
    (mine : holder lease guard.log = some call) (unowned : ∀ key, ¬guard.Owns key lease)
    (unreleased : .released lease ∉ guard.log)
    (absent : .started lease ∈ guard.log → ReportedAbsent lease guard.log) :
    Moves call guard (guard.release lease) := by
  obtain ⟨oneOwner, orderly, fenced, creating, placed, custody⟩ := invariant
  have log : (guard.release lease).log = .released lease :: guard.log := rfl
  refine ⟨⟨oneOwner, ⟨⟨unreleased, absent⟩, orderly⟩, ?_, creating, ?_, ?_⟩, ?_⟩
  · simpa [log, Guard.release, Guard.record] using fenced
  · have owns : ∀ key named, (guard.release lease).Owns key named ↔ guard.Owns key named :=
      fun _ _ => Iff.rfl
    have entries : (guard.release lease).entries = guard.entries := rfl
    obtain ⟨keyed, keys, kept, device, unique, once, alien, retained⟩ := placed
    constructor <;> grind
  · have handed := custody.lt_leases mine
    have owns : ∀ key named, (guard.release lease).Owns key named ↔ guard.Owns key named :=
      fun _ _ => Iff.rfl
    have entries : (guard.release lease).entries = guard.entries := rfl
    have leases : (guard.release lease).leases = guard.leases := rfl
    obtain ⟨allocated, idle, flight, busy⟩ := custody
    constructor <;> grind [Event.lease, holder, inFlight]
  · intro other different
    refine guardRely_of_lease rfl rfl ?_ different
    intro holding held
    rw [mine] at held
    exact (Option.some.inj held).symm

end

/-! ## Assertions of a call -/

section

variable {call lease : Nat} {key device : String} {before after : Guard}

theorem GuardRely.not_mem (relied : GuardRely call before after)
    (mine : holder lease before.log = some call) {event : Event} (about : event.lease = some lease)
    (absent : event ∉ before.log) : event ∉ after.log :=
  fun member => absent (relied.own lease mine event about member)

theorem Using.rely (relied : GuardRely call before after)
    (used : Using call lease key before.log) : Using call lease key after.log where
  mine := relied.held lease used.mine
  registered := by
    obtain ⟨device, member⟩ := used.registered
    exact ⟨device, relied.grows.subset member⟩
  unretained device := relied.not_mem used.mine rfl (used.unretained device)

theorem Uncommitted.rely (relied : GuardRely call before after)
    (mine : holder lease before.log = some call) (uncommitted : Uncommitted lease before.log) :
    Uncommitted lease after.log where
  registered device key := relied.not_mem mine rfl (uncommitted.registered device key)
  retained device := relied.not_mem mine rfl (uncommitted.retained device)
  released := relied.not_mem mine rfl uncommitted.released

/-- A create that has its lease. -/
structure Creates (call : Nat) (device : String) (lease : Nat) (log : List Event) : Prop where
  reserved : reserver device log = some call
  mine : holder lease log = some call
  uncommitted : Uncommitted lease log

theorem Creates.rely (relied : GuardRely call before after)
    (creates : Creates call device lease before.log) : Creates call device lease after.log where
  reserved := relied.reserved device creates.reserved
  mine := relied.held lease creates.mine
  uncommitted := creates.uncommitted.rely relied creates.mine

/-- A close that has not given its lease up. -/
def Closes (call lease : Nat) (key : String) (guard : Guard) : Prop :=
  Using call lease key guard.log ∧ .released lease ∉ guard.log

theorem Closes.stable : guardProtocol.Stable call (Closes call lease key) := by
  intro before after _ _ relied closes
  exact ⟨closes.1.rely relied, relied.not_mem closes.1.mine rfl closes.2⟩

theorem Using.stable : guardProtocol.Stable call fun guard => Using call lease key guard.log := by
  intro before after _ _ relied used
  exact used.rely relied

end

/-! ## The methods -/

section

variable {call : Nat}

/-- The triple of the guard's protocol. -/
def GuardValid {α : Type} (call : Nat) (pre : Guard → Prop) (script : Script α)
    (post : α → Guard → Prop) : Prop :=
  guardProtocol.Valid uniqueIds call pre script post

theorem anything_stable : guardProtocol.Stable call fun _ => True :=
  fun _ _ _ _ _ _ => trivial

theorem valid_segment {α : Type} {pre : Guard → Prop} {post : α → Guard → Prop} {label : Label}
    {takes : Answer → Bool} {run : Input → Guard → α × Guard}
    (stable : guardProtocol.Stable call pre)
    (step : ∀ guard input, GuardInvariant guard → pre guard → uniqueIds call label guard input →
      Moves call guard (run input guard).2 ∧ post (run input guard).1 (run input guard).2) :
    GuardValid call pre (segment label takes run) post := by
  refine Protocol.valid_act (fun before input after => post (run input before).1 after) stable
    ?_ fun _ _ => Protocol.valid_ret fun _ _ holds => holds
  intro guard input after invariant holds permitted acted
  split at acted
  · cases acted
    obtain ⟨moves, reached⟩ := step guard input invariant holds permitted
    exact ⟨moves.invariant, moves.guarantees, reached⟩
  · cases acted

/-- What holds after a segment that may end its method. -/
def Awaiting {α : Type} (assertion : α → Guard → Prop) : Outcome α → Guard → Prop
  | .done _, _ => True
  | .await pending, guard => assertion pending guard

theorem valid_andThen {α : Type} {assertion : α → Guard → Prop} {rest : α → Script Response}
    (continues : ∀ pending, GuardValid call (assertion pending) (rest pending) fun _ _ => True)
    (outcome : Outcome α) :
    GuardValid call (Awaiting assertion outcome) (outcome.andThen rest) fun _ _ => True := by
  cases outcome with
  | done response => exact Protocol.valid_ret fun _ _ _ => trivial
  | await pending => exact continues pending

theorem Moves.refl {guard : Guard} (invariant : GuardInvariant guard) :
    Moves call guard guard where
  invariant := invariant
  guarantees other _ := GuardRely.refl other guard

/-! ### `close` -/

section

variable {guard : Guard} {key : String} {lease : Nat}

theorem moves_giveUp (invariant : GuardInvariant guard) (closes : Closes call lease key guard)
    {sessions : List String} (gone : key ∉ sessions) :
    Moves call guard ((guard.inspectEntry lease sessions).giveUp key lease) ∧
      Using call lease key ((guard.inspectEntry lease sessions).giveUp key lease).log := by
  obtain ⟨⟨mine, ⟨device, registered⟩, unretained⟩, unreleased⟩ := closes
  have inspect : Moves call guard (guard.inspectEntry lease sessions) :=
    moves_inspected invariant _ _
  have foreign := invariant.placed.foreign _ _ _ registered
  have delete : Moves call _ ((guard.inspectEntry lease sessions).delete key) :=
    moves_delete inspect.invariant foreign
  have unowned : ∀ other, ¬((guard.inspectEntry lease sessions).delete key).Owns other lease := by
    intro other owns
    obtain ⟨owned, different⟩ := owns_delete.mp owns
    rcases invariant.placed.keyed other lease owned with ⟨name, member⟩ | ⟨name, _, member⟩
    · exact different (invariant.placed.once lease _ _ _ _ member registered)
    · exact unretained name member
  have absent : ReportedAbsent lease ((guard.inspectEntry lease sessions).delete key).log := by
    refine ⟨device, key, sessions, guard.log, ?_, gone, registered⟩
    rw [← invariant.placed.device lease device key registered]
    exact List.suffix_rfl
  have release : Moves call _ ((guard.inspectEntry lease sessions).giveUp key lease) :=
    moves_release delete.invariant mine unowned
      (by simpa [Guard.inspectEntry, Guard.delete, Guard.record] using unreleased) fun _ => absent
  refine ⟨inspect.trans (delete.trans release), mine, ⟨device, ?_⟩, fun name => ?_⟩
  · simpa [Guard.giveUp, Guard.release, Guard.inspectEntry, Guard.delete, Guard.record]
      using registered
  · simpa [Guard.giveUp, Guard.release, Guard.inspectEntry, Guard.delete, Guard.record]
      using unretained name

theorem Closes.inspected (closes : Closes call lease key guard) (device : String)
    (sessions : List String) :
    Closes call lease key (guard.record (.inspected device sessions)) := by
  obtain ⟨⟨mine, ⟨name, registered⟩, unretained⟩, unreleased⟩ := closes
  refine ⟨⟨mine, ⟨name, List.mem_cons_of_mem _ registered⟩, ?_⟩, ?_⟩
  · simpa [Guard.record] using unretained
  · simpa [Guard.record] using unreleased

theorem valid_closeReleased :
    GuardValid call (fun guard => Using call lease key guard.log) (closeReleased key lease)
      fun _ _ => True :=
  valid_segment Using.stable fun _ _ invariant used _ => ⟨moves_leave invariant used, trivial⟩

theorem valid_closeConfirmed :
    GuardValid call (Closes call lease key)
      (segment .plain Answer.ofInspect (closeConfirmed key lease))
      (Awaiting fun _ guard => Using call lease key guard.log) := by
  apply valid_segment Closes.stable
  intro guard input invariant closes _
  unfold closeConfirmed
  split
  · rename_i sessions _
    split
    · have inspect : Moves call guard (guard.inspectEntry lease sessions) :=
        moves_inspected invariant _ _
      have used := (closes.inspected (guard.entries lease).device.name sessions).1
      exact ⟨inspect.trans (moves_leave inspect.invariant used), trivial⟩
    · rename_i gone
      exact moves_giveUp invariant closes gone
  · exact ⟨moves_leave invariant closes.1, trivial⟩

theorem valid_deleteAnswered :
    GuardValid call (Closes call lease key)
      (segment .plain Answer.ofInvoke (deleteAnswered key lease))
      (Awaiting fun _ => Closes call lease key) := by
  apply valid_segment Closes.stable
  intro guard input invariant closes _
  have leave : Moves call guard (guard.leave lease key) := moves_leave invariant closes.1
  unfold deleteAnswered
  split
  · exact ⟨leave, trivial⟩
  · split
    · exact ⟨leave, trivial⟩
    · split
      · exact ⟨leave, trivial⟩
      · exact ⟨Moves.refl invariant, closes⟩
  · exact ⟨leave, trivial⟩

/-- What holds after the first answer of `inspectRemote`. -/
def AfterInspection (call lease : Nat) (key : String) : Closing → Guard → Prop
  | .releasing, guard => Using call lease key guard.log
  | .deleting, guard => Closes call lease key guard

theorem valid_closeInspected :
    GuardValid call (Closes call lease key)
      (segment .plain Answer.ofInspect (closeInspected key lease))
      (Awaiting (AfterInspection call lease key)) := by
  apply valid_segment Closes.stable
  intro guard input invariant closes _
  unfold closeInspected
  split
  · rename_i sessions _
    split
    · exact ⟨moves_inspected invariant _ _, closes.inspected _ _⟩
    · rename_i gone
      exact moves_giveUp invariant closes gone
  · exact ⟨moves_leave invariant closes.1, trivial⟩

theorem valid_closeRest :
    GuardValid call (Closes call lease key) (closeRest key lease) fun _ _ => True := by
  apply Protocol.Valid.bind _ valid_closeInspected
  apply valid_andThen
  intro closing
  cases closing with
  | releasing => exact valid_closeReleased
  | deleting =>
      apply Protocol.Valid.bind _ valid_deleteAnswered
      apply valid_andThen
      intro _
      apply Protocol.Valid.bind _ valid_closeConfirmed
      apply valid_andThen
      intro _
      exact valid_closeReleased

theorem moves_closeStart (call : Nat) (invariant : GuardInvariant guard)
    (sessionId : Option String) :
    Moves call guard (closeStart call sessionId guard).2 ∧
      Awaiting (fun pending => Closes call pending.2 pending.1)
        (closeStart call sessionId guard).1 (closeStart call sessionId guard).2 := by
  unfold closeStart
  split
  · exact ⟨Moves.refl invariant, trivial⟩
  · split
    · exact ⟨Moves.refl invariant, trivial⟩
    · rename_i found
      split
      · exact ⟨Moves.refl invariant, trivial⟩
      · rename_i free
        exact moves_enter call .close invariant found (by simpa using free) nofun

end

/-! ### `manage` and `execute` -/

theorem reserved_stable {device : String} :
    guardProtocol.Stable call fun guard => reserver device guard.log = some call := by
  intro before after _ _ relied reserved
  exact relied.reserved device reserved

/-- A create before its session is asked for. -/
def Prepares (call : Nat) (device : String) (lease : Nat) (guard : Guard) : Prop :=
  Creates call device lease guard.log ∧ .started lease ∉ guard.log

theorem Prepares.stable {device : String} {lease : Nat} :
    guardProtocol.Stable call (Prepares call device lease) := by
  intro before after _ _ relied prepares
  exact ⟨prepares.1.rely relied, relied.not_mem prepares.1.mine rfl prepares.2⟩

theorem Creates.stable {device : String} {lease : Nat} :
    guardProtocol.Stable call fun guard => Creates call device lease guard.log := by
  intro before after _ _ relied creates
  exact creates.rely relied

theorem valid_acquireAnswered {device : Device} :
    GuardValid call (fun guard => reserver device.name guard.log = some call)
      (segment .plain Answer.ofAcquire (acquireAnswered call device))
      (Awaiting (Prepares call device.name)) := by
  apply valid_segment reserved_stable
  intro guard input invariant reserved _
  unfold acquireAnswered
  split
  · refine ⟨moves_acquired invariant, ⟨reserved, by simp [Guard.record, holder], ?_⟩, ?_⟩
    · have uncommitted : Uncommitted guard.leases guard.log := by
        refine ⟨fun device key member => ?_, fun device member => ?_, fun member => ?_⟩ <;>
          exact invariant.custody.fresh member rfl
      exact uncommitted.record rfl
    · simp only [Guard.record, List.mem_cons, reduceCtorEq, false_or]
      exact fun member => invariant.custody.fresh member rfl
  · exact ⟨moves_unreserve invariant reserved, trivial⟩
  · exact ⟨moves_unreserve invariant reserved, trivial⟩

theorem moves_abandon {guard : Guard} (invariant : GuardInvariant guard) {device : Device}
    {lease : Nat} (prepares : Prepares call device.name lease guard) :
    Moves call guard (guard.abandon device lease) := by
  obtain ⟨⟨reserved, mine, uncommitted⟩, unstarted⟩ := prepares
  have unreserve : Moves call guard (guard.unreserve device.name) :=
    moves_unreserve invariant reserved
  have released : .released lease ∉ (guard.unreserve device.name).log := by
    simpa [Guard.unreserve, Guard.record] using uncommitted.released
  refine unreserve.trans (moves_release unreserve.invariant mine
    (uncommitted.not_owns invariant.placed) released ?_)
  intro started
  simp [Guard.unreserve, Guard.record, unstarted] at started

theorem Prepares.inspected {guard : Guard} {device : String} {lease : Nat}
    (prepares : Prepares call device lease guard) (name : String) (sessions : List String) :
    Prepares call device lease (guard.record (.inspected name sessions)) := by
  obtain ⟨⟨reserved, mine, uncommitted⟩, unstarted⟩ := prepares
  refine ⟨⟨reserved, mine, uncommitted.record rfl⟩, ?_⟩
  simpa [Guard.record] using unstarted

/-- What holds after the answer about foreign sessions. -/
def AfterForeign (call : Nat) (device : String) (lease : Nat) : Creating → Guard → Prop
  | .abandoned _, _ => True
  | .invoked _, guard => Creates call device lease guard.log

theorem valid_foreignInspected {device : Device} {lease : Nat} :
    GuardValid call (Prepares call device.name lease)
      (segment .plain Answer.ofInspect (foreignInspected device lease))
      (AfterForeign call device.name lease) := by
  apply valid_segment Prepares.stable
  intro guard input invariant prepares _
  have abandon : ∀ sessions, Moves call guard
      ((guard.record (.inspected device.name sessions)).abandon device lease) := by
    intro sessions
    have inspect : Moves call guard (guard.record (.inspected device.name sessions)) :=
      moves_inspected invariant _ _
    exact inspect.trans (moves_abandon inspect.invariant (prepares.inspected _ _))
  unfold foreignInspected
  split
  · split
    · exact ⟨abandon [], trivial⟩
    · have inspect : Moves call guard (guard.record (.inspected device.name [])) :=
        moves_inspected invariant _ _
      obtain ⟨⟨reserved, mine, uncommitted⟩, _⟩ := prepares.inspected device.name []
      exact ⟨inspect.trans (moves_started inspect.invariant mine), reserved, mine,
        uncommitted.record rfl⟩
  · exact ⟨abandon _, trivial⟩
  · exact ⟨moves_abandon invariant prepares, trivial⟩

theorem valid_createAnswered {options : Options} {device : Device} {lease : Nat}
    {previous : List String} :
    GuardValid call (fun guard => Creates call device.name lease guard.log)
      (segment (.registry device previous) Answer.ofInvoke
        (createAnswered options device lease previous))
      fun _ _ => True := by
  apply valid_segment Creates.stable
  intro guard input invariant creates unique
  unfold createAnswered
  split
  · rename_i created _ listed
    obtain ⟨foreign, fresh⟩ := unique created listed
    refine ⟨moves_register invariant creates.reserved creates.mine creates.uncommitted foreign
      (fun other name member => ?_) _, trivial⟩
    exact fresh _ member rfl
  · exact ⟨moves_retain invariant creates.reserved creates.mine creates.uncommitted _, trivial⟩

theorem valid_createRest {options : Options} {device : Device} :
    GuardValid call (fun guard => reserver device.name guard.log = some call)
      (createRest options call device) fun _ _ => True := by
  apply Protocol.Valid.bind _ valid_acquireAnswered
  apply valid_andThen
  intro lease
  apply Protocol.Valid.bind _ valid_foreignInspected
  intro creating
  cases creating with
  | abandoned code =>
      exact valid_segment anything_stable fun _ _ invariant _ _ => ⟨Moves.refl invariant, trivial⟩
  | invoked previous => exact valid_createAnswered

/-- What holds after the first segment of `manage`. -/
def AfterManage (call : Nat) : Managing → Guard → Prop
  | .closing sessionId lease, guard => Closes call lease sessionId guard
  | .creating device, guard => reserver device.name guard.log = some call

theorem moves_manageStart {options : Options} {args : ManageArgs} {guard : Guard}
    (invariant : GuardInvariant guard) :
    Moves call guard (manageStart options call args guard).2 ∧
      Awaiting (AfterManage call) (manageStart options call args guard).1
        (manageStart options call args guard).2 := by
  unfold manageStart
  split
  · exact ⟨Moves.refl invariant, trivial⟩
  · rename_i unfenced
    split
    · exact ⟨Moves.refl invariant, trivial⟩
    · rename_i sessionId
      obtain ⟨moves, closes⟩ := moves_closeStart call invariant sessionId
      split <;> rename_i started <;> rw [started] at moves closes <;> exact ⟨moves, closes⟩
    · exact ⟨Moves.refl invariant, trivial⟩
    · split
      · exact ⟨Moves.refl invariant, trivial⟩
      · split
        · exact ⟨Moves.refl invariant, trivial⟩
        · rename_i free
          rw [not_or] at free
          refine ⟨moves_reserve invariant (by simpa using unfenced) (by simpa using free.2)
            free.1, ?_⟩
          simp [Awaiting, AfterManage, Guard.reserve, Guard.record, reserver]

theorem valid_manage {options : Options} {args : ManageArgs} :
    GuardValid call (fun _ => True) (manage options call args) fun _ _ => True := by
  apply Protocol.Valid.bind (Awaiting (AfterManage call))
  · exact valid_segment anything_stable fun _ _ invariant _ _ => moves_manageStart invariant
  · apply valid_andThen
    intro managing
    cases managing with
    | closing sessionId lease => exact valid_closeRest
    | creating device => exact valid_createRest

theorem moves_executeStart {options : Options} {sessionId : Option String} {guard : Guard}
    {input : Input} (invariant : GuardInvariant guard) :
    Moves call guard (executeStart options call sessionId input guard).2 ∧
      Awaiting (fun running guard => Using call running.2 running.1 guard.log)
        (executeStart options call sessionId input guard).1
        (executeStart options call sessionId input guard).2 := by
  unfold executeStart
  split
  · exact ⟨Moves.refl invariant, trivial⟩
  · rename_i unfenced
    split
    · exact ⟨Moves.refl invariant, trivial⟩
    · split
      · exact ⟨Moves.refl invariant, trivial⟩
      · rename_i found
        split
        · exact ⟨Moves.refl invariant, trivial⟩
        · split
          · exact ⟨Moves.refl invariant, trivial⟩
          · rename_i free
            split
            · exact ⟨Moves.refl invariant, trivial⟩
            · obtain ⟨moves, used, _⟩ := moves_enter call .callback invariant found
                (by simpa using free) fun _ => by simpa using unfenced
              exact ⟨moves, used⟩

theorem valid_execute {options : Options} {sessionId : Option String} :
    GuardValid call (fun _ => True) (execute options call sessionId) fun _ _ => True := by
  apply Protocol.Valid.bind (Awaiting fun running guard => Using call running.2 running.1 guard.log)
  · exact valid_segment anything_stable fun _ _ invariant _ _ => moves_executeStart invariant
  · apply valid_andThen
    intro running
    apply valid_segment Using.stable
    intro guard input invariant used _
    have leave : Moves call guard (guard.leave running.2 running.1) := moves_leave invariant used
    exact ⟨leave.trans (moves_touch leave.invariant _ _), trivial⟩

/-! ### `sweep` and `shutdown` -/

/-- What holds after a step of the loop. -/
def AfterIterate (call : Nat) (next : Option (Nat × Outcome (String × Nat))) (guard : Guard) :
    Prop :=
  ∀ position started, next = some (position, started) →
    Awaiting (fun pending => Closes call pending.2 pending.1) started guard

theorem moves_iterate (test : Input → Guard → Nat → String × Nat → Bool) (position : Nat)
    (input : Input) {guard : Guard} (invariant : GuardInvariant guard) :
    Moves call guard (iterate call test position input guard).2 ∧
      AfterIterate call (iterate call test position input guard).1
        (iterate call test position input guard).2 := by
  unfold iterate
  split
  · exact ⟨Moves.refl invariant, nofun⟩
  · rename_i found sessionId _
    obtain ⟨moves, closes⟩ := moves_closeStart call invariant (some sessionId)
    refine ⟨moves, ?_⟩
    intro position started same
    cases same
    exact closes

theorem AfterIterate.stable {next : Option (Nat × Outcome (String × Nat))} :
    guardProtocol.Stable call (AfterIterate call next) := by
  intro before after beforeInv afterInv relied holds position started same
  have awaiting := holds position started same
  cases started with
  | done response => trivial
  | await pending => exact Closes.stable beforeInv afterInv relied awaiting

theorem valid_closeLoop {test : Input → Guard → Nat → String × Nat → Bool} (rounds : Nat) :
    ∀ next, GuardValid call (AfterIterate call next) (closeLoop call test rounds next)
      fun _ _ => True := by
  induction rounds with
  | zero =>
      intro next
      cases next <;> exact Protocol.valid_ret fun _ _ _ => trivial
  | succ rounds ih =>
      intro next
      cases next with
      | none => exact Protocol.valid_ret fun _ _ _ => trivial
      | some next =>
          obtain ⟨position, started⟩ := next
          apply Protocol.Valid.bind fun _ _ => True
          · have closing : GuardValid call
                (Awaiting (fun pending => Closes call pending.2 pending.1) started)
                (started.andThen fun pending => closeRest pending.1 pending.2) fun _ _ => True :=
              valid_andThen (fun _ => valid_closeRest) started
            exact closing.mono (fun _ _ holds => holds position started rfl) fun _ _ _ _ => trivial
          · intro _
            apply Protocol.Valid.bind (AfterIterate call)
            · exact valid_segment anything_stable fun _ _ invariant _ _ =>
      moves_iterate _ _ _ invariant
            · exact ih

theorem valid_sweep {options : Options} {rounds : Nat} :
    GuardValid call (fun _ => True) (sweep options call rounds) fun _ _ => True := by
  apply Protocol.Valid.bind (AfterIterate call)
  · exact valid_segment anything_stable fun _ _ invariant _ _ =>
      moves_iterate _ _ _ invariant
  · exact valid_closeLoop rounds

/-- What holds after a look at the calls under way. -/
def AfterDrain (call : Nat) (next : Option (Option (Nat × Outcome (String × Nat))))
    (guard : Guard) : Prop :=
  ∀ started, next = some started → AfterIterate call started guard

theorem moves_drain (call : Nat) (deadline : Int) (input : Input) {guard : Guard}
    (invariant : GuardInvariant guard) :
    Moves call guard (drain call deadline input guard).2 ∧
      AfterDrain call (drain call deadline input guard).1 (drain call deadline input guard).2 := by
  unfold drain
  split
  · exact ⟨Moves.refl invariant, nofun⟩
  · have iterated := @moves_iterate call (fun _ _ _ _ => true) 0 input guard invariant
    refine ⟨iterated.1, ?_⟩
    intro started same
    cases same
    exact iterated.2

theorem valid_drainLoop {deadline : Int} (rounds : Nat) :
    ∀ next, GuardValid call (AfterDrain call next) (drainLoop call deadline rounds next)
      fun _ _ => True := by
  induction rounds with
  | zero =>
      intro next
      cases next with
      | none => exact Protocol.valid_ret fun _ _ _ => trivial
      | some started =>
          exact (valid_closeLoop 0 started).mono (fun _ _ holds => holds started rfl)
            fun _ _ _ _ => trivial
  | succ rounds ih =>
      intro next
      cases next with
      | none =>
          apply Protocol.Valid.bind (AfterDrain call)
          · apply (valid_segment anything_stable fun _ _ invariant _ _ =>
              moves_drain call deadline _ invariant).mono (fun _ _ _ => trivial)
                fun _ _ _ holds => holds
          · exact ih
      | some started =>
          exact (valid_closeLoop (rounds + 1) started).mono (fun _ _ holds => holds started rfl)
            fun _ _ _ _ => trivial

theorem valid_shutdown {rounds : Nat} :
    GuardValid call (fun _ => True) (shutdown call rounds) fun _ _ => True := by
  apply Protocol.Valid.bind fun started => AfterDrain call started.2
  · apply valid_segment anything_stable
    intro guard input invariant _ _
    have fence : Moves call guard guard.fence := moves_fence invariant
    obtain ⟨moves, drained⟩ := moves_drain call (input.clock 0 + 45000)
      ⟨input.answer, fun n => input.clock (n + 1), input.alive, input.sessions⟩ fence.invariant
    exact ⟨fence.trans moves, drained⟩
  · intro started
    exact valid_drainLoop rounds started.2

end

/-! ## Exclusive ownership -/

theorem guardProtocol_follows (options : Options) :
    guardProtocol.Follows (guardSystem options) uniqueIds where
  restingStable _ := anything_stable
  operations call script operation := by
    have finish : ∀ {method : Script Response},
        GuardValid call (fun _ => True) method (fun _ _ => True) →
          GuardValid call (fun _ => True) (do let _ ← method) fun _ _ => True := by
      intro method valid
      exact Protocol.Valid.bind _ valid fun _ => Protocol.valid_ret fun _ _ _ => trivial
    cases operation with
    | manage args => exact finish valid_manage
    | execute sessionId => exact finish valid_execute
    | sweep rounds => exact finish valid_sweep
    | shutdown rounds => exact finish valid_shutdown
  crashes call guard invariant :=
    ⟨invariant, fun other _ => GuardRely.refl other guard, trivial⟩
  environments before after invariant same := by
    cases same
    exact ⟨invariant, fun call => GuardRely.refl call before⟩

theorem guardInvariant_new : GuardInvariant Guard.new where
  oneOwner device := by simp [owners, Guard.new]
  orderly := trivial
  fenced := by simp [Guard.new]
  creating device := by simp [Guard.new, reserver]
  placed := by constructor <;> simp [Guard.new, Guard.Owns]
  custody := by constructor <;> simp [Guard.new, Guard.Owns, inFlight]

theorem GuardInvariant.phonesExclusive {guard : Guard} (invariant : GuardInvariant guard) :
    PhonesExclusive guard where
  oneOwner := invariant.oneOwner
  orderly := invariant.orderly
  fenced := invariant.fenced
  retained lease device member := by
    obtain ⟨owns, _⟩ := invariant.placed.retained lease device member
    exact ⟨invariant.placed.get_of_owns owns, invariant.custody.busy lease device member,
      invariant.placed.unreleased _ lease owns⟩

/-- Whatever `acquire`, `inspectRemote`, `invokeSession` and the callbacks answer,
phones are owned exclusively after any interleaving of calls. -/
theorem phonesExclusive_of_reachable (options : Options) {config : Config Guard Input Label Nat}
    (reachable : (guardSystem options).Reachable uniqueIds (System.idle Guard.new) config) :
    PhonesExclusive config.shared :=
  ((guardProtocol_follows options).invariant_of_reachable guardInvariant_new (fun _ => trivial)
    reachable).phonesExclusive

/-! ### A run -/

/-- Two phones with the default limits. -/
def twoPhones : Options where
  devices := [⟨"phone_1", "first"⟩, ⟨"phone_2", "second"⟩]
  idleMs := 30000
  maxLeaseMs := 120000

/-- An answer at time zero with the listed sessions. -/
def answered (answer : Answer) (sessions : List Session) : Input :=
  ⟨answer, fun _ => 0, true, some sessions⟩

/-- A session is created, used and closed while the creation of another one fails. -/
def twoCreates : List (Move Guard Input Label Nat) :=
  [.start 0 (do let _ ← manage twoPhones 0 (.create (some "phone_1"))),
    .start 1 (do let _ ← manage twoPhones 1 (.create (some "phone_2"))),
    .act 0 (answered .none []), .act 1 (answered .none []),
    .act 0 (answered (.lease true) []), .act 1 (answered (.lease true) []),
    .act 1 (answered (.remote []) []), .act 0 (answered (.remote []) []),
    .act 0 (answered (.response false) [⟨"session", some "first"⟩]),
    .start 0 (do let _ ← execute twoPhones 0 (some "session")), .act 0 (answered .none []),
    .act 1 (answered .threw []), .act 0 (answered .settled []),
    .start 2 (do let _ ← shutdown 2 4), .act 2 (answered .none []),
    .act 2 ⟨.settled, fun _ => 45000, true, some []⟩, .act 2 (answered (.remote []) []),
    .act 2 (answered .settled [])]

theorem legal_twoCreates : ∀ move ∈ twoCreates, (guardSystem twoPhones).Legal move := by
  simp only [twoCreates, List.forall_mem_cons]
  exact ⟨.manage _, .manage _, trivial, trivial, trivial, trivial, trivial, trivial, trivial,
    .execute _, trivial, trivial, trivial, .shutdown _, trivial, trivial, trivial, trivial, nofun⟩

/-- The run keeps the phone of the failed creation and releases the other one. -/
theorem twoCreates_exclusive : ∃ config,
    (guardSystem twoPhones).Reachable uniqueIds (System.idle Guard.new) config ∧
      .retained 1 "phone_2" ∈ config.shared.log ∧ .released 0 ∈ config.shared.log ∧
      PhonesExclusive config.shared := by
  have replayed : ((guardSystem twoPhones).replay uniqueIds (System.idle Guard.new)
      twoCreates).any (fun config => decide (.retained 1 "phone_2" ∈ config.shared.log ∧
        .released 0 ∈ config.shared.log)) = true := by
    decide
  obtain ⟨config, reachable, ends⟩ :=
    System.exists_reachable_of_replay legal_twoCreates replayed
  obtain ⟨retained, released⟩ := of_decide_eq_true ends
  exact ⟨config, reachable, retained, released, phonesExclusive_of_reachable twoPhones reachable⟩

end TennisAlerts.PiHost
