import TennisAlerts.Database.Quota
import TennisAlerts.HostCore.Subscriptions
import Mathlib.Data.List.Sort

/-!
# Creating subscriptions

Requests of one email are serialized by its advisory lock, but `_maintenance` does
not take it, and the query for an equal subscription leaves out rows that the unique
index still covers.  The constraint names the statements at which this shows.
-/

namespace TennisAlerts.HostCore.Subscriptions

open TennisAlerts.Database TennisAlerts.Concurrent Discipline

/-! ## The property -/

/-- `subscriptions_active_dedupe_idx`. -/
def UniqueActive (rows : Rows subscribing) : Prop :=
  ∀ first second (row other : SubscriptionRow) dedupeKey,
    rows .subscriptions first = some row → rows .subscriptions second = some other →
    row.active = true → other.active = true → row.email = other.email →
    row.dedupeKey = some dedupeKey → other.dedupeKey = some dedupeKey → first = second

/-- The foreign key of `subscription_venues`. -/
def VenuesOwned (rows : Rows subscribing) : Prop :=
  ∀ subscriptionId venueId entry, rows .venues (subscriptionId, venueId) = some entry →
    ∃ row : SubscriptionRow, rows .subscriptions subscriptionId = some row

/-- The tier of an email has room for its unexpired subscriptions. -/
def WithinLimit (context : Context) (email : String) (now : Int) (rows : Rows subscribing) : Prop :=
  rows.AtMost .subscriptions (context.limits.of (tierOfRow (rows .tiers email)))
    fun row : SubscriptionRow => unexpired email now row = true

/-- A step that creates a subscription stays within the limit, then and later. -/
def CreatesWithinLimit (context : Context) (_ : Rows subscribing) (log : List Event)
    (later : Rows subscribing) (laterLog : List Event) : Prop :=
  ∀ email subscriptionId now, laterLog = .created email subscriptionId now :: log →
    ∀ instant, now ≤ instant → WithinLimit context email instant later

/-- An active subscription with the key whose term has ended, and which is renewed
automatically, so that no sweep ends it. -/
def lapsed (email dedupeKey : String) (now : Int) (row : SubscriptionRow) : Bool :=
  decide (row.email = email) && decide (row.dedupeKey = some dedupeKey) && row.active &&
    row.autoRenew && decide (row.activeUntil ≤ now)

/-- The request that a mark stands for counts the row. -/
def countedBy (row : SubscriptionRow) : LockKey → Bool
  | .creating email now => unexpired email now row
  | _ => false

/-- The mark of a request of the email. -/
def creatingFor (email : String) : LockKey → Bool
  | .creating address _ => decide (address = email)
  | _ => false

/-- The statements that disturb no creation: an equal subscription is looked for where
none has lapsed, no renewal adds to what a request under way has counted, and no
request under way loses its limit by a promotion. -/
def uninterrupted (context : Context) : Nat → Label → SubscriptionServer → Input → Prop
  | _, .other, _, _ => True
  | tx, .duplicateCheck email dedupeKey now, server, _ =>
      ∀ entry ∈ (server.view tx .subscriptions).rows, lapsed email dedupeKey now entry.2 = false
  | tx, .renewal, server, _ =>
      ∀ entry ∈ (server.view tx .subscriptions).rows, ∀ held ∈ server.locks,
        countedBy entry.2 held.1 = true →
          (server.base .subscriptions entry.1).any (countedBy · held.1) = true
  | _, .promotion email, server, _ =>
      context.limits.standard ≤ context.limits.priority ∨
        ∀ held ∈ server.locks, creatingFor email held.1 = false

instance (context : Context) :
    ∀ tx label server input, Decidable (uninterrupted context tx label server input)
  | _, .other, _, _ => isTrue trivial
  | tx, .duplicateCheck email dedupeKey now, server, _ =>
      inferInstanceAs (Decidable (∀ entry ∈ (server.view tx .subscriptions).rows,
        lapsed email dedupeKey now entry.2 = false))
  | tx, .renewal, server, _ =>
      inferInstanceAs (Decidable (∀ entry ∈ (server.view tx .subscriptions).rows,
        ∀ held ∈ server.locks, countedBy entry.2 held.1 = true →
          (server.base .subscriptions entry.1).any (countedBy · held.1) = true))
  | _, .promotion email, server, _ =>
      inferInstanceAs (Decidable (context.limits.standard ≤ context.limits.priority ∨
        ∀ held ∈ server.locks, creatingFor email held.1 = false))

/-! ## What becomes of a subscription -/

/-- A subscription later: it is never activated again and its term never shortened. -/
structure Ages (old new : SubscriptionRow) : Prop where
  email : new.email = old.email
  dedupeKey : new.dedupeKey = old.dedupeKey
  autoRenew : new.autoRenew = old.autoRenew
  active : new.active = true → old.active = true
  activeUntil : old.activeUntil ≤ new.activeUntil

/-- A subscription later, without a renewal. -/
structure Ends (old new : SubscriptionRow) : Prop extends Ages old new where
  unrenewed : new.activeUntil = old.activeUntil

theorem Ages.refl (row : SubscriptionRow) : Ages row row :=
  ⟨rfl, rfl, rfl, id, le_rfl⟩

theorem Ages.trans {first second third : SubscriptionRow} (left : Ages first second)
    (right : Ages second third) : Ages first third where
  email := right.email.trans left.email
  dedupeKey := right.dedupeKey.trans left.dedupeKey
  autoRenew := right.autoRenew.trans left.autoRenew
  active holds := left.active (right.active holds)
  activeUntil := left.activeUntil.trans right.activeUntil

theorem Ends.refl (row : SubscriptionRow) : Ends row row :=
  ⟨Ages.refl row, rfl⟩

theorem Ends.trans {first second third : SubscriptionRow} (left : Ends first second)
    (right : Ends second third) : Ends first third :=
  ⟨left.toAges.trans right.toAges, right.unrenewed.trans left.unrenewed⟩

theorem ends_endRow (now : Int) (row : SubscriptionRow) : Ends row (endRow now row) :=
  ⟨⟨rfl, rfl, rfl, nofun, le_rfl⟩, rfl⟩

theorem endLapsed_eq_some {email : String} {now : Int} {row new : SubscriptionRow} :
    endLapsed email now row = some new ↔
      (row.email = email ∧ row.active = true ∧ row.activeUntil ≤ now ∧ row.autoRenew = false) ∧
        new = endRow now row := by
  unfold endLapsed endRow
  split
  · rename_i selected
    have holds : row.email = email ∧ row.active = true ∧ row.activeUntil ≤ now ∧
        row.autoRenew = false := by simpa using selected
    simp only [holds, Option.some.injEq, true_and, and_self]
    exact eq_comm
  · rename_i dismissed
    constructor
    · nofun
    · rintro ⟨holds, _⟩
      exact absurd (by simpa using holds) dismissed

theorem endSubscription_ends {now : Int} {row new : SubscriptionRow}
    (ended : endSubscription now row = some new) : Ends row new := by
  unfold endSubscription at ended
  split at ended
  · cases ended
    exact ends_endRow now row
  · cases ended

theorem renewRow_ages {now : Int} {snapshot : Database.Snapshot subscribing}
    {row new : SubscriptionRow} (renewed : renewRow now snapshot row = some new) :
    Ages row new := by
  unfold renewRow at renewed
  split at renewed
  · rename_i selected
    cases renewed
    refine ⟨rfl, rfl, rfl, id, ?_⟩
    have early := selected.2.2.1
    change row.activeUntil ≤ now + days 90
    unfold days at early ⊢
    omega
  · cases renewed

theorem unexpired_iff {email : String} {now : Int} {row : SubscriptionRow} :
    unexpired email now row = true ↔
      row.email = email ∧ row.active = true ∧ now < row.activeUntil := by
  simp [unexpired, and_assoc]

theorem Ends.unexpired {old new : SubscriptionRow} (ends : Ends old new) {email : String}
    {now : Int} (counts : Subscriptions.unexpired email now new = true) :
    Subscriptions.unexpired email now old = true := by
  rw [unexpired_iff] at counts ⊢
  exact ⟨ends.email ▸ counts.1, ends.active counts.2.1, ends.unrenewed ▸ counts.2.2⟩

/-! ## The discipline -/

/-- Subscriptions stay and age. -/
def Kept (rows later : Rows subscribing) : Prop :=
  ∀ subscriptionId (old : SubscriptionRow), rows .subscriptions subscriptionId = some old →
    ∃ new : SubscriptionRow, later .subscriptions subscriptionId = some new ∧ Ages old new

/-- What the lock of an email and the mark of its request keep others from doing. -/
structure Shields (context : Context) (held : LockKey → Prop) (rows later : Rows subscribing) :
    Prop where
  added : ∀ email, held (subscriptionLock context email) →
    ∀ subscriptionId (new : SubscriptionRow), later .subscriptions subscriptionId = some new →
    new.email = email →
    ∃ old : SubscriptionRow, rows .subscriptions subscriptionId = some old ∧ Ages old new
  counted : ∀ email now, held (subscriptionLock context email) → held (.creating email now) →
    ∀ subscriptionId (new : SubscriptionRow), later .subscriptions subscriptionId = some new →
    unexpired email now new = true →
    ∃ old : SubscriptionRow, rows .subscriptions subscriptionId = some old ∧
      unexpired email now old = true
  tier : ∀ email now, held (.creating email now) →
    context.limits.of (tierOfRow (rows .tiers email)) ≤
      context.limits.of (tierOfRow (later .tiers email))

structure CreationInvariant (rows : Rows subscribing) (log : List Event) : Prop where
  unique : UniqueActive rows
  owned : VenuesOwned rows
  unviolated : ∀ email, .violated email ∉ log

theorem ne_cons_self {log : List Event} {event : Event} : log ≠ event :: log := by
  intro same
  exact absurd (congrArg List.length same) (by simp)

theorem Shields.refl (context : Context) (held : LockKey → Prop) (rows : Rows subscribing) :
    Shields context held rows rows where
  added _ _ _ new found _ := ⟨new, found, Ages.refl new⟩
  counted _ _ _ _ _ new found counts := ⟨new, found, counts⟩
  tier _ _ _ := le_rfl

def creationDiscipline (context : Context) : Discipline subscribing LockKey Event where
  holds := CreationInvariant
  allows held rows log later laterLog := Kept rows later ∧ Shields context held rows later ∧
    CreatesWithinLimit context rows log later laterLog
  still held rows _ := ⟨fun _ old found => ⟨old, found, Ages.refl old⟩,
    Shields.refl context held rows, fun _ _ _ same => absurd same ne_cons_self⟩

/-! ## What a creation knows -/

/-- Lapsed subscriptions of the email are ended, unless they are renewed. -/
structure Swept (email : String) (now : Int) (sweep : WriteSet subscribing)
    (rows : Rows subscribing) : Prop where
  elsewhere : ∀ table, table ≠ .subscriptions → ∀ key, sweep table key = none
  ended : ∀ subscriptionId version, sweep .subscriptions subscriptionId = some version →
    ∃ old new : SubscriptionRow, rows .subscriptions subscriptionId = some old ∧
      version = some new ∧ Ends old new ∧ new.active = false
  running : ∀ subscriptionId (row : SubscriptionRow),
    sweep.apply rows .subscriptions subscriptionId = some row → row.email = email →
    row.active = true → row.autoRenew = false → now < row.activeUntil

/-- No active subscription of the email has the key. -/
def Unused (email dedupeKey : String) (sweep : WriteSet subscribing) (rows : Rows subscribing) :
    Prop :=
  ∀ subscriptionId (row : SubscriptionRow),
    sweep.apply rows .subscriptions subscriptionId = some row → row.email = email →
    row.dedupeKey = some dedupeKey → row.active = false

/-- The request may insert: the key is unused, and one more subscription is within
the limit. -/
structure Cleared (context : Context) (email dedupeKey : String) (now : Int) (count : Nat)
    (sweep : WriteSet subscribing) (rows : Rows subscribing) : Prop where
  swept : Swept email now sweep rows
  unused : Unused email dedupeKey sweep rows
  counted : (sweep.apply rows).AtMost .subscriptions count
    fun row : SubscriptionRow => unexpired email now row = true
  within : count + 1 ≤ context.limits.of (tierOfRow (rows .tiers email))

section

variable {context : Context} {email dedupeKey : String} {now : Int} {count : Nat}
  {sweep : WriteSet subscribing} {rows : Rows subscribing} {locks : List LockKey} {tx : Nat}

/-- A row that the request reads is committed, or was ended by the request. -/
theorem Swept.origin (swept : Swept email now sweep rows) {subscriptionId : String}
    {new : SubscriptionRow} (seen : sweep.apply rows .subscriptions subscriptionId = some new) :
    ∃ old : SubscriptionRow, rows .subscriptions subscriptionId = some old ∧ Ends old new := by
  cases written : sweep .subscriptions subscriptionId with
  | none =>
      rw [WriteSet.apply_of_none written] at seen
      exact ⟨new, seen, Ends.refl new⟩
  | some version =>
      obtain ⟨old, ended, found, rfl, ends, _⟩ := swept.ended subscriptionId version written
      simp only [WriteSet.apply, written, Option.getD_some, Option.some.injEq] at seen
      subst seen
      exact ⟨old, found, ends⟩

theorem Swept.kept (swept : Swept email now sweep rows) {subscriptionId : String}
    {old : SubscriptionRow} (found : rows .subscriptions subscriptionId = some old) :
    ∃ new : SubscriptionRow, sweep.apply rows .subscriptions subscriptionId = some new ∧
      Ages old new := by
  cases written : sweep .subscriptions subscriptionId with
  | none =>
      rw [WriteSet.apply_of_none written]
      exact ⟨old, found, Ages.refl old⟩
  | some version =>
      obtain ⟨old', ended, found', rfl, ends, _⟩ := swept.ended subscriptionId version written
      rw [found] at found'
      cases found'
      exact ⟨ended, by simp [WriteSet.apply, written], ends.toAges⟩

/-- Rows that others commit and the request reads were read before. -/
theorem apply_later {later : Rows subscribing} {subscriptionId : String} {row : SubscriptionRow}
    (seen : sweep.apply later .subscriptions subscriptionId = some row) :
    sweep.apply rows .subscriptions subscriptionId = some row ∨
      sweep .subscriptions subscriptionId = none ∧
        later .subscriptions subscriptionId = some row := by
  cases written : sweep .subscriptions subscriptionId with
  | none =>
      rw [WriteSet.apply_of_none written] at seen
      exact Or.inr ⟨rfl, seen⟩
  | some version =>
      left
      simpa [WriteSet.apply, written] using seen

theorem steady_swept (locked : subscriptionLock context email ∈ locks) :
    Steady (creationDiscipline context) sweep locks fun rows _ => Swept email now sweep rows := by
  intro held rows log later laterLog holds kept _ _ allowed swept
  refine ⟨swept.elsewhere, ?_, ?_⟩
  · intro subscriptionId version written
    rw [kept .subscriptions subscriptionId version written]
    exact swept.ended subscriptionId version written
  · intro subscriptionId row seen same active manual
    rcases apply_later seen with before | ⟨unwritten, present⟩
    · exact swept.running subscriptionId row before same active manual
    · obtain ⟨old, found, ages⟩ :=
        allowed.2.1.added email (holds _ locked) subscriptionId row present same
      have early := swept.running subscriptionId old
        (by rw [WriteSet.apply_of_none unwritten, found]) (ages.email ▸ same)
        (ages.active active) (ages.autoRenew ▸ manual)
      exact lt_of_lt_of_le early ages.activeUntil

theorem steady_unused (locked : subscriptionLock context email ∈ locks) :
    Steady (creationDiscipline context) sweep locks fun rows _ =>
      Unused email dedupeKey sweep rows := by
  intro held rows log later laterLog holds _ _ _ allowed unused subscriptionId row seen same key
  rcases apply_later seen with before | ⟨unwritten, present⟩
  · exact unused subscriptionId row before same key
  · obtain ⟨old, found, ages⟩ :=
      allowed.2.1.added email (holds _ locked) subscriptionId row present same
    have inactive := unused subscriptionId old
      (by rw [WriteSet.apply_of_none unwritten, found]) (ages.email ▸ same) (ages.dedupeKey ▸ key)
    by_contra active
    rw [ages.active (by simpa using active)] at inactive
    cases inactive

/-- While the mark of the request is held, what it counted does not grow. -/
theorem steady_counted (locked : subscriptionLock context email ∈ locks)
    (marked : LockKey.creating email now ∈ locks) :
    Steady (creationDiscipline context) sweep locks fun rows _ =>
      (sweep.apply rows).AtMost .subscriptions count
        fun row : SubscriptionRow => unexpired email now row = true := by
  intro held rows log later laterLog holds _ _ _ allowed quota
  apply quota.of_older
  intro subscriptionId row seen counts
  rcases apply_later seen with before | ⟨unwritten, present⟩
  · exact ⟨row, before, counts⟩
  · obtain ⟨old, found, counted⟩ := allowed.2.1.counted email now (holds _ locked)
      (holds _ marked) subscriptionId row present counts
    exact ⟨old, by rw [WriteSet.apply_of_none unwritten, found], counted⟩

theorem steady_tier (marked : LockKey.creating email now ∈ locks) :
    Steady (creationDiscipline context) sweep locks fun rows _ =>
      count ≤ context.limits.of (tierOfRow (rows .tiers email)) := by
  intro held rows log later laterLog holds _ _ _ allowed within
  exact within.trans (allowed.2.1.tier email now (holds _ marked))

theorem steady_cleared (locked : subscriptionLock context email ∈ locks)
    (marked : LockKey.creating email now ∈ locks) :
    Steady (creationDiscipline context) sweep locks fun rows _ =>
      Cleared context email dedupeKey now count sweep rows := by
  intro held rows log later laterLog holds kept before after allowed cleared
  exact ⟨steady_swept locked held _ _ _ _ holds kept before after allowed cleared.swept,
    steady_unused locked held _ _ _ _ holds kept before after allowed cleared.unused,
    steady_counted locked marked held _ _ _ _ holds kept before after allowed cleared.counted,
    steady_tier marked held _ _ _ _ holds kept before after allowed cleared.within⟩

end

/-! ## The insertion -/

/-- What the request has put: its sweep, the new subscription and some of its venues. -/
structure Drafted (sweep : WriteSet subscribing) (subscriptionId : String)
    (row : SubscriptionRow) (writes : WriteSet subscribing) : Prop where
  own : writes .subscriptions subscriptionId = some (some row)
  others :
    ∀ other, other ≠ subscriptionId → writes .subscriptions other = sweep .subscriptions other
  tiers : ∀ email, writes .tiers email = none
  venues : ∀ key version, writes .venues key = some version → key.1 = subscriptionId

section

variable {context : Context} {email dedupeKey subscriptionId : String} {now : Int} {count : Nat}
  {sweep writes : WriteSet subscribing} {rows : Rows subscribing} {log : List Event}
  {row : SubscriptionRow} {locks : List LockKey} {tx : Nat}

theorem Drafted.cases (drafted : Drafted sweep subscriptionId row writes) {other : String}
    {new : SubscriptionRow} (seen : writes.apply rows .subscriptions other = some new) :
    (other = subscriptionId ∧ new = row) ∨
      other ≠ subscriptionId ∧ sweep.apply rows .subscriptions other = some new := by
  by_cases same : other = subscriptionId
  · subst other
    simp only [WriteSet.apply, drafted.own, Option.getD_some, Option.some.injEq] at seen
    exact Or.inl ⟨rfl, seen.symm⟩
  · refine Or.inr ⟨same, ?_⟩
    simpa only [WriteSet.apply, drafted.others other same] using seen

theorem Drafted.apply_other (drafted : Drafted sweep subscriptionId row writes) {other : String}
    (different : other ≠ subscriptionId) :
    writes.apply rows .subscriptions other = sweep.apply rows .subscriptions other := by
  simp only [WriteSet.apply, drafted.others other different]

theorem Drafted.apply_tiers (drafted : Drafted sweep subscriptionId row writes) (email : String) :
    writes.apply rows .tiers email = rows .tiers email :=
  WriteSet.apply_of_none (drafted.tiers email)

/-- What is asked of the new row. -/
structure Proposed (email dedupeKey : String) (row : SubscriptionRow) : Prop where
  email : row.email = email
  dedupeKey : row.dedupeKey = some dedupeKey

theorem Drafted.unique (drafted : Drafted sweep subscriptionId row writes)
    (proposed : Proposed email dedupeKey row)
    (cleared : Cleared context email dedupeKey now count sweep rows) (unique : UniqueActive rows) :
    UniqueActive (writes.apply rows) := by
  intro first second left right key foundFirst foundSecond leftActive rightActive same leftKey
    rightKey
  -- An active row with the key and email of the new one would not be unused.
  have alone : ∀ other (old : SubscriptionRow), sweep.apply rows .subscriptions other = some old →
      old.active = true → old.email = row.email → old.dedupeKey ≠ row.dedupeKey := by
    intro other old seen active sameEmail sameKey
    have inactive := cleared.unused other old seen (sameEmail.trans proposed.email)
      (sameKey.trans proposed.dedupeKey)
    rw [active] at inactive
    cases inactive
  rcases drafted.cases foundFirst with ⟨rfl, rfl⟩ | ⟨_, seenFirst⟩ <;>
    rcases drafted.cases foundSecond with ⟨rfl, rfl⟩ | ⟨_, seenSecond⟩
  · rfl
  · exact absurd (rightKey.trans leftKey.symm) (alone _ _ seenSecond rightActive same.symm)
  · exact absurd (leftKey.trans rightKey.symm) (alone _ _ seenFirst leftActive same)
  · obtain ⟨older, present, ends⟩ := cleared.swept.origin seenFirst
    obtain ⟨older', present', ends'⟩ := cleared.swept.origin seenSecond
    exact unique first second older older' key present present' (ends.active leftActive)
      (ends'.active rightActive) (ends.email ▸ ends'.email ▸ same) (ends.dedupeKey ▸ leftKey)
      (ends'.dedupeKey ▸ rightKey)

theorem Drafted.owned (drafted : Drafted sweep subscriptionId row writes)
    (swept : Swept email now sweep rows) (owned : VenuesOwned rows) :
    VenuesOwned (writes.apply rows) := by
  intro other venueId entry seen
  by_cases same : other = subscriptionId
  · subst other
    exact ⟨row, by simp [WriteSet.apply, drafted.own]⟩
  · have unwritten : writes .venues (other, venueId) = none := by
      by_contra written
      obtain ⟨version, present⟩ := Option.ne_none_iff_exists'.mp written
      exact same (drafted.venues _ version present)
    rw [WriteSet.apply_of_none unwritten] at seen
    obtain ⟨old, found⟩ := owned other venueId entry seen
    obtain ⟨new, present, _⟩ := swept.kept found
    exact ⟨new, by rw [drafted.apply_other same, present]⟩

theorem Drafted.kept (drafted : Drafted sweep subscriptionId row writes)
    (swept : Swept email now sweep rows) (absent : rows .subscriptions subscriptionId = none) :
    Kept rows (writes.apply rows) := by
  intro other old found
  have different : other ≠ subscriptionId := by
    rintro rfl
    rw [absent] at found
    cases found
  rw [drafted.apply_other different]
  exact swept.kept found

theorem Drafted.shields (drafted : Drafted sweep subscriptionId row writes)
    (proposed : Proposed email dedupeKey row) (swept : Swept email now sweep rows)
    {held : LockKey → Prop} (mine : ¬held (subscriptionLock context email)) :
    Shields context held rows (writes.apply rows) := by
  refine ⟨?_, ?_, ?_⟩
  · intro address holds other new seen same
    rcases drafted.cases seen with ⟨rfl, rfl⟩ | ⟨_, before⟩
    · rw [← same, proposed.email] at holds
      exact absurd holds mine
    · obtain ⟨old, found, ends⟩ := swept.origin before
      exact ⟨old, found, ends.toAges⟩
  · intro address instant holds _ other new seen counts
    rcases drafted.cases seen with ⟨rfl, rfl⟩ | ⟨_, before⟩
    · rw [← (unexpired_iff.mp counts).1, proposed.email] at holds
      exact absurd holds mine
    · obtain ⟨old, found, ends⟩ := swept.origin before
      exact ⟨old, found, ends.unexpired counts⟩
  · intro address _ _
    rw [drafted.apply_tiers]

/-- The new subscription is one more than those that the request has counted. -/
theorem Drafted.withinLimit (drafted : Drafted sweep subscriptionId row writes)
    (cleared : Cleared context email dedupeKey now count sweep rows) {instant : Int}
    (later : now ≤ instant) : WithinLimit context email instant (writes.apply rows) := by
  unfold WithinLimit
  rw [drafted.apply_tiers]
  have quota : (writes.apply rows).AtMost .subscriptions (count + 1)
      fun row : SubscriptionRow => unexpired email now row = true := by
    apply cleared.counted.put
    intro other new different seen counts
    rw [drafted.apply_other different] at seen
    exact ⟨new, seen, counts⟩
  apply (quota.mono cleared.within).of_older
  intro other new seen counts
  rw [unexpired_iff] at counts
  exact ⟨new, seen, unexpired_iff.mpr ⟨counts.1, counts.2.1, lt_of_le_of_lt later counts.2.2⟩⟩

end

/-! ## Creation follows the discipline -/

section

variable {context : Context} {email dedupeKey subscriptionId : String} {now : Int} {count : Nat}
  {sweep writes : WriteSet subscribing} {row : SubscriptionRow} {locks : List LockKey} {tx : Nat}

/-- The request knows that its identifier is new. -/
def Ready (context : Context) (email dedupeKey subscriptionId : String) (now : Int) (count : Nat)
    (sweep : WriteSet subscribing) (rows : Rows subscribing) (_ : List Event) : Prop :=
  rows .subscriptions subscriptionId = none ∧ Cleared context email dedupeKey now count sweep rows

theorem steady_ready (drafted : Drafted sweep subscriptionId row writes)
    (swept : ∀ table, table ≠ .subscriptions → ∀ key, sweep table key = none)
    (locked : subscriptionLock context email ∈ locks)
    (marked : LockKey.creating email now ∈ locks) :
    Steady (creationDiscipline context) writes locks
      (Ready context email dedupeKey subscriptionId now count sweep) := by
  apply Steady.and
  · exact @steady_row subscribing LockKey Event _ writes locks .subscriptions subscriptionId _
      drafted.own (· = none)
  · refine (steady_cleared locked marked).mono ?_ fun _ member => member
    intro table key version written
    cases table with
    | subscriptions =>
        by_cases same : key = subscriptionId
        · subst key
          rw [drafted.own]
          nofun
        · rw [drafted.others key same, written]
          nofun
    | venues =>
        rw [swept .venues nofun] at written
        cases written
    | tiers =>
        rw [swept .tiers nofun] at written
        cases written

theorem runs_created (drafted : Drafted sweep subscriptionId row writes)
    (proposed : Proposed email dedupeKey row)
    (swept : ∀ table, table ≠ .subscriptions → ∀ key, sweep table key = none)
    (locked : subscriptionLock context email ∈ locks)
    (marked : LockKey.creating email now ∈ locks) :
    (creationDiscipline context).RunsUnder (uninterrupted context) tx
      (Holding tx writes locks (Ready context email dedupeKey subscriptionId now count sweep))
      (ServerScript.commit tx [.created email subscriptionId now] : SubscriptionScript Unit) := by
  apply runs_commit (steady_ready drafted swept locked marked)
  · intro rows log holds ready
    refine ⟨drafted.unique proposed ready.2 holds.unique, drafted.owned ready.2.swept holds.owned,
      ?_⟩
    intro address member
    rcases List.mem_cons.mp member with impossible | older
    · cases impossible
    · exact holds.unviolated address older
  · intro rows log _ ready held free
    refine ⟨drafted.kept ready.2.swept ready.1,
      drafted.shields proposed ready.2.swept (free _ locked), ?_⟩
    intro address other instant same later
    cases (List.cons.inj same).1
    exact fun after => drafted.withinLimit ready.2 after

/-- The venues of a new subscription are new. -/
theorem runs_insertVenues {rest : SubscriptionScript Unit} {venueIds : List String}
    (swept : ∀ table, table ≠ .subscriptions → ∀ key, sweep table key = none)
    (locked : subscriptionLock context email ∈ locks)
    (marked : LockKey.creating email now ∈ locks)
    (continues : ∀ writes, Drafted sweep subscriptionId row writes →
      (creationDiscipline context).RunsUnder (uninterrupted context) tx
        (Holding tx writes locks (Ready context email dedupeKey subscriptionId now count sweep))
        rest) :
    venueIds.Nodup → ∀ writes, Drafted sweep subscriptionId row writes →
      (∀ venueId ∈ venueIds, writes .venues (subscriptionId, venueId) = none) →
      (creationDiscipline context).RunsUnder (uninterrupted context) tx
        (Holding tx writes locks (Ready context email dedupeKey subscriptionId now count sweep))
        (insertVenues tx email subscriptionId venueIds rest) := by
  induction venueIds with
  | nil => exact fun _ writes drafted _ => continues writes drafted
  | cons venueId venueIds ih =>
      intro distinct writes drafted unwritten
      obtain ⟨missing, distinct⟩ := List.nodup_cons.mp distinct
      refine runs_insertUnique (Ready context email dedupeKey subscriptionId now count sweep)
        (steady_ready drafted swept locked marked) ?_ (fun _ _ _ ready _ => ready) ?_
      · intro server invariant holding
        have own : writes .venues (subscriptionId, venueId) = none :=
          unwritten venueId List.mem_cons_self
        rw [Server.row_view, holding.writes, WriteSet.apply_of_none own]
        cases found : server.base .venues (subscriptionId, venueId) with
        | none => rfl
        | some entry =>
            obtain ⟨old, known⟩ := invariant.2.owned subscriptionId venueId entry found
            rw [holding.fact.1] at known
            cases known
      · apply ih distinct
        · refine ⟨?_, ?_, ?_, ?_⟩
          · rw [WriteSet.put_of_table_ne (by decide)]
            exact drafted.own
          · intro other different
            rw [WriteSet.put_of_table_ne (by decide)]
            exact drafted.others other different
          · intro address
            rw [WriteSet.put_of_table_ne (by decide)]
            exact drafted.tiers address
          · intro key version written
            by_cases same : key = (subscriptionId, venueId)
            · rw [same]
            · rw [WriteSet.put_of_key_ne same] at written
              exact drafted.venues key version written
        · intro other member
          have different : (subscriptionId, other) ≠ (subscriptionId, venueId) := by
            rintro same
            cases same
            exact missing member
          rw [WriteSet.put_of_key_ne different]
          exact unwritten other (List.mem_cons_of_mem _ member)

theorem drafted_put (swept : ∀ table, table ≠ .subscriptions → ∀ key, sweep table key = none) :
    Drafted sweep subscriptionId row (sweep.put .subscriptions subscriptionId row) where
  own := WriteSet.put_self sweep .subscriptions subscriptionId row
  others _ different := WriteSet.put_of_key_ne different
  tiers email := by
    rw [WriteSet.put_of_table_ne (by decide), swept .tiers nofun]
  venues key version written := by
    rw [WriteSet.put_of_table_ne (by decide), swept .venues nofun] at written
    cases written

/-- The unique index does not reject a key that is unused. -/
theorem not_indexed {server : SubscriptionServer}
    (unused : Unused email dedupeKey (server.writes tx) server.base) :
    indexed email dedupeKey (server.view tx) = false := by
  unfold indexed
  rw [List.any_eq_false]
  intro entry member
  have seen := (Table.mem_rows_iff.mp member).2
  rw [Server.row_view] at seen
  have inactive := unused entry.1 entry.2 seen
  simp only [Bool.and_eq_true, decide_eq_true_eq, not_and, Bool.not_eq_true]
  rintro ⟨same, key⟩
  exact inactive same key

theorem runs_insertSubscription (proposed : Proposed email dedupeKey row)
    (distinct : row.venueIds.Nodup)
    (swept : ∀ table, table ≠ .subscriptions → ∀ key, sweep table key = none)
    (locked : subscriptionLock context email ∈ locks)
    (marked : LockKey.creating email now ∈ locks) :
    (creationDiscipline context).RunsUnder (uninterrupted context) tx
      (Holding tx sweep locks fun rows _ =>
        Cleared context email dedupeKey now count sweep rows)
      (insertSubscription tx email dedupeKey now row) := by
  refine runs_await (steady_cleared locked marked).stable fun subscriptionId => ?_
  refine runs_insertUnique (Ready context email dedupeKey subscriptionId now count sweep)
    (steady_cleared locked marked) ?_ ?_ ?_
  · intro server _ holding
    apply not_indexed
    rw [holding.writes]
    exact holding.fact.unused
  · intro rows log _ cleared missing
    refine ⟨?_, cleared⟩
    cases found : rows .subscriptions subscriptionId with
    | none => rfl
    | some old =>
        obtain ⟨new, seen, _⟩ := cleared.swept.kept found
        rw [missing] at seen
        cases seen
  · refine runs_insertVenues swept locked marked
      (fun writes drafted => runs_created drafted proposed swept locked marked) distinct _
      (drafted_put swept) fun venueId _ => ?_
    rw [WriteSet.put_of_table_ne (by decide), swept .venues nofun]

/-- The sweep of a request that has written nothing before. -/
theorem swept_of_updates {rows : Rows subscribing}
    (updates : UpdatesRows WriteSet.empty rows .subscriptions
      (fun _ row => endLapsed email now row) sweep) : Swept email now sweep rows := by
  refine ⟨?_, ?_, ?_⟩
  · intro table different key
    rw [updates.elsewhere table different]
    rfl
  · intro subscriptionId version written
    cases ended : (rows .subscriptions subscriptionId).bind fun row => endLapsed email now row with
    | none =>
        rw [updates.others subscriptionId ended] at written
        cases written
    | some new =>
        obtain ⟨old, found, becomes⟩ := Option.bind_eq_some_iff.mp ended
        rw [updates.chosen subscriptionId old new found becomes] at written
        cases written
        obtain ⟨_, rfl⟩ := endLapsed_eq_some.mp becomes
        exact ⟨old, _, found, rfl, ends_endRow now old, rfl⟩
  · intro subscriptionId row seen same active manual
    by_contra late
    cases ended : (rows .subscriptions subscriptionId).bind fun row => endLapsed email now row with
    | none =>
        rw [WriteSet.apply_of_none (updates.others subscriptionId ended)] at seen
        rw [seen, Option.bind_some] at ended
        have becomes := endLapsed_eq_some.mpr
          ⟨⟨same, active, not_lt.mp late, manual⟩, rfl⟩
        rw [ended] at becomes
        cases becomes
    | some new =>
        obtain ⟨old, found, becomes⟩ := Option.bind_eq_some_iff.mp ended
        obtain ⟨_, rfl⟩ := endLapsed_eq_some.mp becomes
        simp only [WriteSet.apply, updates.chosen subscriptionId old _ found becomes,
          Option.getD_some, Option.some.injEq] at seen
        subst seen
        cases active

theorem validateSubscription_nodup {payload : SubscriptionPayload} {tier : Tier}
    {input : SubscriptionInput} (valid : validateSubscription payload tier = some input) :
    input.venueIds.Nodup := by
  unfold validateSubscription at valid
  split at valid
  · rename_i accepted
    cases valid
    exact (List.perm_insertionSort _ payload.venueIds).nodup_iff.mpr accepted.2.1
  · cases valid

/-- No equal subscription runs, and none has lapsed. -/
theorem unused_of_checked {server : SubscriptionServer}
    (swept : Swept email now (server.writes tx) server.base)
    (missing : existing email dedupeKey now (server.view tx) = false)
    (unlapsed : ∀ entry ∈ (server.view tx .subscriptions).rows,
      lapsed email dedupeKey now entry.2 = false) :
    Unused email dedupeKey (server.writes tx) server.base := by
  intro subscriptionId row seen same key
  have member := mem_rows_view seen
  by_contra inactive
  have active : row.active = true := by simpa using inactive
  have ended : row.activeUntil ≤ now := by
    have differs := List.any_eq_false.mp missing _ member
    simpa [key, unexpired, same, active] using differs
  have manual : row.autoRenew = false := by
    have differs := unlapsed _ member
    simpa [lapsed, same, key, active, ended] using differs
  exact absurd (swept.running subscriptionId row seen same active manual) (not_lt.mpr ended)

theorem proposed_newSubscription (input : SubscriptionInput) (term : Nat × Bool × Int) :
    Proposed email dedupeKey (newSubscription email input dedupeKey term now) :=
  ⟨rfl, rfl⟩

/-- The part of `create_subscription` that follows the sweep. -/
theorem runs_counting (payload : SubscriptionPayload)
    (swept : ∀ table, table ≠ .subscriptions → ∀ key, sweep table key = none) :
    (creationDiscipline context).RunsUnder (uninterrupted context) tx
      (Holding tx sweep [.creating email now, subscriptionLock context email]
        fun rows _ => Swept email now sweep rows)
      (countSubscriptions context tx email payload now) := by
  have locked : subscriptionLock context email ∈
      [LockKey.creating email now, subscriptionLock context email] := by simp
  have marked : LockKey.creating email now ∈
      [LockKey.creating email now, subscriptionLock context email] := by simp
  refine runs_select (fun tier rows _ => Swept email now sweep rows ∧
    context.limits.of tier ≤ context.limits.of (tierOfRow (rows .tiers email)))
    (steady_swept locked) ?_ fun tier => ?_
  · intro server _ holding
    refine ⟨holding.fact, ?_⟩
    rw [Server.row_view, holding.writes, WriteSet.apply_of_none (swept .tiers (by simp) email)]
  cases valid : validateSubscription payload tier with
  | none => exact runs_rollback ((steady_swept locked).and (steady_tier marked)).stable
  | some input =>
      refine runs_select (fun count rows _ => (Swept email now sweep rows ∧
        context.limits.of tier ≤ context.limits.of (tierOfRow (rows .tiers email))) ∧
        (sweep.apply rows).AtMost .subscriptions count
          fun row : SubscriptionRow => unexpired email now row = true)
        ((steady_swept locked).and (steady_tier marked)) ?_ fun count => ?_
      · intro server _ holding
        refine ⟨holding.fact, ?_⟩
        rw [← holding.writes]
        exact atMost_count server tx .subscriptions (unexpired email now)
      have known : Steady (creationDiscipline context) sweep
          [.creating email now, subscriptionLock context email] fun rows _ =>
            (Swept email now sweep rows ∧
              context.limits.of tier ≤ context.limits.of (tierOfRow (rows .tiers email))) ∧
            (sweep.apply rows).AtMost .subscriptions count
              fun row : SubscriptionRow => unexpired email now row = true :=
        ((steady_swept locked).and (steady_tier marked)).and (steady_counted locked marked)
      unfold ServerScript.require
      split
      · rename_i below
        refine runs_marked_select (fun found rows _ => found = false →
          Cleared context email (subscriptionDedupeKey context email input) now count sweep rows)
          known ?_ fun found => ?_
        · intro server _ _ holding unlapsed missing
          obtain ⟨⟨ended, within⟩, counted⟩ := holding.fact
          have swept := holding.writes ▸ ended
          refine ⟨ended, ?_, counted, ?_⟩
          · rw [← holding.writes]
            exact unused_of_checked swept missing unlapsed
          · exact Nat.le_trans (Nat.succ_le_of_lt (of_decide_eq_true below)) within
        cases found with
        | true =>
            refine runs_weaken (fun _ _ _ _ => trivial) (runs_rollback steady_true.stable)
        | false =>
            refine runs_weaken (fun _ _ _ cleared => cleared rfl) ?_
            rw [if_pos (show (!false) = true from rfl)]
            cases resolveTerm input.termCode now with
            | none => exact runs_rollback (steady_cleared locked marked).stable
            | some term =>
                exact runs_insertSubscription (proposed_newSubscription input term)
                  (validateSubscription_nodup valid) swept locked marked
      · exact runs_rollback known.stable

end

theorem runs_createSubscription (context : Context) (tx : Nat) (email : String)
    (payload : SubscriptionPayload) :
    (creationDiscipline context).RunsUnder (uninterrupted context) tx
      ((creationDiscipline context).protocol.resting tx)
      (createSubscription context tx email payload) := by
  refine runs_of_resting (runs_utcNow steady_true.stable fun now => runs_lock steady_true ?_)
  refine runs_updateRows (fun later rows _ => Swept email now later rows) steady_true ?_ ?_
  · intro server later _ _ updates
    exact swept_of_updates updates
  · intro sweep
    refine runs_lock (steady_swept (by simp)) ?_
    intro server invariant holding
    exact runs_counting payload holding.fact.elsewhere server invariant holding

/-! ## The other requests follow the discipline -/

/-- Only subscriptions are put, related to their committed versions. -/
def changesOnly (related : SubscriptionRow → SubscriptionRow → Prop) (table : TableName)
    (key : subscribing.Key table) (base : Option (subscribing.Row table))
    (row : subscribing.Row table) : Prop :=
  match table, key, base, row with
  | .subscriptions, _, base, new => ∃ old : SubscriptionRow, base = some old ∧ related old new
  | _, _, _, _ => False

/-- Only the tier of the email is put, and it is the better one. -/
def promotesOnly (email : String) (table : TableName) (key : subscribing.Key table)
    (_ : Option (subscribing.Row table)) (row : subscribing.Row table) : Prop :=
  match table, key, row with
  | .tiers, address, new => address = email ∧ tierOfRow (some new) = .priority
  | _, _, _ => False

/-- Every subscription was there before. -/
def Stems (related : SubscriptionRow → SubscriptionRow → Prop) (rows later : Rows subscribing) :
    Prop :=
  ∀ subscriptionId (new : SubscriptionRow), later .subscriptions subscriptionId = some new →
    ∃ old : SubscriptionRow, rows .subscriptions subscriptionId = some old ∧ related old new

section

variable {context : Context} {tx : Nat} {rows later : Rows subscribing} {log : List Event}
  {writes : WriteSet subscribing} {related : SubscriptionRow → SubscriptionRow → Prop}

theorem UniqueActive.stems (unique : UniqueActive rows) (stems : Stems Ages rows later) :
    UniqueActive later := by
  intro first second left right dedupeKey foundLeft foundRight leftActive rightActive same leftKey
    rightKey
  obtain ⟨old, found, ages⟩ := stems first left foundLeft
  obtain ⟨old', found', ages'⟩ := stems second right foundRight
  exact unique first second old old' dedupeKey found found' (ages.active leftActive)
    (ages'.active rightActive) (ages.email ▸ ages'.email ▸ same) (ages.dedupeKey ▸ leftKey)
    (ages'.dedupeKey ▸ rightKey)

/-- A commit that changes subscriptions only. -/
structure Changes (related : SubscriptionRow → SubscriptionRow → Prop)
    (rows later : Rows subscribing) : Prop where
  stems : Stems related rows later
  kept : Kept rows later
  venues : ∀ key, later .venues key = rows .venues key
  tiers : ∀ email, later .tiers email = rows .tiers email

theorem changes_of_only (reflexive : ∀ row, related row row)
    (ages : ∀ old new, related old new → Ages old new)
    (only : ∀ table key version, writes table key = some version →
      ∃ row, version = some row ∧ changesOnly related table key (rows table key) row) :
    Changes related rows (writes.apply rows) := by
  have unwritten : ∀ table, table ≠ .subscriptions → ∀ key, writes table key = none := by
    intro table different key
    by_contra written
    obtain ⟨version, present⟩ := Option.ne_none_iff_exists'.mp written
    obtain ⟨row, _, permitted⟩ := only table key version present
    cases table with
    | subscriptions => exact different rfl
    | venues => exact permitted
    | tiers => exact permitted
  refine ⟨?_, ?_, ?_, ?_⟩
  · intro subscriptionId new seen
    cases written : writes .subscriptions subscriptionId with
    | none =>
        rw [WriteSet.apply_of_none written] at seen
        exact ⟨new, seen, reflexive new⟩
    | some version =>
        obtain ⟨row, rfl, old, found, holds⟩ := only .subscriptions subscriptionId version written
        simp only [WriteSet.apply, written, Option.getD_some, Option.some.injEq] at seen
        subst seen
        exact ⟨old, found, holds⟩
  · intro subscriptionId old found
    cases written : writes .subscriptions subscriptionId with
    | none =>
        rw [WriteSet.apply_of_none written]
        exact ⟨old, found, Ages.refl old⟩
    | some version =>
        obtain ⟨row, rfl, old', found', holds⟩ :=
          only .subscriptions subscriptionId version written
        rw [found] at found'
        cases found'
        exact ⟨row, by simp [WriteSet.apply, written], ages old row holds⟩
  · exact fun key => WriteSet.apply_of_none (unwritten .venues (by simp) key)
  · exact fun email => WriteSet.apply_of_none (unwritten .tiers (by simp) email)

theorem Changes.stemsAges (changes : Changes related rows later)
    (ages : ∀ old new, related old new → Ages old new) : Stems Ages rows later := by
  intro subscriptionId new seen
  obtain ⟨old, found, holds⟩ := changes.stems subscriptionId new seen
  exact ⟨old, found, ages old new holds⟩

theorem CreationInvariant.changes (invariant : CreationInvariant rows log)
    (changes : Changes Ages rows later) : CreationInvariant later log := by
  refine ⟨invariant.unique.stems changes.stems, ?_, invariant.unviolated⟩
  intro subscriptionId venueId entry found
  rw [changes.venues] at found
  obtain ⟨old, present⟩ := invariant.owned subscriptionId venueId entry found
  obtain ⟨new, stays, _⟩ := changes.kept subscriptionId old present
  exact ⟨new, stays⟩

theorem Changes.ages (changes : Changes Ends rows later) : Changes Ages rows later :=
  ⟨changes.stemsAges fun _ _ ends => ends.toAges, changes.kept, changes.venues, changes.tiers⟩

/-- Changes that add to no count of a request under way. -/
theorem Changes.allowed (changes : Changes Ages rows later) {held : LockKey → Prop}
    (counted : ∀ email now, held (subscriptionLock context email) → held (.creating email now) →
      ∀ subscriptionId (new : SubscriptionRow), later .subscriptions subscriptionId = some new →
      unexpired email now new = true →
      ∃ old : SubscriptionRow, rows .subscriptions subscriptionId = some old ∧
        unexpired email now old = true) :
    (creationDiscipline context).allows held rows log later log := by
  refine ⟨changes.kept,
    ⟨fun _ _ subscriptionId new found _ => changes.stems subscriptionId new found,
    counted, ?_⟩, fun _ _ _ same => absurd same ne_cons_self⟩
  intro email _ _
  rw [changes.tiers]

/-- A transaction that only ends subscriptions disturbs no request. -/
theorem harmless_ends :
    Harmless (creationDiscipline context) (changesOnly Ends) ([] : List Event) where
  kept rows writes log holds only := by
    have changes := changes_of_only Ends.refl (fun _ _ ends => ends.toAges) only
    exact holds.changes changes.ages
  allowed held rows writes log _ only := by
    have changes := changes_of_only Ends.refl (fun _ _ ends => ends.toAges) only
    refine changes.ages.allowed fun email now _ _ subscriptionId new seen counts => ?_
    obtain ⟨old, found, ends⟩ := changes.stems subscriptionId new seen
    exact ⟨old, found, ends.unexpired counts⟩

theorem runs_cancelSubscription (context : Context) (tx : Nat) (email subscriptionId : String) :
    (creationDiscipline context).RunsUnder (uninterrupted context) tx
      ((creationDiscipline context).protocol.resting tx)
      (cancelSubscription context tx email subscriptionId) := by
  suffices tame : (creationDiscipline context).RunsUnder (uninterrupted context) tx
      (Tame (changesOnly Ends) tx)
        (cancelSubscription context tx email subscriptionId) from tame_of_resting tame
  refine tame_observe fun now => tame_lock (tame_lock (tame_changeRow ?_ fun row => ?_))
  · intro base old new known selected
    split at selected
    · cases selected
      rcases known with rfl | ⟨older, found, ends⟩
      · exact ⟨old, rfl, Ends.refl old⟩
      · exact ⟨older, found, ends⟩
    · cases selected
  cases row with
  | none => exact tame_rollback
  | some row =>
      refine tame_changeRow ?_ fun _ => tame_commit harmless_ends
      intro base old new known selected
      split at selected
      · cases selected
        rcases known with rfl | ⟨older, found, ends⟩
        · exact ⟨old, rfl, ends_endRow now old⟩
        · exact ⟨older, found, ends.trans (ends_endRow now old)⟩
      · cases selected

/-- A commit that gives the email the better tier. -/
structure Promotes (email : String) (rows later : Rows subscribing) : Prop where
  subscriptions : ∀ key, later .subscriptions key = rows .subscriptions key
  venues : ∀ key, later .venues key = rows .venues key
  tiers : ∀ address, later .tiers address = rows .tiers address ∨
    address = email ∧ tierOfRow (later .tiers address) = .priority

theorem promotes_of_only {email : String}
    (only : ∀ table key version, writes table key = some version →
      ∃ row, version = some row ∧ promotesOnly email table key (rows table key) row) :
    Promotes email rows (writes.apply rows) := by
  have unwritten : ∀ table, table ≠ .tiers → ∀ key, writes table key = none := by
    intro table different key
    by_contra written
    obtain ⟨version, present⟩ := Option.ne_none_iff_exists'.mp written
    obtain ⟨row, _, permitted⟩ := only table key version present
    cases table with
    | subscriptions => exact permitted
    | venues => exact permitted
    | tiers => exact different rfl
  refine ⟨fun key => WriteSet.apply_of_none (unwritten .subscriptions nofun key),
    fun key => WriteSet.apply_of_none (unwritten .venues (by simp) key), fun address => ?_⟩
  cases written : writes .tiers address with
  | none => exact Or.inl (WriteSet.apply_of_none written)
  | some version =>
      obtain ⟨row, rfl, same, better⟩ := only .tiers address version written
      exact Or.inr ⟨same, by simpa [WriteSet.apply, written] using better⟩

theorem Promotes.invariant {email : String} (promotes : Promotes email rows later)
    (invariant : CreationInvariant rows log) : CreationInvariant later log := by
  refine ⟨invariant.unique.stems fun key new found => ?_, ?_, invariant.unviolated⟩
  · rw [promotes.subscriptions] at found
    exact ⟨new, found, Ages.refl new⟩
  · intro subscriptionId venueId entry found
    rw [promotes.venues] at found
    rw [promotes.subscriptions]
    exact invariant.owned subscriptionId venueId entry found

theorem Promotes.allowed {email : String} (promotes : Promotes email rows later)
    {held : LockKey → Prop}
    (unlowered : ∀ now, held (.creating email now) →
      context.limits.standard ≤ context.limits.priority) :
    (creationDiscipline context).allows held rows log later log := by
  refine ⟨?_, ⟨?_, ?_, ?_⟩, fun _ _ _ same => absurd same ne_cons_self⟩
  · intro subscriptionId old found
    exact ⟨old, by rw [promotes.subscriptions, found], Ages.refl old⟩
  · intro _ _ subscriptionId new found _
    rw [promotes.subscriptions] at found
    exact ⟨new, found, Ages.refl new⟩
  · intro _ _ _ _ subscriptionId new found counts
    rw [promotes.subscriptions] at found
    exact ⟨new, found, counts⟩
  · intro address now marked
    rcases promotes.tiers address with same | ⟨rfl, better⟩
    · rw [same]
    · have ordered := unlowered now marked
      rw [better]
      cases tierOfRow (rows .tiers address) with
      | priority => exact le_rfl
      | standard => exact ordered

theorem runs_redeemPriority (context : Context) (tx : Nat) (email : String) :
    (creationDiscipline context).RunsUnder (uninterrupted context) tx
      ((creationDiscipline context).protocol.resting tx) (redeemPriority tx email) := by
  suffices tame : (creationDiscipline context).RunsUnder (uninterrupted context) tx
      (Tame (promotesOnly email) tx) (redeemPriority tx email) from tame_of_resting tame
  refine tame_upsert ?_ ?_
  · exact fun _ _ => ⟨rfl, rfl⟩
  refine runs_marked_commit Tame.stable ?_ ?_
  · intro server _ invariant tame _
    exact (promotes_of_only tame).invariant invariant.2
  · intro server _ other invariant tame unlowered _
    refine (promotes_of_only tame).allowed ?_
    intro now marked
    rcases unlowered with ordered | unmarked
    · exact ordered
    · have different := unmarked _ marked
      simp [creatingFor] at different

theorem runs_maintenance (context : Context) (tx : Nat) :
    (creationDiscipline context).RunsUnder (uninterrupted context) tx
      ((creationDiscipline context).protocol.resting tx) (maintenance tx) := by
  suffices tame : (creationDiscipline context).RunsUnder (uninterrupted context) tx
      (Tame (changesOnly Ages) tx) (maintenance tx) from tame_of_resting tame
  refine tame_observe fun now => tame_updateRows ?_ (tame_updateRows ?_ ?_)
  · intro view key base old new known renewed
    rcases known with rfl | ⟨older, found, ages⟩
    · exact ⟨old, rfl, renewRow_ages renewed⟩
    · exact ⟨older, found, ages.trans (renewRow_ages renewed)⟩
  · intro view key base old new known ended
    rcases known with rfl | ⟨older, found, ages⟩
    · exact ⟨old, rfl, (endSubscription_ends ended).toAges⟩
    · exact ⟨older, found, ages.trans (endSubscription_ends ended).toAges⟩
  refine runs_marked_commit Tame.stable ?_ ?_
  · intro server _ invariant tame _
    exact invariant.2.changes (changes_of_only Ages.refl (fun _ _ ages => ages) tame)
  · intro server _ other invariant tame uncounted _
    have changes := changes_of_only Ages.refl (fun _ _ ages => ages) tame
    refine changes.allowed fun email now _ marked subscriptionId new seen counts => ?_
    have before := uncounted _ (mem_rows_view seen) _ marked counts
    exact Option.any_eq_true _ _ |>.mp before

end

/-! ## The result -/

theorem subscriptionSystem_follows (context : Context) :
    (creationDiscipline context).protocol.Follows (subscriptionSystem context)
      (uninterrupted context) := by
  apply Discipline.follows
  intro tx script operation
  cases operation with
  | createSubscription email payload => exact runs_createSubscription context tx email payload
  | cancelSubscription email subscriptionId =>
      exact runs_cancelSubscription context tx email subscriptionId
  | redeemPriority email => exact runs_redeemPriority context tx email
  | maintenance => exact runs_maintenance context tx

/-- Where no statement disturbs a creation, along every run the unique index holds and
is never violated, and every subscription that is created is within the limit. -/
theorem creation_safe_of_reachable (context : Context) {server : SubscriptionServer}
    (atRest : Discipline.AtRest server) (unique : UniqueActive server.base)
    (owned : VenuesOwned server.base)
    (unrecorded : server.log = []) {config : Config SubscriptionServer Input Label Nat}
    (reachable : (subscriptionSystem context).Reachable (uninterrupted context)
      (System.idle server) config) :
    UniqueActive config.shared.base ∧ (∀ email, .violated email ∉ config.shared.log) ∧
      ∀ target, (subscriptionSystem context).Step (uninterrupted context) config target →
        CreatesWithinLimit context config.shared.base config.shared.log target.shared.base
          target.shared.log := by
  have start : CreationInvariant server.base server.log :=
    ⟨unique, owned, fun email member => by simp [unrecorded] at member⟩
  have invariant := holds_of_reachable (subscriptionSystem_follows context) atRest start reachable
  refine ⟨invariant.unique, invariant.unviolated, fun target step => ?_⟩
  exact allows_of_step (subscriptionSystem_follows context) atRest start reachable
    (fun _ _ _ _ _ allowed => allowed.2.2) step

/-! ## Runs -/

def sampleContext : Context where
  hashtext _ := 0
  sha256 text := text
  limits := ⟨20, 5⟩

def samplePayload : SubscriptionPayload where
  venueIds := ["szw"]
  startTime := 1200
  endTime := 1320
  weekdays := [1, 2, 3, 4, 5, 6, 7]
  termCode := "long_term"

def wait (elapsed : Nat) : Move SubscriptionServer Input Label Nat :=
  .environment fun server => { server with clock := server.clock + elapsed }

def creates (subscriptionId : String) (count : Nat) :
    List (Move SubscriptionServer Input Label Nat) :=
  .start 0 (createSubscription sampleContext 0 "a@example.com" samplePayload) ::
    System.acts 0 (.text subscriptionId) count

/-- A priority user has a subscription of long term, which is not renewed for 91 days. -/
def lapsing : List (Move SubscriptionServer Input Label Nat) :=
  .start 0 (redeemPriority 0 "a@example.com") :: (System.acts 0 .none 2 ++
  (creates "s-1" 11 ++ wait 7862400000000 :: creates "s-2" 11))

/-- A subscription is created, renewed, cancelled and created again. -/
def renewing : List (Move SubscriptionServer Input Label Nat) :=
  .start 0 (redeemPriority 0 "a@example.com") :: (System.acts 0 .none 2 ++
  (creates "s-1" 11 ++ wait 4320000000000 ::
  .start 1 (maintenance 1) :: (System.acts 1 .none 4 ++
  .start 0 (cancelSubscription sampleContext 0 "a@example.com" "s-1") ::
    (System.acts 0 .none 6 ++ creates "s-2" 11))))

theorem legal_creates (subscriptionId : String) (count : Nat) :
    ∀ move ∈ creates subscriptionId count, (subscriptionSystem sampleContext).Legal move := by
  simp only [creates, List.forall_mem_cons]
  exact ⟨.createSubscription _ _, System.legal_acts⟩

theorem legal_wait (elapsed : Nat) : (subscriptionSystem sampleContext).Legal (wait elapsed) :=
  fun _ => ⟨elapsed, rfl⟩

theorem legal_lapsing : ∀ move ∈ lapsing, (subscriptionSystem sampleContext).Legal move := by
  simp only [lapsing, List.forall_mem_append, List.forall_mem_cons]
  exact ⟨.redeemPriority _, System.legal_acts, legal_creates _ _, legal_wait _, legal_creates _ _⟩

theorem legal_renewing : ∀ move ∈ renewing, (subscriptionSystem sampleContext).Legal move := by
  simp only [renewing, List.forall_mem_append, List.forall_mem_cons]
  exact ⟨.redeemPriority _, System.legal_acts, legal_creates _ _, legal_wait _, .maintenance,
    System.legal_acts, .cancelSubscription _ _, System.legal_acts, legal_creates _ _⟩

def indexViolated (config : Config SubscriptionServer Input Label Nat) : Bool :=
  decide (config.shared.log.head? = some (.violated "a@example.com"))

/-- Recreating the lapsed subscription violates the unique index. -/
theorem creation_violates_index : ∃ config,
    (subscriptionSystem sampleContext).Reachable System.anyAction (System.idle (Server.new 0))
      config ∧
    .violated "a@example.com" ∈ config.shared.log := by
  obtain ⟨config, reachable, violated⟩ := System.exists_reachable_of_replay legal_lapsing
    (show (System.replay (subscriptionSystem sampleContext) System.anyAction
      (System.idle (Server.new 0)) lapsing).any indexViolated = true by decide)
  exact ⟨config, reachable, List.mem_of_mem_head? (of_decide_eq_true violated)⟩

/-- A subscription of the second request was created, as the newest entry. -/
def createdAgain (config : Config SubscriptionServer Input Label Nat) : Bool :=
  decide (config.shared.log.head? = some (.created "a@example.com" "s-2" 4320000000000))

theorem base_new (clock : Int) (table : TableName) (key : subscribing.Key table) :
    (Server.new clock : SubscriptionServer).base table key = none :=
  rfl

theorem uniqueActive_new (clock : Int) :
    UniqueActive (Server.new clock : SubscriptionServer).base := by
  intro first second row other dedupeKey found
  rw [base_new] at found
  cases found

theorem venuesOwned_new (clock : Int) :
    VenuesOwned (Server.new clock : SubscriptionServer).base := by
  intro subscriptionId venueId entry found
  rw [base_new] at found
  cases found

theorem renewing_safe : ∃ config,
    (subscriptionSystem sampleContext).Reachable (uninterrupted sampleContext)
      (System.idle (Server.new 0)) config ∧
    createdAgain config = true ∧ UniqueActive config.shared.base ∧
      ∀ email, .violated email ∉ config.shared.log := by
  obtain ⟨config, reachable, created⟩ := System.exists_reachable_of_replay legal_renewing
    (show (System.replay (subscriptionSystem sampleContext) (uninterrupted sampleContext)
      (System.idle (Server.new 0)) renewing).any createdAgain = true by decide)
  have safe :=
    creation_safe_of_reachable sampleContext (Discipline.atRest_new 0) (uniqueActive_new 0)
    (venuesOwned_new 0) rfl reachable
  exact ⟨config, reachable, created, safe.1, safe.2.1⟩

end TennisAlerts.HostCore.Subscriptions
