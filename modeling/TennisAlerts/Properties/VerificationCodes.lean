import TennisAlerts.Database.Quota
import TennisAlerts.HostCore.Accounts

/-!
# Verification codes

Challenges are rate-limited by email and by client, a challenge takes at most five
wrong codes, and it gives at most one receipt.  A request counts and inserts with
the clock reading it took before it had its locks, so the order of the clock
readings and the order of the commits may differ.
-/

namespace TennisAlerts.HostCore.Accounts

open TennisAlerts.Database TennisAlerts.Concurrent Discipline

/-! ## The property -/

/-- The row was created in the closed hour from an instant on. -/
def inHour (start : Int) (row : ChallengeRow) : Prop :=
  start ≤ row.createdAt ∧ row.createdAt ≤ start + minutes 60

/-- The limits of `send_verification_code`. -/
structure RateLimited (rows : Rows accounts) : Prop where
  email : ∀ email start,
    rows.AtMost .challenges 3 fun row : ChallengeRow => row.email = email ∧ inHour start row
  client : ∀ ipHash start,
    rows.AtMost .challenges 20 fun row : ChallengeRow => row.ipHash = ipHash ∧ inHour start row

/-- The wrong codes that a challenge has taken. -/
def rejections (challengeId : String) (log : List Event) : Nat :=
  log.count (.rejected challengeId)

/-- The challenge has given a receipt. -/
def Verified (challengeId : String) (log : List Event) : Prop :=
  ∃ tokenHash challenge now, .verified challengeId tokenHash challenge now ∈ log

/-- What may be recorded about a challenge over an older history: a wrong code
while there are fewer than five, and a receipt only of a challenge that has given
none, has taken fewer than five wrong codes and is not consumed or expired at the
clock reading of the request. -/
def Admissible (older : List Event) : Event → Prop
  | .rejected challengeId => rejections challengeId older < 5 ∧ ¬Verified challengeId older
  | .verified challengeId _ challenge now =>
      rejections challengeId older < 5 ∧ ¬Verified challengeId older ∧
        challenge.consumedAt = none ∧ now < challenge.expiresAt
  | _ => True

/-- Every entry was admissible when it was recorded. -/
def Orderly : List Event → Prop
  | [] => True
  | event :: older => Admissible older event ∧ Orderly older

/-- Every receipt comes from a verified challenge or was there at the start. -/
def ReceiptsEarned (initial rows : Rows accounts) (log : List Event) : Prop :=
  ∀ tokenHash, (rows .receipts tokenHash).isSome → (initial .receipts tokenHash).isSome ∨
    ∃ challengeId challenge now, .verified challengeId tokenHash challenge now ∈ log

/-- A wrong code changes the counter of its challenge and nothing else. -/
def RejectsOnly (rows : Rows accounts) (log : List Event) (later : Rows accounts)
    (laterLog : List Event) : Prop :=
  ∀ challengeId, laterLog = .rejected challengeId :: log →
    (∃ row, rows .challenges challengeId = some row ∧
      later .challenges challengeId = some (countAttempt row)) ∧
    ∀ (table : TableName) (key : accounts.Key table), later table key ≠ rows table key →
      (⟨table, key⟩ : Sigma accounts.Key) = ⟨.challenges, challengeId⟩

/-- A new receipt comes from a challenge with fewer than five wrong codes that was
neither consumed nor expired, and which it consumes. -/
def ReceiptsOnly (rows : Rows accounts) (log : List Event) (later : Rows accounts)
    (laterLog : List Event) : Prop :=
  ∀ tokenHash, rows .receipts tokenHash = none → later .receipts tokenHash ≠ none →
    ∃ challengeId row now, laterLog = .verified challengeId tokenHash row now :: log ∧
      rows .challenges challengeId = some row ∧ openChallenge now row = true ∧
      row.attempts < 5 ∧ later .challenges challengeId = some (consume now row)

/-! ## The discipline -/

/-- What the history says about the challenges. -/
structure Tallied (rows : Rows accounts) (log : List Event) : Prop where
  known : ∀ challengeId, rows .challenges challengeId = none →
    rejections challengeId log = 0 ∧ ¬Verified challengeId log
  counted : ∀ challengeId (row : ChallengeRow), rows .challenges challengeId = some row →
    rejections challengeId log ≤ min row.attempts 5
  consumed : ∀ challengeId (row : ChallengeRow), rows .challenges challengeId = some row →
    Verified challengeId log → row.consumedAt.isSome

/-- What a transaction counts does not change. -/
def ChallengeRow.subject (row : ChallengeRow) : String × String × Int :=
  (row.email, row.ipHash, row.createdAt)

/-- No challenge was added among those that satisfy the condition. -/
def NoneAdded (condition : ChallengeRow → Prop) (rows later : Rows accounts) : Prop :=
  ∀ challengeId (row : ChallengeRow), later .challenges challengeId = some row → condition row →
    ∃ old : ChallengeRow, rows .challenges challengeId = some old ∧ old.subject = row.subject

def emailLock (secrets : Secrets) (email : String) : LockKey :=
  .advisory (secrets.hashtext ("verification-email:" ++ email))

def clientLock (secrets : Secrets) (ipHash : String) : LockKey :=
  .advisory (secrets.hashtext ("verification-ip:" ++ ipHash))

/-- Challenges of a locked email or client are not added by others. -/
structure Respects (secrets : Secrets) (held : LockKey → Prop) (rows later : Rows accounts) :
    Prop where
  email : ∀ email, held (emailLock secrets email) →
    NoneAdded (fun row => row.email = email) rows later
  client : ∀ ipHash, held (clientLock secrets ipHash) →
    NoneAdded (fun row => row.ipHash = ipHash) rows later

structure CodeInvariant (initial rows : Rows accounts) (log : List Event) : Prop where
  limited : RateLimited rows
  tallied : Tallied rows log
  orderly : Orderly log
  earned : ReceiptsEarned initial rows log

theorem Respects.refl (secrets : Secrets) (held : LockKey → Prop) (rows : Rows accounts) :
    Respects secrets held rows rows where
  email _ _ _ row found _ := ⟨row, found, rfl⟩
  client _ _ _ row found _ := ⟨row, found, rfl⟩

theorem rejectsOnly_refl (rows : Rows accounts) (log : List Event) :
    RejectsOnly rows log rows log := by
  intro challengeId same
  exact absurd (congrArg List.length same) (by simp)

theorem receiptsOnly_of_none_new {rows later : Rows accounts} {log laterLog : List Event}
    (same : ∀ tokenHash, later .receipts tokenHash ≠ none → rows .receipts tokenHash ≠ none) :
    ReceiptsOnly rows log later laterLog :=
  fun tokenHash absent there => absurd absent (same tokenHash there)

def codeDiscipline (secrets : Secrets) (initial : Rows accounts) :
    Discipline accounts LockKey Event where
  holds := CodeInvariant initial
  allows held rows log later laterLog :=
    Respects secrets held rows later ∧ RejectsOnly rows log later laterLog ∧
      ReceiptsOnly rows log later laterLog
  still locks rows log := ⟨Respects.refl secrets locks rows, rejectsOnly_refl rows log,
    receiptsOnly_of_none_new fun _ there => there⟩

/-! ## What commits do -/

section

variable {rows later : Rows accounts} {log : List Event}

/-- The challenges that are there were there, for the same subjects. -/
theorem RateLimited.of_noneAdded (limited : RateLimited rows)
    (kept : NoneAdded (fun _ => True) rows later) : RateLimited later := by
  constructor
  · intro email start
    apply (limited.email email start).of_older
    intro challengeId row found selected
    obtain ⟨old, present, same⟩ := kept challengeId row found trivial
    simp only [ChallengeRow.subject, Prod.mk.injEq] at same
    refine ⟨old, present, same.1.trans selected.1, ?_⟩
    rw [inHour, same.2.2]
    exact selected.2
  · intro ipHash start
    apply (limited.client ipHash start).of_older
    intro challengeId row found selected
    obtain ⟨old, present, same⟩ := kept challengeId row found trivial
    simp only [ChallengeRow.subject, Prod.mk.injEq] at same
    refine ⟨old, present, same.2.1.trans selected.1, ?_⟩
    rw [inHour, same.2.2]
    exact selected.2

theorem NoneAdded.respects {secrets : Secrets} {held : LockKey → Prop}
    (kept : NoneAdded (fun _ => True) rows later) : Respects secrets held rows later where
  email _ _ challengeId row found _ := kept challengeId row found trivial
  client _ _ challengeId row found _ := kept challengeId row found trivial

/-- The challenge is replaced by one for the same subject. -/
theorem noneAdded_of_replaced {challengeId : String} {old new : ChallengeRow}
    (present : rows .challenges challengeId = some old)
    (replaced : later .challenges challengeId = some new) (same : old.subject = new.subject)
    (others : ∀ other, other ≠ challengeId →
      later .challenges other = rows .challenges other) :
    NoneAdded (fun _ => True) rows later := by
  intro other row found _
  by_cases mine : other = challengeId
  · subst other
    rw [replaced] at found
    cases found
    exact ⟨old, present, same⟩
  · rw [others other mine] at found
    exact ⟨row, found, rfl⟩

theorem noneAdded_of_eq {condition : ChallengeRow → Prop}
    (same : ∀ challengeId, later .challenges challengeId = rows .challenges challengeId) :
    NoneAdded condition rows later := by
  intro challengeId row found _
  rw [same] at found
  exact ⟨row, found, rfl⟩

theorem ReceiptsEarned.cons {initial : Rows accounts} {event : Event}
    (earned : ReceiptsEarned initial rows log)
    (same : ∀ tokenHash, (later .receipts tokenHash).isSome → (rows .receipts tokenHash).isSome) :
    ReceiptsEarned initial later (event :: log) := by
  intro tokenHash there
  rcases earned tokenHash (same tokenHash there) with old | ⟨challengeId, challenge, now, member⟩
  · exact Or.inl old
  · exact Or.inr ⟨challengeId, challenge, now, List.mem_cons_of_mem _ member⟩

/-- `send_verification_code` adds a challenge below both limits. -/
theorem CodeInvariant.issue {initial : Rows accounts} (invariant : CodeInvariant initial rows log)
    {challengeId : String} {row : ChallengeRow}
    (absent : rows .challenges challengeId = none)
    (added : later .challenges challengeId = some row)
    (others : ∀ other, other ≠ challengeId → later .challenges other = rows .challenges other)
    (receipts : ∀ tokenHash, later .receipts tokenHash = rows .receipts tokenHash)
    (emailBelow : rows.AtMost .challenges 2 fun old : ChallengeRow =>
      old.email = row.email ∧ row.createdAt - minutes 60 ≤ old.createdAt)
    (clientBelow : rows.AtMost .challenges 19 fun old : ChallengeRow =>
      old.ipHash = row.ipHash ∧ row.createdAt - minutes 60 ≤ old.createdAt) :
    CodeInvariant initial later log := by
  obtain ⟨⟨email, client⟩, tallied, orderly, earned⟩ := invariant
  obtain ⟨uncounted, unverified⟩ := tallied.known challengeId absent
  refine ⟨⟨?_, ?_⟩, ⟨?_, ?_, ?_⟩, orderly, ?_⟩
  · intro address start
    refine (email address start).add ?_ added others
    rintro ⟨rfl, window⟩
    apply emailBelow.of_older
    intro other old present selected
    refine ⟨old, present, selected.1, ?_⟩
    have inside := selected.2.1
    have last := window.2
    omega
  · intro ipHash start
    refine (client ipHash start).add ?_ added others
    rintro ⟨rfl, window⟩
    apply clientBelow.of_older
    intro other old present selected
    refine ⟨old, present, selected.1, ?_⟩
    have inside := selected.2.1
    have last := window.2
    omega
  · intro other missing
    by_cases mine : other = challengeId
    · subst other
      exact tallied.known challengeId absent
    · rw [others other mine] at missing
      exact tallied.known other missing
  · intro other found present
    by_cases mine : other = challengeId
    · subst other
      omega
    · rw [others other mine] at present
      exact tallied.counted other found present
  · intro other found present verified
    by_cases mine : other = challengeId
    · subst other
      exact absurd verified unverified
    · rw [others other mine] at present
      exact tallied.consumed other found present verified
  · intro tokenHash there
    rw [receipts] at there
    exact earned tokenHash there

theorem rejections_cons_self (challengeId : String) (log : List Event) :
    rejections challengeId (.rejected challengeId :: log) = rejections challengeId log + 1 := by
  simp [rejections]

theorem rejections_cons_of_ne {challengeId : String} {event : Event} {log : List Event}
    (different : event ≠ .rejected challengeId) :
    rejections challengeId (event :: log) = rejections challengeId log := by
  simp [rejections, different]

theorem verified_cons {challengeId : String} {event : Event} {log : List Event}
    (different : ∀ tokenHash challenge now, event ≠ .verified challengeId tokenHash challenge now) :
    Verified challengeId (event :: log) ↔ Verified challengeId log := by
  constructor
  · rintro ⟨tokenHash, challenge, now, member⟩
    rcases List.mem_cons.mp member with same | older
    · exact absurd same.symm (different tokenHash challenge now)
    · exact ⟨tokenHash, challenge, now, older⟩
  · rintro ⟨tokenHash, challenge, now, member⟩
    exact ⟨tokenHash, challenge, now, List.mem_cons_of_mem _ member⟩

/-- An open challenge has room for one more wrong code and has given no receipt. -/
theorem Tallied.open_challenge (tallied : Tallied rows log) {challengeId : String}
    {row : ChallengeRow} {now : Int} (present : rows .challenges challengeId = some row)
    (unconsumed : openChallenge now row = true) (below : row.attempts < 5) :
    rejections challengeId log < 5 ∧ ¬Verified challengeId log ∧ row.consumedAt = none ∧
      now < row.expiresAt := by
  simp only [openChallenge, Bool.and_eq_true, Option.isNone_iff_eq_none, decide_eq_true_eq]
    at unconsumed
  have counted := tallied.counted challengeId row present
  refine ⟨by omega, ?_, unconsumed.1, unconsumed.2⟩
  intro verified
  have consumed := tallied.consumed challengeId row present verified
  rw [unconsumed.1] at consumed
  cases consumed

/-- A wrong code. -/
theorem CodeInvariant.reject {initial : Rows accounts}
    (invariant : CodeInvariant initial rows log) {challengeId : String} {row : ChallengeRow}
    {now : Int} (present : rows .challenges challengeId = some row)
    (unconsumed : openChallenge now row = true) (below : row.attempts < 5)
    (changed : later .challenges challengeId = some (countAttempt row))
    (others : ∀ other, other ≠ challengeId → later .challenges other = rows .challenges other)
    (receipts : ∀ tokenHash, later .receipts tokenHash = rows .receipts tokenHash) :
    CodeInvariant initial later (.rejected challengeId :: log) := by
  obtain ⟨limited, tallied, orderly, earned⟩ := invariant
  obtain ⟨room, unverified, -, -⟩ := tallied.open_challenge present unconsumed below
  have counted := tallied.counted challengeId row present
  have untouched : ∀ other, other ≠ challengeId →
      rejections other (.rejected challengeId :: log) = rejections other log :=
    fun other different => rejections_cons_of_ne fun same => different (by cases same; rfl)
  have verified : ∀ other, Verified other (.rejected challengeId :: log) ↔ Verified other log :=
    fun other => verified_cons (by simp)
  refine ⟨limited.of_noneAdded (noneAdded_of_replaced present changed rfl others), ⟨?_, ?_, ?_⟩,
    ⟨⟨room, unverified⟩, orderly⟩, earned.cons fun tokenHash there => by rwa [receipts] at there⟩
  · intro other missing
    have different : other ≠ challengeId := by
      rintro rfl
      rw [changed] at missing
      cases missing
    rw [others other different] at missing
    rw [untouched other different, verified]
    exact tallied.known other missing
  · intro other found present'
    by_cases mine : other = challengeId
    · subst other
      rw [changed] at present'
      cases present'
      rw [rejections_cons_self]
      simp only [countAttempt]
      omega
    · rw [others other mine] at present'
      rw [untouched other mine]
      exact tallied.counted other found present'
  · intro other found present' given
    rw [verified] at given
    by_cases mine : other = challengeId
    · subst other
      exact absurd given unverified
    · rw [others other mine] at present'
      exact tallied.consumed other found present' given

/-- The right code. -/
theorem CodeInvariant.accept {initial : Rows accounts}
    (invariant : CodeInvariant initial rows log) {challengeId tokenHash : String}
    {row : ChallengeRow} {now : Int} (present : rows .challenges challengeId = some row)
    (unconsumed : openChallenge now row = true) (below : row.attempts < 5)
    (changed : later .challenges challengeId = some (consume now row))
    (others : ∀ other, other ≠ challengeId → later .challenges other = rows .challenges other)
    (receipts : ∀ other, other ≠ tokenHash → later .receipts other = rows .receipts other) :
    CodeInvariant initial later (.verified challengeId tokenHash row now :: log) := by
  obtain ⟨limited, tallied, orderly, earned⟩ := invariant
  obtain ⟨room, unverified, untaken, inTime⟩ := tallied.open_challenge present unconsumed below
  have counted := tallied.counted challengeId row present
  have untouched : ∀ other,
      rejections other (.verified challengeId tokenHash row now :: log) = rejections other log :=
    fun other => rejections_cons_of_ne (by simp)
  have verified : ∀ other, other ≠ challengeId →
      (Verified other (.verified challengeId tokenHash row now :: log) ↔ Verified other log) := by
    intro other different
    apply verified_cons
    intro tokenHash challenge now same
    cases same
    exact different rfl
  refine ⟨limited.of_noneAdded (noneAdded_of_replaced present changed rfl others), ⟨?_, ?_, ?_⟩,
    ⟨⟨room, unverified, untaken, inTime⟩, orderly⟩, ?_⟩
  · intro other missing
    have different : other ≠ challengeId := by
      rintro rfl
      rw [changed] at missing
      cases missing
    rw [others other different] at missing
    rw [untouched, verified other different]
    exact tallied.known other missing
  · intro other found present'
    rw [untouched]
    by_cases mine : other = challengeId
    · subst other
      rw [changed] at present'
      cases present'
      exact counted
    · rw [others other mine] at present'
      exact tallied.counted other found present'
  · intro other found present' given
    by_cases mine : other = challengeId
    · subst other
      rw [changed] at present'
      cases present'
      rfl
    · rw [verified other mine] at given
      rw [others other mine] at present'
      exact tallied.consumed other found present' given
  · intro other there
    by_cases mine : other = tokenHash
    · subst other
      exact Or.inr ⟨challengeId, row, now, List.mem_cons_self⟩
    · rw [receipts other mine] at there
      rcases earned other there with old | ⟨origin, challenge, at_, member⟩
      · exact Or.inl old
      · exact Or.inr ⟨origin, challenge, at_, List.mem_cons_of_mem _ member⟩

end

/-! ## Requests for a code -/

section

variable {secrets : Secrets} {initial : Rows accounts} {tx : Nat}

/-- A quota on the challenges of an email holds while its lock is held. -/
theorem steady_emailQuota {writes : WriteSet accounts} {locks : List LockKey} {email : String}
    (locked : emailLock secrets email ∈ locks) (since : Int) (limit : Nat) :
    Steady (codeDiscipline secrets initial) writes locks fun rows _ =>
      rows.AtMost .challenges limit fun row : ChallengeRow =>
        row.email = email ∧ since ≤ row.createdAt := by
  intro held rows log later laterLog holds _ _ _ allowed quota
  apply quota.of_older
  intro challengeId row found selected
  obtain ⟨old, present, same⟩ :=
    allowed.1.email email (holds _ locked) challengeId row found selected.1
  simp only [ChallengeRow.subject, Prod.mk.injEq] at same
  exact ⟨old, present, same.1.trans selected.1, same.2.2 ▸ selected.2⟩

theorem steady_clientQuota {writes : WriteSet accounts} {locks : List LockKey} {ipHash : String}
    (locked : clientLock secrets ipHash ∈ locks) (since : Int) (limit : Nat) :
    Steady (codeDiscipline secrets initial) writes locks fun rows _ =>
      rows.AtMost .challenges limit fun row : ChallengeRow =>
        row.ipHash = ipHash ∧ since ≤ row.createdAt := by
  intro held rows log later laterLog holds _ _ _ allowed quota
  apply quota.of_older
  intro challengeId row found selected
  obtain ⟨old, present, same⟩ :=
    allowed.1.client ipHash (holds _ locked) challengeId row found selected.1
  simp only [ChallengeRow.subject, Prod.mk.injEq] at same
  exact ⟨old, present, same.2.1.trans selected.1, same.2.2 ▸ selected.2⟩

/-- What a count of recent challenges says about the committed rows. -/
theorem atMost_recentChallenges {server : AccountServer} (unwritten : server.writes tx = .empty)
    (condition : ChallengeRow → Prop) [DecidablePred condition] (since : Int) :
    server.base.AtMost .challenges
      (recentChallenges (fun row => decide (condition row)) since (server.view tx))
      fun row : ChallengeRow => condition row ∧ since ≤ row.createdAt := by
  have counted := atMost_count server tx .challenges fun row : ChallengeRow =>
    decide (condition row) && decide (since ≤ row.createdAt)
  rw [unwritten, WriteSet.apply_empty] at counted
  apply counted.of_older
  intro challengeId row found selected
  exact ⟨row, found, by simpa using selected⟩

/-- What a request knows before it inserts its challenge. -/
def BelowLimits (email ipHash : String) (since : Int) (emailCount ipCount : Nat)
    (rows : Rows accounts) : Prop :=
  (rows.AtMost .challenges emailCount fun row : ChallengeRow =>
    row.email = email ∧ since ≤ row.createdAt) ∧
  rows.AtMost .challenges ipCount fun row : ChallengeRow =>
    row.ipHash = ipHash ∧ since ≤ row.createdAt

theorem steady_belowLimits {writes : WriteSet accounts} {email ipHash : String} {since : Int}
    {emailCount ipCount : Nat} :
    Steady (codeDiscipline secrets initial) writes
      [clientLock secrets ipHash, emailLock secrets email] fun rows _ =>
        BelowLimits email ipHash since emailCount ipCount rows :=
  (steady_emailQuota (by simp) since emailCount).and (steady_clientQuota (by simp) since ipCount)

/-- A challenge of an email and a client that nobody else has locked. -/
theorem respects_of_added {rows later : Rows accounts} {held : LockKey → Prop}
    {challengeId : String} {row : ChallengeRow} (emailFree : ¬held (emailLock secrets row.email))
    (clientFree : ¬held (clientLock secrets row.ipHash))
    (added : later .challenges challengeId = some row)
    (others : ∀ other, other ≠ challengeId → later .challenges other = rows .challenges other) :
    Respects secrets held rows later := by
  constructor
  · intro email locked other found present same
    by_cases mine : other = challengeId
    · subst other
      rw [added] at present
      cases present
      subst same
      exact absurd locked emailFree
    · rw [others other mine] at present
      exact ⟨found, present, rfl⟩
  · intro ipHash locked other found present same
    by_cases mine : other = challengeId
    · subst other
      rw [added] at present
      cases present
      subst same
      exact absurd locked clientFree
    · rw [others other mine] at present
      exact ⟨found, present, rfl⟩

theorem rejectsOnly_of_log_eq {rows later : Rows accounts} {log : List Event} :
    RejectsOnly rows log later log := by
  intro challengeId same
  exact absurd (congrArg List.length same) (by simp)

/-- The writes of a request for a code. -/
theorem apply_issue {challengeId mailId : String} {row : ChallengeRow} {mail : MailRow}
    (rows : Rows accounts) :
    (((WriteSet.empty : WriteSet accounts).put .challenges challengeId row).put
      .mails mailId mail).apply rows .challenges challengeId = some row ∧
    ∀ other, other ≠ challengeId →
      (((WriteSet.empty : WriteSet accounts).put .challenges challengeId row).put
        .mails mailId mail).apply rows .challenges other = rows .challenges other := by
  refine ⟨by simp [WriteSet.apply_put_of_table_ne], fun other different => ?_⟩
  rw [WriteSet.apply_put_of_table_ne (by simp), WriteSet.apply_put_of_key_ne different,
    WriteSet.apply_empty]

theorem sendVerificationCode_runs (email ipHash : String) :
    (codeDiscipline secrets initial).Runs tx
      ((codeDiscipline secrets initial).protocol.resting tx)
      (sendVerificationCode secrets tx email ipHash) := by
  refine runs_of_resting (runs_utcNow steady_true.stable fun now => ?_)
  refine runs_await steady_true.stable fun challengeId => ?_
  refine runs_await steady_true.stable fun code => ?_
  refine runs_await steady_true.stable fun mailId => ?_
  refine runs_lock steady_true (runs_lock steady_true ?_)
  refine runs_select (fun emailCount rows _ => rows.AtMost .challenges emailCount
    fun row : ChallengeRow => row.email = email ∧ now - minutes 60 ≤ row.createdAt)
    steady_true ?_ fun emailCount => ?_
  · intro server _ holding
    exact atMost_recentChallenges holding.writes (fun row => row.email = email) _
  refine runs_select (fun ipCount rows _ =>
    BelowLimits email ipHash (now - minutes 60) emailCount ipCount rows)
    (steady_emailQuota (by simp [emailLock]) _ _) ?_ fun ipCount => ?_
  · intro server _ holding
    exact ⟨holding.fact,
      atMost_recentChallenges holding.writes (fun row => row.ipHash = ipHash) _⟩
  unfold ServerScript.require
  split
  · rename_i below
    simp only [decide_eq_true_eq] at below
    -- The challenge is new: its identifier is free among the committed rows.
    refine runs_insert (fun rows _ =>
      BelowLimits email ipHash (now - minutes 60) 2 19 rows ∧
        rows .challenges challengeId = none) steady_belowLimits ?_ ?_
    · intro rows log _ fact absent
      exact ⟨⟨fact.1.mono (by omega), fact.2.mono (by omega)⟩, absent⟩
    have steady : ∀ writes : WriteSet accounts,
        writes .challenges challengeId ≠ none →
        Steady (codeDiscipline secrets initial) writes
          [clientLock secrets ipHash, emailLock secrets email] fun rows _ =>
            BelowLimits email ipHash (now - minutes 60) 2 19 rows ∧
              rows .challenges challengeId = none := by
      intro writes written
      obtain ⟨version, written⟩ := Option.ne_none_iff_exists'.mp written
      exact steady_belowLimits.and (steady_row written (· = none))
    refine runs_insert _ (steady _ (by simp)) (fun _ _ _ fact _ => fact) ?_
    refine runs_commit (steady _ (by simp [WriteSet.put_of_table_ne])) ?_ ?_
    · intro rows log invariant fact
      obtain ⟨⟨emailBelow, clientBelow⟩, absent⟩ := fact
      exact CodeInvariant.issue invariant absent (apply_issue rows).1 (apply_issue rows).2
        (by simp [WriteSet.apply_put_of_table_ne]) emailBelow clientBelow
    · intro rows log invariant fact held unheld
      exact ⟨respects_of_added (unheld _ (by simp [emailLock])) (unheld _ (by simp [clientLock]))
        (apply_issue rows).1 (apply_issue rows).2, rejectsOnly_of_log_eq,
        receiptsOnly_of_none_new (by simp [WriteSet.apply_put_of_table_ne])⟩
  · exact runs_rollback steady_belowLimits.stable

/-! ## Verifications -/

/-- The counter of one challenge is the only difference. -/
theorem rejectsOnly_of_counted {rows : Rows accounts} {log : List Event} {challengeId : String}
    {row old : ChallengeRow} (present : rows .challenges challengeId = some row) :
    RejectsOnly rows log ((((WriteSet.empty : WriteSet accounts).put .challenges challengeId
      old).put .challenges challengeId (countAttempt row)).apply rows)
      (.rejected challengeId :: log) := by
  intro other same
  cases same
  refine ⟨⟨row, present, by simp⟩, ?_⟩
  intro table key differs
  by_contra elsewhere
  apply differs
  by_cases here : table = .challenges
  · subst here
    have different : key ≠ challengeId := fun same => elsewhere (by rw [same])
    rw [WriteSet.apply_put_of_key_ne different, WriteSet.apply_put_of_key_ne different,
      WriteSet.apply_empty]
  · rw [WriteSet.apply_put_of_table_ne here, WriteSet.apply_put_of_table_ne here,
      WriteSet.apply_empty]

theorem rejectsOnly_of_head {rows later : Rows accounts} {log : List Event} {event : Event}
    (other : ∀ challengeId, event ≠ .rejected challengeId) :
    RejectsOnly rows log later (event :: log) := by
  intro challengeId same
  cases same
  exact absurd rfl (other challengeId)

/-- A challenge that the transaction has locked. -/
theorem steady_challenge {writes : WriteSet accounts} {challengeId : String} {row : ChallengeRow}
    (locked : writes .challenges challengeId ≠ none) :
    Steady (codeDiscipline secrets initial) writes [] fun rows _ =>
      rows .challenges challengeId = some row := by
  obtain ⟨version, written⟩ := Option.ne_none_iff_exists'.mp locked
  exact @steady_row accounts LockKey Event _ writes [] .challenges challengeId version written
    (· = some row)

/-- The commit of a verification. -/
theorem commit_verified_runs {writes : WriteSet accounts} {challengeId tokenHash : String}
    {row : ChallengeRow} {now : Int} (unconsumed : openChallenge now row = true)
    (below : row.attempts < 5)
    (changed : writes .challenges challengeId = some (some (consume now row)))
    (others : ∀ other, other ≠ challengeId → writes .challenges other = none)
    (receipts : ∀ other, other ≠ tokenHash → writes .receipts other = none) :
    (codeDiscipline secrets initial).Runs tx
      (Holding tx writes [] fun rows _ => rows .challenges challengeId = some row)
      (ServerScript.commit tx [.verified challengeId tokenHash row now] : AccountScript Unit) := by
  have consumed : ∀ rows : Rows accounts,
      writes.apply rows .challenges challengeId = some (consume now row) := by
    intro rows
    simp [WriteSet.apply, changed]
  have kept : ∀ (rows : Rows accounts) other, other ≠ challengeId →
      writes.apply rows .challenges other = rows .challenges other :=
    fun rows other different => WriteSet.apply_of_none (others other different)
  refine runs_commit (steady_challenge (by simp [changed])) ?_ ?_
  · intro rows log invariant present
    exact CodeInvariant.accept invariant present unconsumed below (consumed rows) (kept rows)
      fun other different => WriteSet.apply_of_none (receipts other different)
  · intro rows log invariant present held _
    have replaced := noneAdded_of_replaced present (consumed rows) rfl (kept rows)
    refine ⟨replaced.respects, rejectsOnly_of_head (by simp), ?_⟩
    intro token absent there
    by_cases mine : token = tokenHash
    · subst token
      exact ⟨challengeId, row, now, rfl, present, unconsumed, below, consumed rows⟩
    · rw [WriteSet.apply_of_none (receipts token mine)] at there
      exact absurd absent there

/-- The transaction with the right code. -/
theorem acceptCode_runs {challengeId : String} {row : ChallengeRow} {now : Int}
    (unconsumed : openChallenge now row = true) (below : row.attempts < 5) :
    (codeDiscipline secrets initial).Runs tx
      (Holding tx (WriteSet.empty.put .challenges challengeId row) [] fun rows _ =>
        rows .challenges challengeId = some row)
      (acceptCode secrets tx challengeId row now) := by
  have locked : Steady (codeDiscipline secrets initial)
      (WriteSet.empty.put .challenges challengeId row) [] fun rows _ =>
        rows .challenges challengeId = some row := steady_challenge (by simp)
  refine runs_await locked.stable fun token => ?_
  split
  · exact runs_rollback locked.stable
  refine runs_change locked (fun _ _ _ _ => WriteSet.apply_put_self _ _ _ _ _) ?_
  refine runs_insert _ (steady_challenge (by simp)) (fun _ _ _ fact _ => fact) ?_
  refine runs_upsert (steady_challenge (by simp [WriteSet.put_of_table_ne])) fun profile => ?_
  refine runs_insertIfAbsent (steady_challenge (by simp [WriteSet.put_of_table_ne])) ?_ ?_
  · apply commit_verified_runs unconsumed below
    · simp [WriteSet.put_of_table_ne]
    · intro other different
      simp [WriteSet.put_of_table_ne, WriteSet.put_of_key_ne, different, WriteSet.empty]
    · intro other different
      simp [WriteSet.put_of_table_ne, WriteSet.put_of_key_ne, different, WriteSet.empty]
  · apply commit_verified_runs unconsumed below
    · simp [WriteSet.put_of_table_ne]
    · intro other different
      simp [WriteSet.put_of_table_ne, WriteSet.put_of_key_ne, different, WriteSet.empty]
    · intro other different
      simp [WriteSet.put_of_table_ne, WriteSet.put_of_key_ne, different, WriteSet.empty]

theorem verifyEmail_runs (challengeId code : String) :
    (codeDiscipline secrets initial).Runs tx
      ((codeDiscipline secrets initial).protocol.resting tx)
      (verifyEmail secrets tx challengeId code) := by
  unfold verifyEmail
  split
  · exact runs_pure
  refine runs_of_resting (runs_utcNow steady_true.stable fun now => ?_)
  refine runs_changeRow (fun row rows _ => rows .challenges challengeId = some row)
    steady_true (fun _ _ _ _ _ seen => seen) ?_ ?_
  · intro row new locked
    split at locked
    · rename_i unconsumed
      cases locked
      have steady : Steady (codeDiscipline secrets initial)
          (WriteSet.empty.put .challenges challengeId row) [] fun rows _ =>
            rows .challenges challengeId = some row := steady_challenge (by simp)
      dsimp only
      split
      · exact runs_rollback steady.stable
      · rename_i below
        split
        · refine runs_change steady (fun _ _ _ _ => WriteSet.apply_put_self _ _ _ _ _) ?_
          refine runs_commit (steady_challenge (by simp)) ?_ ?_
          · intro rows log invariant present
            refine CodeInvariant.reject invariant present unconsumed (by omega) (by simp) ?_ ?_
            · intro other different
              simp [WriteSet.apply_put_of_key_ne, different]
            · intro tokenHash
              simp [WriteSet.apply_put_of_table_ne]
          · intro rows log invariant present held _
            refine ⟨NoneAdded.respects (noneAdded_of_replaced present
              (WriteSet.apply_put_self _ _ _ _ _) rfl ?_), rejectsOnly_of_counted present,
              receiptsOnly_of_none_new (by simp [WriteSet.apply_put_of_table_ne])⟩
            intro other different
            simp [WriteSet.apply_put_of_key_ne, different]
        · exact acceptCode_runs unconsumed (by omega)
    · cases locked
  · exact runs_weaken (fun _ _ _ _ => trivial) (runs_rollback steady_true.stable)

/-! ## The other requests -/

/-- What the other requests write: no challenges, and no receipts but those that are
there. -/
def permitsOther : (table : TableName) → accounts.Key table → Option (accounts.Row table) →
    accounts.Row table → Prop
  | .challenges, _, _, _ => False
  | .receipts, _, base, _ => base.isSome
  | _, _, _, _ => True

theorem permitsOther_identity : PermitsIdentity permitsOther where
  receipts _ base row known _ := by
    rcases known with rfl | known
    · exact rfl
    · exact known
  profiles _ _ _ _ _ := trivial

/-- An event that says nothing about challenges. -/
def Foreign (event : Event) : Prop :=
  (∀ challengeId, event ≠ .rejected challengeId) ∧
    ∀ challengeId tokenHash challenge now, event ≠ .verified challengeId tokenHash challenge now

theorem Foreign.admissible {event : Event} (foreign : Foreign event) (older : List Event) :
    Admissible older event := by
  cases event with
  | rejected challengeId => exact absurd rfl (foreign.1 challengeId)
  | verified challengeId tokenHash challenge now =>
      exact absurd rfl (foreign.2 challengeId tokenHash challenge now)
  | redeemed inviteId email invite now => trivial
  | coffee email code => trivial

theorem CodeInvariant.cons_foreign {rows : Rows accounts} {log : List Event} {event : Event}
    (foreign : Foreign event) (invariant : CodeInvariant initial rows log) :
    CodeInvariant initial rows (event :: log) := by
  obtain ⟨limited, tallied, orderly, earned⟩ := invariant
  have uncounted : ∀ challengeId,
      rejections challengeId (event :: log) = rejections challengeId log :=
    fun challengeId => rejections_cons_of_ne (foreign.1 challengeId)
  have unverified : ∀ challengeId,
      Verified challengeId (event :: log) ↔ Verified challengeId log :=
    fun challengeId => verified_cons (foreign.2 challengeId)
  refine ⟨limited, ⟨?_, ?_, ?_⟩, ⟨foreign.admissible log, orderly⟩, earned.cons fun _ => id⟩
  · intro challengeId missing
    rw [uncounted, unverified]
    exact tallied.known challengeId missing
  · intro challengeId row present
    rw [uncounted]
    exact tallied.counted challengeId row present
  · intro challengeId row present verified
    rw [unverified] at verified
    exact tallied.consumed challengeId row present verified

/-- Challenges stay, and there are no new receipts. -/
theorem CodeInvariant.of_permitted {rows : Rows accounts} {log : List Event}
    {writes : WriteSet accounts}
    (permitted : ∀ table key version, writes table key = some version →
      ∃ row, version = some row ∧ permitsOther table key (rows table key) row)
    (invariant : CodeInvariant initial rows log) :
    (∀ challengeId, writes.apply rows .challenges challengeId = rows .challenges challengeId) ∧
      (∀ tokenHash, writes.apply rows .receipts tokenHash ≠ none →
        rows .receipts tokenHash ≠ none) ∧
      CodeInvariant initial (writes.apply rows) log := by
  have same : ∀ challengeId,
      writes.apply rows .challenges challengeId = rows .challenges challengeId := by
    intro challengeId
    cases written : writes .challenges challengeId with
    | none => exact WriteSet.apply_of_none written
    | some version =>
        obtain ⟨row, _, impossible⟩ := permitted .challenges challengeId version written
        exact impossible.elim
  have known : ∀ tokenHash, writes.apply rows .receipts tokenHash ≠ none →
      rows .receipts tokenHash ≠ none := by
    intro tokenHash there
    cases written : writes .receipts tokenHash with
    | none => rwa [WriteSet.apply_of_none written] at there
    | some version =>
        obtain ⟨row, _, known⟩ := permitted .receipts tokenHash version written
        exact Option.isSome_iff_ne_none.mp known
  obtain ⟨limited, tallied, orderly, earned⟩ := invariant
  refine ⟨same, known, limited.of_noneAdded (noneAdded_of_eq same), ⟨?_, ?_, ?_⟩, orderly, ?_⟩
  · intro challengeId missing
    exact tallied.known challengeId (same challengeId ▸ missing)
  · intro challengeId row present
    exact tallied.counted challengeId row (same challengeId ▸ present)
  · intro challengeId row present verified
    exact tallied.consumed challengeId row (same challengeId ▸ present) verified
  · intro tokenHash there
    apply earned tokenHash
    rw [Option.isSome_iff_ne_none] at there ⊢
    exact known tokenHash there

theorem harmless_nil : Harmless (codeDiscipline secrets initial) permitsOther [] where
  kept _ _ _ invariant permitted := (invariant.of_permitted permitted).2.2
  allowed _ _ _ _ invariant permitted :=
    ⟨(noneAdded_of_eq (invariant.of_permitted permitted).1).respects, rejectsOnly_of_log_eq,
      receiptsOnly_of_none_new (invariant.of_permitted permitted).2.1⟩

theorem harmless_foreign {event : Event} (foreign : Foreign event) :
    Harmless (codeDiscipline secrets initial) permitsOther [event] where
  kept _ _ _ invariant permitted := (invariant.of_permitted permitted).2.2.cons_foreign foreign
  allowed _ _ _ _ invariant permitted :=
    ⟨(noneAdded_of_eq (invariant.of_permitted permitted).1).respects,
      rejectsOnly_of_head foreign.1,
      receiptsOnly_of_none_new (invariant.of_permitted permitted).2.1⟩

/-- The script writes only what the other requests write. -/
abbrev LeavesCodes (secrets : Secrets) (initial : Rows accounts) (tx : Nat)
    (script : AccountScript Unit) : Prop :=
  (codeDiscipline secrets initial).Runs tx (Tame permitsOther tx) script

theorem LeavesCodes.runs {script : AccountScript Unit}
    (leaves : LeavesCodes secrets initial tx script) :
    (codeDiscipline secrets initial).Runs tx
      ((codeDiscipline secrets initial).protocol.resting tx) script :=
  tame_of_resting leaves

theorem insertInvite_leavesCodes {inviteId : String} {row : InviteRow}
    {rest : AccountScript Unit} (continues : LeavesCodes secrets initial tx rest) :
    LeavesCodes secrets initial tx (insertInvite tx inviteId row rest) :=
  tame_lock (tame_observe fun _ => tame_require (tame_insert (fun _ => trivial) continues))

theorem redeemAttempt_leavesCodes (email ipHash codeHash attemptId : String) (now : Int) :
    LeavesCodes secrets initial tx (redeemAttempt tx email ipHash codeHash attemptId now) := by
  refine tame_selectForUpdate (fun _ _ _ _ => trivial) fun found => ?_
  dsimp only
  split
  · exact tame_insert (fun _ => trivial) (tame_commit harmless_nil)
  · refine tame_insert (fun _ => trivial) (tame_changeRow (fun _ _ _ _ _ => trivial) fun _ => ?_)
    exact tame_upsert (fun _ _ => trivial) (tame_commit (harmless_foreign (by simp [Foreign])))

theorem redeemPriority_leavesCodes (token ipHash code : String) :
    (codeDiscipline secrets initial).Runs tx
      ((codeDiscipline secrets initial).protocol.resting tx)
      (redeemPriority secrets tx token ipHash code) := by
  refine identity_runs permitsOther_identity harmless_nil fun email => ?_
  refine runs_utcNow resting_stable fun now => ?_
  split
  · exact runs_pure
  · refine LeavesCodes.runs
      (tame_await fun attemptId => tame_lock (tame_observe fun attempts => ?_))
    exact tame_require (redeemAttempt_leavesCodes email ipHash _ attemptId now)

theorem coffeeSession_leavesCodes (token ipHash : String) :
    (codeDiscipline secrets initial).Runs tx
      ((codeDiscipline secrets initial).protocol.resting tx)
      (coffeeSession secrets tx token ipHash) := by
  refine identity_runs permitsOther_identity harmless_nil fun email => ?_
  refine LeavesCodes.runs (tame_observe fun now => tame_await fun sessionId => ?_)
  refine tame_await fun claimToken => tame_lock (tame_observe fun recent => tame_require ?_)
  exact tame_insert (fun _ => trivial) (tame_commit harmless_nil)

theorem claimCoffee_leavesCodes (email sessionKey : String) (session : CoffeeSessionRow)
    (now : Int) :
    LeavesCodes secrets initial tx (claimCoffee secrets tx email sessionKey session now) := by
  refine tame_await fun code => tame_await fun inviteId => tame_await fun nonce => ?_
  refine insertInvite_leavesCodes (tame_insert (fun _ => trivial) ?_)
  refine tame_changeRow (fun _ _ _ _ _ => trivial) fun _ => ?_
  exact tame_commit (harmless_foreign (by simp [Foreign]))

theorem coffeeInvite_leavesCodes (token sessionId secret : String) :
    (codeDiscipline secrets initial).Runs tx
      ((codeDiscipline secrets initial).protocol.resting tx)
      (coffeeInvite secrets tx token sessionId secret) := by
  refine identity_runs permitsOther_identity harmless_nil fun email => ?_
  refine LeavesCodes.runs (tame_observe fun now => tame_lock (tame_observe fun known => ?_))
  split
  · split
    · exact tame_rollback
    · exact tame_commit (harmless_foreign (by simp [Foreign]))
  · refine tame_changeRow (fun _ _ _ _ _ => trivial) fun locked => ?_
    split
    · exact tame_rollback
    · exact tame_require (claimCoffee_leavesCodes email _ _ now)

theorem createInvites_leavesCodes (expiresAt : Int) (note : Option String) (now : Int)
    (count : Nat) :
    LeavesCodes secrets initial tx (createInvites secrets tx expiresAt note now count) := by
  induction count with
  | zero => exact tame_commit harmless_nil
  | succ count ih =>
      exact tame_await fun code => tame_await fun inviteId => tame_await fun nonce =>
        insertInvite_leavesCodes ih

theorem adminInvites_leavesCodes (token : String) (count expiresInDays : Int)
    (note : Option String) :
    (codeDiscipline secrets initial).Runs tx
      ((codeDiscipline secrets initial).protocol.resting tx)
      (adminInvites secrets tx token count expiresInDays note) := by
  refine requireAdmin_runs permitsOther_identity harmless_nil ?_
  exact LeavesCodes.runs (tame_observe fun now => createInvites_leavesCodes _ note now _)

theorem updateInvite_leavesCodes (token inviteId : String) (patch : InvitePatch) :
    (codeDiscipline secrets initial).Runs tx
      ((codeDiscipline secrets initial).protocol.resting tx)
      (updateInvite secrets tx token inviteId patch) := by
  refine requireAdmin_runs permitsOther_identity harmless_nil ?_
  refine LeavesCodes.runs (tame_observe fun now =>
    tame_changeRow (fun _ _ _ _ _ => trivial) fun locked => ?_)
  split
  · exact tame_rollback
  · exact tame_require (tame_changeRow (fun _ _ _ _ _ => trivial) fun _ =>
      tame_commit harmless_nil)

theorem deleteInvite_leavesCodes (token inviteId : String) :
    (codeDiscipline secrets initial).Runs tx
      ((codeDiscipline secrets initial).protocol.resting tx)
      (deleteInvite secrets tx token inviteId) := by
  refine requireAdmin_runs permitsOther_identity harmless_nil ?_
  refine LeavesCodes.runs (tame_observe fun now =>
    tame_changeRow (fun _ _ _ _ _ => trivial) fun removed => ?_)
  split
  · exact tame_rollback
  · exact tame_commit harmless_nil

/-- Every request keeps to the discipline. -/
theorem accounts_follow_codes (secrets : Secrets) (initial : Rows accounts) :
    (codeDiscipline secrets initial).protocol.Follows (accountSystem secrets)
      System.anyAction := by
  apply follows
  intro tx script operation
  cases operation with
  | sendVerificationCode email ipHash => exact sendVerificationCode_runs email ipHash
  | verifyEmail challengeId code => exact verifyEmail_runs challengeId code
  | redeemPriority token ipHash code => exact redeemPriority_leavesCodes token ipHash code
  | coffeeSession token ipHash => exact coffeeSession_leavesCodes token ipHash
  | coffeeInvite token sessionId secret => exact coffeeInvite_leavesCodes token sessionId secret
  | adminInvites token count expiresInDays note =>
      exact adminInvites_leavesCodes token count expiresInDays note
  | updateInvite token inviteId patch => exact updateInvite_leavesCodes token inviteId patch
  | deleteInvite token inviteId => exact deleteInvite_leavesCodes token inviteId

end

/-! ## Runs -/

/-- The receipts that a challenge has given. -/
def verifications (challengeId : String) (log : List Event) : Nat :=
  log.countP fun
    | .verified other _ _ _ => other = challengeId
    | _ => false

theorem Orderly.rejections_le {log : List Event} (orderly : Orderly log) (challengeId : String) :
    rejections challengeId log ≤ 5 := by
  induction log with
  | nil => simp [rejections]
  | cons event older ih =>
      have before := ih orderly.2
      by_cases same : event = .rejected challengeId
      · subst same
        have room : rejections challengeId older < 5 := orderly.1.1
        rw [rejections_cons_self]
        omega
      · rw [rejections_cons_of_ne same]
        exact before

theorem verifications_eq_zero {challengeId : String} {log : List Event}
    (unverified : ¬Verified challengeId log) : verifications challengeId log = 0 := by
  rw [verifications, List.countP_eq_zero]
  intro event member
  cases event with
  | verified other tokenHash challenge now =>
      simp only [decide_eq_true_eq]
      rintro rfl
      exact unverified ⟨tokenHash, challenge, now, member⟩
  | rejected other => simp
  | redeemed inviteId email invite now => simp
  | coffee email code => simp

theorem Orderly.verifications_le {log : List Event} (orderly : Orderly log)
    (challengeId : String) : verifications challengeId log ≤ 1 := by
  induction log with
  | nil => simp [verifications]
  | cons event older ih =>
      have before := ih orderly.2
      cases event with
      | verified other tokenHash challenge now =>
          by_cases same : other = challengeId
          · subst same
            have none := verifications_eq_zero orderly.1.2.1
            simp only [verifications, List.countP_cons] at none ⊢
            simp [none]
          · simpa [verifications, same] using before
      | rejected other => simpa [verifications] using before
      | redeemed inviteId email invite now => simpa [verifications] using before
      | coffee email code => simpa [verifications] using before

/-- Along every run the challenges stay within their limits, a challenge takes at
most five wrong codes and gives at most one receipt, only while it is open, and a
wrong code changes nothing but its counter. -/
theorem codes_limited_of_reachable (secrets : Secrets) {server : AccountServer}
    (atRest : AtRest server) (limited : RateLimited server.base) (unused : server.log = [])
    {config : Config AccountServer Input Unit Nat}
    (reachable : (accountSystem secrets).Reachable System.anyAction (System.idle server) config) :
    RateLimited config.shared.base ∧
      (∀ challengeId, rejections challengeId config.shared.log ≤ 5 ∧
        verifications challengeId config.shared.log ≤ 1) ∧
      Orderly config.shared.log ∧
      ReceiptsEarned server.base config.shared.base config.shared.log ∧
      ∀ target, (accountSystem secrets).Step System.anyAction config target →
        RejectsOnly config.shared.base config.shared.log target.shared.base target.shared.log ∧
        ReceiptsOnly config.shared.base config.shared.log target.shared.base
          target.shared.log := by
  have follows := accounts_follow_codes secrets server.base
  have holds : (codeDiscipline secrets server.base).holds server.base server.log := by
    rw [unused]
    refine ⟨limited, ⟨?_, ?_, ?_⟩, trivial, fun tokenHash there => Or.inl there⟩
    · intro challengeId _
      exact ⟨rfl, by simp [Verified]⟩
    · intro challengeId row _
      exact Nat.zero_le _
    · intro challengeId row _ verified
      simp [Verified] at verified
  obtain ⟨limited, _, orderly, earned⟩ := holds_of_reachable follows atRest holds reachable
  refine ⟨limited, fun challengeId => ⟨orderly.rejections_le challengeId,
    orderly.verifications_le challengeId⟩, orderly, earned, fun target step => ?_⟩
  have allowed : ∀ held rows log later laterLog,
      (codeDiscipline secrets server.base).allows held rows log later laterLog →
      RejectsOnly rows log later laterLog ∧ ReceiptsOnly rows log later laterLog :=
    fun _ _ _ _ _ allowed => allowed.2
  exact allows_of_step follows atRest holds reachable allowed step

/-! ### A run -/

/-- The hashes of the texts of one run. -/
def sampleSecrets : Secrets where
  sha256
    | "challenge-1:123456:pepper" =>
        "5adc889230aefebc3243bc17530c5b28a676e72533e420e249f612fce19b33f1"
    | "challenge-1:000000:pepper" =>
        "60f89dbec7773f293a1d3bab1f9da5003bae18eac4a09d6a12c65a9a3be9cb6c"
    | _ => "3c469e9d6c5875d37a43f353d4f88e61fcf812c66eee3457465a40b0da4153e0"
  hmac _ text := text
  encrypt nonce text := nonce ++ text
  decrypt _ := none
  hashtext
    | "verification-email:player@example.com" => 343788016
    | _ => -1307408227
  verificationPepper := "pepper"
  invitePepper := "pepper"

/-- A code is sent, mistyped once and accepted. -/
def verifiedRun : List (Move AccountServer Input Unit Nat) :=
  .start 0 (sendVerificationCode sampleSecrets 0 "player@example.com" "client") ::
    .act 0 .none :: .act 0 (.text "challenge-1") :: .act 0 (.text "123456") ::
    .act 0 (.text "mail-1") :: (System.acts 0 .none 7 ++
  .start 0 (verifyEmail sampleSecrets 0 "challenge-1" "000000") :: (System.acts 0 .none 4 ++
  .start 1 (verifyEmail sampleSecrets 1 "challenge-1" "123456") ::
    .act 1 .none :: .act 1 .none :: .act 1 (.text "token") :: System.acts 1 .none 5))

theorem legal_verifiedRun :
    ∀ move ∈ verifiedRun, (accountSystem sampleSecrets).Legal move := by
  simp only [verifiedRun, List.forall_mem_append, List.forall_mem_cons]
  exact ⟨.sendVerificationCode _ _, trivial, trivial, trivial, trivial, System.legal_acts,
    .verifyEmail _ _, System.legal_acts, .verifyEmail _ _, trivial, trivial, trivial,
    System.legal_acts⟩

/-- The receipt of the run. -/
def sampleReceipt (config : Config AccountServer Input Unit Nat) : Bool :=
  (config.shared.base .receipts
    "3c469e9d6c5875d37a43f353d4f88e61fcf812c66eee3457465a40b0da4153e0").isSome

theorem verifiedRun_limited : ∃ config,
    (accountSystem sampleSecrets).Reachable System.anyAction
      (System.idle (Server.new 0)) config ∧
    sampleReceipt config = true ∧ RateLimited config.shared.base ∧
    rejections "challenge-1" config.shared.log ≤ 5 := by
  have limited : RateLimited (Server.new 0 : AccountServer).base := by
    constructor
    · rintro email start keys _ selected
      cases keys with
      | nil => simp
      | cons key keys =>
          obtain ⟨row, impossible, _⟩ := selected key List.mem_cons_self
          cases impossible
    · rintro ipHash start keys _ selected
      cases keys with
      | nil => simp
      | cons key keys =>
          obtain ⟨row, impossible, _⟩ := selected key List.mem_cons_self
          cases impossible
  obtain ⟨config, reachable, received⟩ := System.exists_reachable_of_replay legal_verifiedRun
    (show (System.replay (accountSystem sampleSecrets) System.anyAction
      (System.idle (Server.new 0)) verifiedRun).any sampleReceipt = true by decide)
  obtain ⟨kept, counts, _⟩ := codes_limited_of_reachable sampleSecrets (atRest_new 0) limited rfl
    reachable
  exact ⟨config, reachable, received, kept, (counts _).1⟩

end TennisAlerts.HostCore.Accounts
