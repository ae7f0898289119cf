import TennisAlerts.Database.Quota
import TennisAlerts.HostCore.Accounts

/-!
# The life of an invite code

A code is redeemed at most once, while it is active, undeleted and unexpired, and a
redeemed code keeps its fate.  An email has one code for its coffee, and ten
attempts to redeem a code in an hour.  The endpoints lock rows, index entries and
two families of advisory locks; each of them looks at the rows again after it has
its locks.
-/

namespace TennisAlerts.HostCore.Accounts

open TennisAlerts.Database TennisAlerts.Concurrent Discipline

/-! ## The property -/

/-- At most ten attempts of an email in an hour, whichever end of it is left out. -/
structure AttemptsLimited (rows : Rows accounts) : Prop where
  fromStart : ∀ email start, rows.AtMost .attempts 10 fun row : AttemptRow =>
    row.email = email ∧ start ≤ row.createdAt ∧ row.createdAt < start + minutes 60
  toEnd : ∀ email start, rows.AtMost .attempts 10 fun row : AttemptRow =>
    row.email = email ∧ start < row.createdAt ∧ row.createdAt ≤ start + minutes 60

/-- No code is redeemed twice. -/
def RedeemedOnce : List Event → Prop
  | [] => True
  | .redeemed inviteId _ invite _ :: older =>
      (∀ other email row now, .redeemed other email row now ∈ older →
        other ≠ inviteId ∧ row.codeHash ≠ invite.codeHash) ∧ RedeemedOnce older
  | _ :: older => RedeemedOnce older

/-- All coffee codes that an email got are the same. -/
def CoffeeAgrees (log : List Event) : Prop :=
  ∀ email first second, .coffee email first ∈ log → .coffee email second ∈ log → first = second

/-- What stays of a code: its text, everything about its redemption, and that it is
deleted. -/
structure Persists (old new : InviteRow) : Prop where
  codeHash : new.codeHash = old.codeHash
  encryptedCode : new.encryptedCode = old.encryptedCode
  redeemed : old.redeemedAt ≠ none → new.redeemedBy = old.redeemedBy ∧
    new.redeemedAt = old.redeemedAt ∧ new.expiresAt = old.expiresAt ∧ new.active = old.active ∧
    new.deletedAt = old.deletedAt
  deleted : old.deletedAt ≠ none → new.deletedAt ≠ none ∧ new.redeemedAt = old.redeemedAt

/-- What a commit may do to codes, claims and attempts. -/
structure InviteStep (rows : Rows accounts) (log : List Event) (later : Rows accounts)
    (laterLog : List Event) : Prop where
  kept : ∀ inviteId (row : InviteRow), rows .invites inviteId = some row →
    ∃ new : InviteRow, later .invites inviteId = some new ∧ Persists row new
  /-- A code that was not redeemed before is redeemed by the newest entry. -/
  redeemed : ∀ inviteId (new : InviteRow), later .invites inviteId = some new →
    new.redeemedAt ≠ none →
    (∃ row : InviteRow, rows .invites inviteId = some row ∧ row.redeemedAt ≠ none) ∨
      ∃ email row now, laterLog = .redeemed inviteId email row now :: log
  /-- A redemption finds an active, undeleted and unexpired code and is an attempt. -/
  recorded : ∀ inviteId email row now, laterLog = .redeemed inviteId email row now :: log →
    rows .invites inviteId = some row ∧ row.active = true ∧ row.redeemedAt = none ∧
      row.deletedAt = none ∧ now < row.expiresAt ∧
      later .invites inviteId = some (redeem email now row) ∧
      ∃ attemptId ipHash, rows .attempts attemptId = none ∧
        later .attempts attemptId = some ⟨email, ipHash, true, now⟩
  claims : ∀ email (claim : CoffeeClaimRow), rows .coffeeClaims email = some claim →
    later .coffeeClaims email = some claim
  attempts : ∀ attemptId (row : AttemptRow), rows .attempts attemptId = some row →
    later .attempts attemptId = some row

/-- The unique index on the hashes of the codes. -/
def UniqueCodes (rows : Rows accounts) : Prop :=
  ∀ first second (row other : InviteRow), rows .invites first = some row →
    rows .invites second = some other → row.codeHash = other.codeHash → first = second

/-! ## The discipline -/

def attemptLock (secrets : Secrets) (email : String) : LockKey :=
  .advisory (secrets.hashtext ("invite-attempt:" ++ email))

/-- Locks keep others from adding attempts of an email and codes with a hash. -/
structure Shields (secrets : Secrets) (held : LockKey → Prop) (rows later : Rows accounts) :
    Prop where
  attempts : ∀ email, held (attemptLock secrets email) → ∀ attemptId (row : AttemptRow),
    later .attempts attemptId = some row → row.email = email →
    rows .attempts attemptId = some row
  codes : ∀ hash, held (.codeHash hash) → ∀ inviteId (row : InviteRow),
    later .invites inviteId = some row → row.codeHash = hash →
    ∃ old : InviteRow, rows .invites inviteId = some old ∧ old.codeHash = hash

/-- The email has a claim for the code. -/
def Claimed (secrets : Secrets) (rows : Rows accounts) (email code : String) : Prop :=
  ∃ (claim : CoffeeClaimRow) (invite : InviteRow), rows .coffeeClaims email = some claim ∧
    rows .invites claim.inviteId = some invite ∧
    decryptInviteCode secrets invite.encryptedCode = some code

structure InviteInvariant (secrets : Secrets) (rows : Rows accounts) (log : List Event) :
    Prop where
  unique : UniqueCodes rows
  once : RedeemedOnce log
  settled : ∀ inviteId email invite now, .redeemed inviteId email invite now ∈ log →
    ∃ row : InviteRow, rows .invites inviteId = some row ∧ row.codeHash = invite.codeHash ∧
      row.redeemedAt ≠ none
  coffee : ∀ email code, .coffee email code ∈ log → Claimed secrets rows email code
  limited : AttemptsLimited rows

/-- Nothing is recorded yet. -/
theorem InviteInvariant.initial {secrets : Secrets} {rows : Rows accounts}
    (unique : UniqueCodes rows) (limited : AttemptsLimited rows) :
    InviteInvariant secrets rows [] where
  unique := unique
  once := trivial
  settled _ _ _ _ recorded := absurd recorded List.not_mem_nil
  coffee _ _ recorded := absurd recorded List.not_mem_nil
  limited := limited

theorem Persists.refl (row : InviteRow) : Persists row row :=
  ⟨rfl, rfl, fun _ => ⟨rfl, rfl, rfl, rfl, rfl⟩, fun deleted => ⟨deleted, rfl⟩⟩

theorem Shields.refl (secrets : Secrets) (held : LockKey → Prop) (rows : Rows accounts) :
    Shields secrets held rows rows where
  attempts _ _ _ _ found _ := found
  codes _ _ _ row found same := ⟨row, found, same⟩

/-- Codes change without being redeemed. -/
structure Evolves (rows later : Rows accounts) : Prop where
  kept : ∀ inviteId (row : InviteRow), rows .invites inviteId = some row →
    ∃ new : InviteRow, later .invites inviteId = some new ∧ Persists row new ∧
      new.redeemedAt = row.redeemedAt
  added : ∀ inviteId (new : InviteRow), rows .invites inviteId = none →
    later .invites inviteId = some new → new.redeemedAt = none
  claims : ∀ email (claim : CoffeeClaimRow), rows .coffeeClaims email = some claim →
    later .coffeeClaims email = some claim
  attempts : ∀ attemptId (row : AttemptRow), rows .attempts attemptId = some row →
    later .attempts attemptId = some row

theorem Evolves.step {rows later : Rows accounts} {log laterLog : List Event}
    (evolves : Evolves rows later)
    (silent : ∀ inviteId email row now, laterLog ≠ .redeemed inviteId email row now :: log) :
    InviteStep rows log later laterLog where
  kept inviteId row found := by
    obtain ⟨new, present, persists, _⟩ := evolves.kept inviteId row found
    exact ⟨new, present, persists⟩
  redeemed inviteId new present redeemed := by
    cases found : rows .invites inviteId with
    | none => exact absurd (evolves.added inviteId new found present) redeemed
    | some row =>
        obtain ⟨same, present', _, kept⟩ := evolves.kept inviteId row found
        rw [present] at present'
        cases present'
        exact Or.inl ⟨row, rfl, kept ▸ redeemed⟩
  recorded inviteId email row now same := absurd same (silent inviteId email row now)
  claims := evolves.claims
  attempts := evolves.attempts

theorem Evolves.refl (rows : Rows accounts) : Evolves rows rows where
  kept _ row found := ⟨row, found, Persists.refl row, rfl⟩
  added _ _ missing found := by
    rw [missing] at found
    cases found
  claims _ _ found := found
  attempts _ _ found := found

theorem ne_cons_self_of_length {log : List Event} {event : Event} : log ≠ event :: log := by
  intro same
  exact absurd (congrArg List.length same) (by simp)

def inviteDiscipline (secrets : Secrets) : Discipline accounts LockKey Event where
  holds := InviteInvariant secrets
  allows held rows log later laterLog :=
    Shields secrets held rows later ∧ InviteStep rows log later laterLog
  still locks rows _ := ⟨Shields.refl secrets locks rows,
    (Evolves.refl rows).step fun _ _ _ _ => ne_cons_self_of_length⟩

/-! ## What commits do -/

section

variable {secrets : Secrets} {rows later : Rows accounts} {log : List Event}

theorem InviteStep.claimed {laterLog : List Event} (step : InviteStep rows log later laterLog)
    {email code : String} (claimed : Claimed secrets rows email code) :
    Claimed secrets later email code := by
  obtain ⟨claim, invite, found, present, decrypted⟩ := claimed
  obtain ⟨new, kept, persists⟩ := step.kept claim.inviteId invite present
  refine ⟨claim, new, step.claims email claim found, kept, ?_⟩
  rw [persists.encryptedCode]
  exact decrypted

/-- Entries of the history stay true. -/
theorem InviteInvariant.settled_later {laterLog : List Event}
    (invariant : InviteInvariant secrets rows log) (step : InviteStep rows log later laterLog) :
    ∀ inviteId email invite now, .redeemed inviteId email invite now ∈ log →
      ∃ row : InviteRow, later .invites inviteId = some row ∧ row.codeHash = invite.codeHash ∧
        row.redeemedAt ≠ none := by
  intro inviteId email invite now member
  obtain ⟨row, found, same, redeemed⟩ := invariant.settled inviteId email invite now member
  obtain ⟨new, present, persists⟩ := step.kept inviteId row found
  refine ⟨new, present, persists.codeHash.trans same, ?_⟩
  rw [(persists.redeemed redeemed).2.1]
  exact redeemed

/-- A commit that redeems no code. -/
theorem InviteInvariant.evolve (invariant : InviteInvariant secrets rows log)
    (evolves : Evolves rows later) (unique : UniqueCodes later) (limited : AttemptsLimited later) :
    InviteInvariant secrets later log := by
  have step : InviteStep rows log later log := evolves.step fun _ _ _ _ => ne_cons_self_of_length
  exact ⟨unique, invariant.once, invariant.settled_later step,
    fun email code member => step.claimed (invariant.coffee email code member), limited⟩

theorem InviteInvariant.cons_coffee (invariant : InviteInvariant secrets rows log)
    {email code : String} (claimed : Claimed secrets rows email code) :
    InviteInvariant secrets rows (.coffee email code :: log) := by
  refine ⟨invariant.unique, invariant.once, ?_, ?_, invariant.limited⟩
  · intro inviteId address invite now member
    rcases List.mem_cons.mp member with impossible | older
    · cases impossible
    · exact invariant.settled inviteId address invite now older
  · intro address text member
    rcases List.mem_cons.mp member with same | older
    · cases same
      exact claimed
    · exact invariant.coffee address text older

/-- A code is redeemed. -/
theorem InviteInvariant.redeem (invariant : InviteInvariant secrets rows log) {inviteId : String}
    {email : String} {invite : InviteRow} {now : Int}
    (found : rows .invites inviteId = some invite) (unredeemed : invite.redeemedAt = none)
    (step : InviteStep rows log later (.redeemed inviteId email invite now :: log))
    (unique : UniqueCodes later) (limited : AttemptsLimited later) :
    InviteInvariant secrets later (.redeemed inviteId email invite now :: log) := by
  refine ⟨unique, ⟨?_, invariant.once⟩, ?_, ?_, limited⟩
  · intro other address row instant member
    obtain ⟨row', found', same, redeemed⟩ := invariant.settled other address row instant member
    have different : other ≠ inviteId := by
      rintro rfl
      rw [found] at found'
      cases found'
      exact redeemed unredeemed
    refine ⟨different, fun hash => different ?_⟩
    exact invariant.unique other inviteId row' invite found' found (same.trans hash)
  · intro other address row instant member
    rcases List.mem_cons.mp member with same | older
    · cases same
      obtain ⟨_, _, _, _, _, present, _⟩ := step.recorded inviteId email invite now rfl
      exact ⟨_, present, rfl, by simp [Accounts.redeem]⟩
    · exact invariant.settled_later step other address row instant older
  · intro address text member
    rcases List.mem_cons.mp member with impossible | older
    · cases impossible
    · exact step.claimed (invariant.coffee address text older)

/-- Every code was there with the same hash. -/
theorem UniqueCodes.of_older (unique : UniqueCodes rows)
    (older : ∀ inviteId (new : InviteRow), later .invites inviteId = some new →
      ∃ row : InviteRow, rows .invites inviteId = some row ∧ row.codeHash = new.codeHash) :
    UniqueCodes later := by
  intro first second row other found present same
  obtain ⟨row', found', hash⟩ := older first row found
  obtain ⟨other', present', hash'⟩ := older second other present
  exact unique first second row' other' found' present' (hash.trans (same.trans hash'.symm))

theorem AttemptsLimited.of_eq (limited : AttemptsLimited rows)
    (same : ∀ attemptId, later .attempts attemptId = rows .attempts attemptId) :
    AttemptsLimited later := by
  constructor
  · intro email start
    exact (limited.fromStart email start).of_older fun attemptId row found selected =>
      ⟨row, same attemptId ▸ found, selected⟩
  · intro email start
    exact (limited.toEnd email start).of_older fun attemptId row found selected =>
      ⟨row, same attemptId ▸ found, selected⟩

/-- One more attempt, below the limit of the hour before it. -/
theorem AttemptsLimited.add (limited : AttemptsLimited rows) {attemptId : String}
    {row : AttemptRow} (added : later .attempts attemptId = some row)
    (others : ∀ other, other ≠ attemptId → later .attempts other = rows .attempts other)
    (below : rows.AtMost .attempts 9 fun old : AttemptRow =>
      old.email = row.email ∧ row.createdAt - minutes 60 < old.createdAt) :
    AttemptsLimited later := by
  constructor
  · intro email start
    refine (limited.fromStart email start).add ?_ added others
    rintro ⟨rfl, first, last⟩
    apply below.of_older
    rintro other old found ⟨same, selected, _⟩
    exact ⟨old, found, same, by omega⟩
  · intro email start
    refine (limited.toEnd email start).add ?_ added others
    rintro ⟨rfl, first, last⟩
    apply below.of_older
    rintro other old found ⟨same, selected, _⟩
    exact ⟨old, found, same, by omega⟩

end

/-! ## New codes -/

/-- What a transaction knows of the codes it has inserted: their identifiers and
hashes are unused. -/
structure Drafted (drafts : String → Option (Option InviteRow)) (rows : Rows accounts) : Prop where
  fresh : ∀ inviteId version, drafts inviteId = some version → ∃ row, version = some row ∧
    row.redeemedAt = none ∧ rows .invites inviteId = none ∧
    ∀ other (old : InviteRow), rows .invites other = some old → old.codeHash ≠ row.codeHash
  distinct : ∀ first second row other, drafts first = some (some row) →
    drafts second = some (some other) → row.codeHash = other.codeHash → first = second

/-- The index entries of the inserted codes are locked. -/
def CodesLocked (drafts : String → Option (Option InviteRow)) (locks : List LockKey) : Prop :=
  ∀ inviteId row, drafts inviteId = some (some row) → .codeHash row.codeHash ∈ locks

section

variable {secrets : Secrets} {tx : Nat} {writes : WriteSet accounts} {locks : List LockKey}

theorem steady_drafted (locked : CodesLocked (writes .invites) locks) :
    Steady (inviteDiscipline secrets) writes locks fun rows _ =>
      Drafted (writes .invites) rows := by
  intro held rows log later laterLog holds kept _ _ allowed drafted
  refine ⟨?_, drafted.distinct⟩
  intro inviteId version written
  obtain ⟨row, rfl, unredeemed, absent, unused⟩ := drafted.fresh inviteId version written
  refine ⟨row, rfl, unredeemed, ?_, ?_⟩
  · rw [kept .invites inviteId _ written]
    exact absent
  · intro other old found same
    obtain ⟨before, present, hash⟩ :=
      allowed.1.codes row.codeHash (holds _ (locked inviteId row written)) other old found same
    exact unused other before present hash

/-- No code that the transaction reads has the hash. -/
theorem steady_unused {hash : String} (locked : LockKey.codeHash hash ∈ locks) :
    Steady (inviteDiscipline secrets) writes locks fun rows _ =>
      ∀ inviteId (row : InviteRow), writes.apply rows .invites inviteId = some row →
        row.codeHash ≠ hash := by
  intro held rows log later laterLog holds kept _ _ allowed unused inviteId row seen same
  cases written : writes .invites inviteId with
  | none =>
      rw [WriteSet.apply_of_none written] at seen
      obtain ⟨old, present, hash⟩ := allowed.1.codes hash (holds _ locked) inviteId row seen same
      refine unused inviteId old ?_ hash
      rw [WriteSet.apply_of_none written]
      exact present
  | some version =>
      refine unused inviteId row ?_ same
      simpa [WriteSet.apply, written] using seen

theorem Drafted.put {rows : Rows accounts} {inviteId : String} {row : InviteRow}
    (drafted : Drafted (writes .invites) rows) (unredeemed : row.redeemedAt = none)
    (absent : writes.apply rows .invites inviteId = none)
    (unused : ∀ other (old : InviteRow), writes.apply rows .invites other = some old →
      old.codeHash ≠ row.codeHash) :
    Drafted (writes.put .invites inviteId row .invites) rows := by
  have undrafted : writes .invites inviteId = none := by
    cases written : writes .invites inviteId with
    | none => rfl
    | some version =>
        obtain ⟨draft, rfl, _⟩ := drafted.fresh inviteId version written
        simp [WriteSet.apply, written] at absent
  rw [WriteSet.apply_of_none undrafted] at absent
  -- A draft with the same hash would be read by the query.
  have apart : ∀ other draft, writes .invites other = some (some draft) →
      draft.codeHash ≠ row.codeHash := by
    intro other draft written
    exact unused other draft (by simp [WriteSet.apply, written])
  constructor
  · intro other version written
    by_cases mine : other = inviteId
    · subst other
      rw [WriteSet.put_self] at written
      cases written
      refine ⟨row, rfl, unredeemed, absent, ?_⟩
      intro other old found
      cases written : writes .invites other with
      | none =>
          apply unused other old
          rw [WriteSet.apply_of_none written]
          exact found
      | some version =>
          obtain ⟨_, _, _, missing, _⟩ := drafted.fresh other version written
          rw [missing] at found
          cases found
    · rw [WriteSet.put_of_key_ne mine] at written
      exact drafted.fresh other version written
  · intro first second left right written written' same
    by_cases firstMine : first = inviteId
    · subst first
      rw [WriteSet.put_self] at written
      cases written
      by_cases secondMine : second = inviteId
      · exact secondMine.symm
      · rw [WriteSet.put_of_key_ne secondMine] at written'
        exact absurd same.symm (apart second right written')
    · rw [WriteSet.put_of_key_ne firstMine] at written
      by_cases secondMine : second = inviteId
      · subst second
        rw [WriteSet.put_self] at written'
        cases written'
        exact absurd same (apart first left written)
      · rw [WriteSet.put_of_key_ne secondMine] at written'
        exact drafted.distinct first second left right written written' same

theorem CodesLocked.put {inviteId : String} {row : InviteRow}
    (locked : CodesLocked (writes .invites) locks) :
    CodesLocked (writes.put .invites inviteId row .invites) (.codeHash row.codeHash :: locks) := by
  intro other draft written
  by_cases mine : other = inviteId
  · subst other
    rw [WriteSet.put_self] at written
    cases written
    exact List.mem_cons_self
  · rw [WriteSet.put_of_key_ne mine] at written
    exact List.mem_cons_of_mem _ (locked other draft written)

theorem insertInvite_runs {inviteId : String} {row : InviteRow} {rest : AccountScript Unit}
    (unredeemed : row.redeemedAt = none) (locked : CodesLocked (writes .invites) locks)
    (continues : (inviteDiscipline secrets).Runs tx
      (Holding tx (writes.put .invites inviteId row) (.codeHash row.codeHash :: locks)
        fun rows _ => Drafted (writes.put .invites inviteId row .invites) rows) rest) :
    (inviteDiscipline secrets).Runs tx
      (Holding tx writes locks fun rows _ => Drafted (writes .invites) rows)
      (insertInvite tx inviteId row rest) := by
  have stillLocked : CodesLocked (writes .invites) (.codeHash row.codeHash :: locks) :=
    fun other draft written => List.mem_cons_of_mem _ (locked other draft written)
  refine runs_lock (steady_drafted locked) ?_
  refine runs_select (fun taken rows _ => Drafted (writes .invites) rows ∧
    (taken = false → ∀ other (old : InviteRow), writes.apply rows .invites other = some old →
      old.codeHash ≠ row.codeHash)) (steady_drafted stillLocked) ?_ fun taken => ?_
  · intro server _ holding
    refine ⟨holding.fact, fun untaken other old seen same => ?_⟩
    rw [← holding.writes] at seen
    have listed := mem_rows_view seen
    simp only [hashTaken, List.any_eq_false, decide_eq_true_eq] at untaken
    exact untaken _ listed same
  · unfold ServerScript.require
    cases taken with
    | true =>
        exact runs_weaken (fun _ _ _ fact => fact.1)
          (runs_rollback (steady_drafted stillLocked).stable)
    | false =>
        refine runs_weaken (fun rows _ _ fact => ⟨fact.1, fact.2 rfl⟩) (runs_insert _
          ((steady_drafted stillLocked).and (steady_unused List.mem_cons_self)) ?_ continues)
        intro rows log _ fact absent
        exact fact.1.put unredeemed absent fact.2

/-- Drafts laid over the codes. -/
theorem Drafted.later {rows : Rows accounts} (drafted : Drafted (writes .invites) rows)
    (unique : UniqueCodes rows) :
    UniqueCodes (writes.apply rows) ∧
      (∀ inviteId (row : InviteRow), rows .invites inviteId = some row →
        writes.apply rows .invites inviteId = some row) ∧
      ∀ inviteId (new : InviteRow), rows .invites inviteId = none →
        writes.apply rows .invites inviteId = some new → new.redeemedAt = none := by
  have cases : ∀ inviteId (row : InviteRow), writes.apply rows .invites inviteId = some row →
      (writes .invites inviteId = some (some row) ∧ row.redeemedAt = none ∧
        ∀ other (old : InviteRow), rows .invites other = some old →
          old.codeHash ≠ row.codeHash) ∨ rows .invites inviteId = some row := by
    intro inviteId row seen
    cases written : writes .invites inviteId with
    | none =>
        rw [WriteSet.apply_of_none written] at seen
        exact Or.inr seen
    | some version =>
        obtain ⟨draft, rfl, unredeemed, _, unused⟩ := drafted.fresh inviteId version written
        have same : draft = row := by simpa [WriteSet.apply, written] using seen
        subst same
        exact Or.inl ⟨rfl, unredeemed, unused⟩
  refine ⟨?_, ?_, ?_⟩
  · intro first second row other found present same
    rcases cases first row found with ⟨draft, _, unused⟩ | old
    · rcases cases second other present with ⟨draft', _, _⟩ | old'
      · exact drafted.distinct first second row other draft draft' same
      · exact absurd same.symm (unused second other old')
    · rcases cases second other present with ⟨_, _, unused⟩ | old'
      · exact absurd same (unused first row old)
      · exact unique first second row other old old' same
  · intro inviteId row found
    cases written : writes .invites inviteId with
    | none =>
        rw [WriteSet.apply_of_none written]
        exact found
    | some version =>
        obtain ⟨_, _, _, absent, _⟩ := drafted.fresh inviteId version written
        rw [absent] at found
        cases found
  · intro inviteId new absent seen
    rcases cases inviteId new seen with ⟨_, unredeemed, _⟩ | old
    · exact unredeemed
    · rw [absent] at old
      cases old

/-- Drafts of locked index entries disturb nobody. -/
theorem Drafted.shields {rows : Rows accounts} {held : LockKey → Prop}
    (drafted : Drafted (writes .invites) rows) (locked : CodesLocked (writes .invites) locks)
    (unheld : ∀ key ∈ locks, ¬held key)
    (attempts : ∀ attemptId, writes .attempts attemptId = none) :
    Shields secrets held rows (writes.apply rows) := by
  constructor
  · intro email _ attemptId row found _
    rw [WriteSet.apply_of_none (attempts attemptId)] at found
    exact found
  · intro hash holding inviteId row seen same
    cases written : writes .invites inviteId with
    | none =>
        rw [WriteSet.apply_of_none written] at seen
        exact ⟨row, seen, same⟩
    | some version =>
        obtain ⟨draft, rfl, _⟩ := drafted.fresh inviteId version written
        have equal : draft = row := by simpa [WriteSet.apply, written] using seen
        subst equal
        subst same
        exact absurd holding (unheld _ (locked inviteId draft written))

theorem Drafted.evolves {rows : Rows accounts} (drafted : Drafted (writes .invites) rows)
    (unique : UniqueCodes rows) (attempts : ∀ attemptId, writes .attempts attemptId = none)
    (claims : ∀ email version, writes .coffeeClaims email = some version →
      rows .coffeeClaims email = none) :
    Evolves rows (writes.apply rows) := by
  obtain ⟨_, kept, added⟩ := drafted.later unique
  refine ⟨fun inviteId row found => ⟨row, kept inviteId row found, Persists.refl row, rfl⟩, added,
    ?_, ?_⟩
  · intro email claim found
    cases written : writes .coffeeClaims email with
    | none =>
        rw [WriteSet.apply_of_none written]
        exact found
    | some version =>
        rw [claims email version written] at found
        cases found
  · intro attemptId row found
    rw [WriteSet.apply_of_none (attempts attemptId)]
    exact found

theorem Drafted.invariant {rows : Rows accounts} {log : List Event}
    (drafted : Drafted (writes .invites) rows)
    (invariant : InviteInvariant secrets rows log)
    (attempts : ∀ attemptId, writes .attempts attemptId = none)
    (claims : ∀ email version, writes .coffeeClaims email = some version →
      rows .coffeeClaims email = none) :
    InviteInvariant secrets (writes.apply rows) log :=
  invariant.evolve (drafted.evolves invariant.unique attempts claims)
    (drafted.later invariant.unique).1
    (invariant.limited.of_eq fun attemptId => WriteSet.apply_of_none (attempts attemptId))

theorem commit_drafts_runs (locked : CodesLocked (writes .invites) locks)
    (attempts : ∀ attemptId, writes .attempts attemptId = none)
    (claims : ∀ email, writes .coffeeClaims email = none) :
    (inviteDiscipline secrets).Runs tx
      (Holding tx writes locks fun rows _ => Drafted (writes .invites) rows)
      (ServerScript.commit tx [] : AccountScript Unit) := by
  have unclaimed : ∀ (rows : Rows accounts) email version,
      writes .coffeeClaims email = some version → rows .coffeeClaims email = none := by
    intro rows email version written
    rw [claims email] at written
    cases written
  refine runs_commit (steady_drafted locked) ?_ ?_
  · intro rows log invariant drafted
    exact drafted.invariant invariant attempts (unclaimed rows)
  · intro rows log invariant drafted held unheld
    exact ⟨drafted.shields locked unheld attempts,
      (drafted.evolves invariant.unique attempts (unclaimed rows)).step
        fun _ _ _ _ => ne_cons_self_of_length⟩

theorem createInvites_runs (expiresAt : Int) (note : Option String) (now : Int) (count : Nat) :
    ∀ (writes : WriteSet accounts) (locks : List LockKey), CodesLocked (writes .invites) locks →
      (∀ attemptId, writes .attempts attemptId = none) →
      (∀ email, writes .coffeeClaims email = none) →
      (inviteDiscipline secrets).Runs tx
        (Holding tx writes locks fun rows _ => Drafted (writes .invites) rows)
        (createInvites secrets tx expiresAt note now count) := by
  induction count with
  | zero =>
      intro writes locks locked attempts claims
      exact commit_drafts_runs locked attempts claims
  | succ count ih =>
      intro writes locks locked attempts claims
      refine runs_await (steady_drafted locked).stable fun code => ?_
      refine runs_await (steady_drafted locked).stable fun inviteId => ?_
      refine runs_await (steady_drafted locked).stable fun nonce => ?_
      apply insertInvite_runs rfl locked
      apply ih _ _ locked.put
      · intro attemptId
        rw [WriteSet.put_of_table_ne (by simp)]
        exact attempts attemptId
      · intro email
        rw [WriteSet.put_of_table_ne (by simp)]
        exact claims email

theorem drafted_of_none {drafts : String → Option (Option InviteRow)}
    (none : ∀ inviteId, drafts inviteId = none) (rows : Rows accounts) : Drafted drafts rows := by
  constructor
  · intro inviteId version written
    rw [none] at written
    cases written
  · intro first second row other written
    rw [none] at written
    cases written

theorem codesLocked_of_none {drafts : String → Option (Option InviteRow)}
    (none : ∀ inviteId, drafts inviteId = none) : CodesLocked drafts locks := by
  intro inviteId row written
  rw [none] at written
  cases written

/-! ## Codes for a coffee -/

/-- What the library promises of its cipher. -/
structure Secrets.Lawful (secrets : Secrets) : Prop where
  roundTrip : ∀ nonce text, secrets.decrypt (secrets.encrypt nonce text) = some text
  nonempty : ∀ nonce text, secrets.encrypt nonce text ≠ ""

theorem decryptInviteCode_newInvite (lawful : secrets.Lawful) (choice : InviteChoice)
    (nonce : String) (expiresAt : Int) (note : Option String) (now : Int) :
    decryptInviteCode secrets
      (newInvite secrets choice.code nonce expiresAt note now).encryptedCode =
      some choice.code := by
  simp [newInvite, decryptInviteCode, normalizeInviteCode_code, Option.filter, lawful.nonempty,
    lawful.roundTrip]

theorem steady_claimed {email code : String} :
    Steady (inviteDiscipline secrets) writes locks fun rows _ =>
      Claimed secrets rows email code :=
  fun _ _ _ _ _ _ _ _ _ allowed claimed => allowed.2.claimed claimed

/-- The commit of a first claim. -/
theorem commit_claim_runs {email code : String} {claim : CoffeeClaimRow} {invite : InviteRow}
    (locked : CodesLocked (writes .invites) locks)
    (attempts : ∀ attemptId, writes .attempts attemptId = none)
    (claimed : writes .coffeeClaims email = some (some claim))
    (others : ∀ other, other ≠ email → writes .coffeeClaims other = none)
    (issued : writes .invites claim.inviteId = some (some invite))
    (decrypted : decryptInviteCode secrets invite.encryptedCode = some code) :
    (inviteDiscipline secrets).Runs tx
      (Holding tx writes locks fun rows _ =>
        Drafted (writes .invites) rows ∧ rows .coffeeClaims email = none)
      (ServerScript.commit tx [.coffee email code] : AccountScript Unit) := by
  have unclaimed : ∀ rows : Rows accounts, rows .coffeeClaims email = none →
      ∀ other version, writes .coffeeClaims other = some version →
      rows .coffeeClaims other = none := by
    intro rows absent other version written
    by_cases mine : other = email
    · rw [mine]
      exact absent
    · rw [others other mine] at written
      cases written
  have steady : Steady (inviteDiscipline secrets) writes locks fun rows _ =>
      Drafted (writes .invites) rows ∧ rows .coffeeClaims email = none :=
    (steady_drafted locked).and
      (@steady_row accounts LockKey Event _ writes locks .coffeeClaims email _ claimed (· = none))
  refine runs_commit steady ?_ ?_
  · rintro rows log invariant ⟨drafted, absent⟩
    refine (drafted.invariant invariant attempts (unclaimed rows absent)).cons_coffee ?_
    refine ⟨claim, invite, ?_, ?_, decrypted⟩
    · simp [WriteSet.apply, claimed]
    · simp [WriteSet.apply, issued]
  · rintro rows log invariant ⟨drafted, absent⟩ held unheld
    exact ⟨drafted.shields locked unheld attempts,
      (drafted.evolves invariant.unique attempts (unclaimed rows absent)).step (by simp)⟩

/-- The claim of a code that the transaction has inserted. -/
theorem registerClaim_runs {email code sessionKey : String} {claim : CoffeeClaimRow}
    {invite : InviteRow} {now : Int} (locked : CodesLocked (writes .invites) locks)
    (attempts : ∀ attemptId, writes .attempts attemptId = none)
    (unclaimed : ∀ other, writes .coffeeClaims other = none)
    (issued : writes .invites claim.inviteId = some (some invite))
    (decrypted : decryptInviteCode secrets invite.encryptedCode = some code) :
    (inviteDiscipline secrets).Runs tx
      (Holding tx writes locks fun rows _ => Drafted (writes .invites) rows)
      (do
        ServerScript.insert tx .coffeeClaims email claim
        let _ ← change tx .coffeeSessions sessionKey (consumeSession now)
        ServerScript.commit tx [.coffee email code]) := by
  have drafts : writes.put .coffeeClaims email claim .invites = writes .invites :=
    WriteSet.put_of_table_ne (by simp)
  have claims : ∀ other, other ≠ email →
      writes.put .coffeeClaims email claim .coffeeClaims other = none := by
    intro other different
    rw [WriteSet.put_of_key_ne different]
    exact unclaimed other
  have unattempted : writes.put .coffeeClaims email claim .attempts = writes .attempts :=
    WriteSet.put_of_table_ne (by simp)
  refine runs_insert (fun rows _ => Drafted (writes.put .coffeeClaims email claim .invites) rows ∧
    rows .coffeeClaims email = none) (steady_drafted locked) ?_ ?_
  · intro rows log _ drafted absent
    rw [WriteSet.apply_of_none (unclaimed email)] at absent
    rw [drafts]
    exact ⟨drafted, absent⟩
  have stays : Steady (inviteDiscipline secrets) (writes.put .coffeeClaims email claim) locks
      fun rows _ => Drafted (writes.put .coffeeClaims email claim .invites) rows ∧
        rows .coffeeClaims email = none :=
    (steady_drafted (by rw [drafts]; exact locked)).and
      (@steady_row accounts LockKey Event _ _ locks .coffeeClaims email _
        (WriteSet.put_self _ _ _ _) (· = none))
  refine runs_changeRow (fun _ rows _ =>
    Drafted (writes.put .coffeeClaims email claim .invites) rows ∧
      rows .coffeeClaims email = none) stays (fun _ _ _ _ fact _ => fact) ?_ ?_
  · intro row new becomes
    have session : ∀ table, table ≠ .coffeeSessions →
        (writes.put .coffeeClaims email claim).put .coffeeSessions sessionKey new table =
          writes.put .coffeeClaims email claim table :=
      fun table different => WriteSet.put_of_table_ne different
    rw [← session .invites (by simp)]
    apply commit_claim_runs
    · rw [session .invites (by simp), drafts]
      exact locked
    · rw [session .attempts (by simp), unattempted]
      exact attempts
    · rw [session .coffeeClaims (by simp), WriteSet.put_self]
    · rw [session .coffeeClaims (by simp)]
      exact claims
    · rw [session .invites (by simp), drafts]
      exact issued
    · exact decrypted
  · refine runs_weaken (fun _ _ _ fact => fact.1) ?_
    apply commit_claim_runs
    · rw [drafts]
      exact locked
    · rw [unattempted]
      exact attempts
    · rw [WriteSet.put_self]
    · exact claims
    · rw [drafts]
      exact issued
    · exact decrypted

theorem claimCoffee_runs (lawful : secrets.Lawful) (email sessionKey : String)
    (session : CoffeeSessionRow) (now : Int) :
    (inviteDiscipline secrets).Runs tx
      (Holding tx (WriteSet.empty.put .coffeeSessions sessionKey session)
        [.advisory (secrets.hashtext ("coffee:" ++ email))] fun _ _ => True)
      (claimCoffee secrets tx email sessionKey session now) := by
  refine runs_awaited steady_true.stable fun input code chosen => ?_
  refine runs_await steady_true.stable fun inviteId => ?_
  refine runs_await steady_true.stable fun nonce => ?_
  obtain ⟨choice, rfl⟩ : ∃ choice : InviteChoice, code = choice.code := by
    cases input with
    | choice choice => exact ⟨choice, (Option.some.inj chosen).symm⟩
    | none => cases chosen
    | text value => cases chosen
  have elsewhere : ∀ table, table ≠ .coffeeSessions → ∀ key,
      (WriteSet.empty : WriteSet accounts).put .coffeeSessions sessionKey session table key =
        none := by
    intro table different key
    rw [WriteSet.put_of_table_ne different]
    rfl
  have undrafted := elsewhere .invites (by simp)
  refine runs_weaken (fun rows _ _ _ => drafted_of_none undrafted rows) ?_
  apply insertInvite_runs rfl (codesLocked_of_none undrafted)
  apply registerClaim_runs (CodesLocked.put (codesLocked_of_none undrafted))
  · intro attemptId
    rw [WriteSet.put_of_table_ne (by simp)]
    exact elsewhere .attempts (by simp) attemptId
  · intro other
    rw [WriteSet.put_of_table_ne (by simp)]
    exact elsewhere .coffeeClaims (by simp) other
  · exact WriteSet.put_self _ _ _ _
  · exact decryptInviteCode_newInvite lawful choice nonce _ _ now

/-! ## Requests that leave the codes alone -/

/-- What these requests write. -/
def permitsElsewhere : (table : TableName) → accounts.Key table → Option (accounts.Row table) →
    accounts.Row table → Prop
  | .invites, _, _, _ => False
  | .attempts, _, _, _ => False
  | .coffeeClaims, _, _, _ => False
  | _, _, _, _ => True

theorem permitsElsewhere_identity : PermitsIdentity permitsElsewhere :=
  ⟨fun _ _ _ _ _ => trivial, fun _ _ _ _ _ => trivial⟩

/-- The tables of the codes stay as they are. -/
structure SameCodes (rows later : Rows accounts) : Prop where
  invites : ∀ inviteId, later .invites inviteId = rows .invites inviteId
  attempts : ∀ attemptId, later .attempts attemptId = rows .attempts attemptId
  claims : ∀ email, later .coffeeClaims email = rows .coffeeClaims email

theorem sameCodes_of_permitted {rows : Rows accounts} {writes : WriteSet accounts}
    (permitted : ∀ table key version, writes table key = some version →
      ∃ row, version = some row ∧ permitsElsewhere table key (rows table key) row) :
    SameCodes rows (writes.apply rows) := by
  have unwritten : ∀ table key, (∀ base row, ¬permitsElsewhere table key base row) →
      writes.apply rows table key = rows table key := by
    intro table key forbidden
    cases written : writes table key with
    | none => exact WriteSet.apply_of_none written
    | some version =>
        obtain ⟨row, _, impossible⟩ := permitted table key version written
        exact absurd impossible (forbidden _ row)
  exact ⟨fun inviteId => unwritten .invites inviteId fun _ _ => id,
    fun attemptId => unwritten .attempts attemptId fun _ _ => id,
    fun email => unwritten .coffeeClaims email fun _ _ => id⟩

theorem SameCodes.evolves {rows later : Rows accounts} (same : SameCodes rows later) :
    Evolves rows later where
  kept inviteId row found := ⟨row, (same.invites inviteId).trans found, Persists.refl row, rfl⟩
  added inviteId new missing found := by
    rw [same.invites, missing] at found
    cases found
  claims email claim found := (same.claims email).trans found
  attempts attemptId row found := (same.attempts attemptId).trans found

theorem SameCodes.invariant {rows later : Rows accounts} {log : List Event}
    (same : SameCodes rows later) (invariant : InviteInvariant secrets rows log) :
    InviteInvariant secrets later log := by
  refine invariant.evolve same.evolves (invariant.unique.of_older ?_)
    (invariant.limited.of_eq same.attempts)
  intro inviteId new found
  exact ⟨new, same.invites inviteId ▸ found, rfl⟩

theorem SameCodes.shields {rows later : Rows accounts} {held : LockKey → Prop}
    (same : SameCodes rows later) : Shields secrets held rows later where
  attempts _ _ attemptId _ found _ := same.attempts attemptId ▸ found
  codes _ _ inviteId row found hash := ⟨row, same.invites inviteId ▸ found, hash⟩

/-- An event about verifications. -/
def AboutCodes (event : Event) : Prop :=
  (∃ inviteId email invite now, event = .redeemed inviteId email invite now) ∨
    ∃ email code, event = .coffee email code

theorem InviteInvariant.cons_other {rows : Rows accounts} {log : List Event} {event : Event}
    (other : ¬AboutCodes event) (invariant : InviteInvariant secrets rows log) :
    InviteInvariant secrets rows (event :: log) := by
  refine ⟨invariant.unique, ?_, ?_, ?_, invariant.limited⟩
  · cases event with
    | redeemed inviteId email invite now =>
        exact absurd (Or.inl ⟨inviteId, email, invite, now, rfl⟩) other
    | rejected challengeId => exact invariant.once
    | verified challengeId tokenHash challenge now => exact invariant.once
    | coffee email code => exact invariant.once
  · intro inviteId email invite now member
    rcases List.mem_cons.mp member with same | older
    · exact absurd (Or.inl ⟨inviteId, email, invite, now, same.symm⟩) other
    · exact invariant.settled inviteId email invite now older
  · intro email code member
    rcases List.mem_cons.mp member with same | older
    · exact absurd (Or.inr ⟨email, code, same.symm⟩) other
    · exact invariant.coffee email code older

theorem harmless_elsewhere : Harmless (inviteDiscipline secrets) permitsElsewhere [] where
  kept _ _ _ invariant permitted := (sameCodes_of_permitted permitted).invariant invariant
  allowed _ _ _ _ _ permitted := ⟨(sameCodes_of_permitted permitted).shields,
    (sameCodes_of_permitted permitted).evolves.step fun _ _ _ _ => ne_cons_self_of_length⟩

theorem harmless_other {event : Event} (other : ¬AboutCodes event) :
    Harmless (inviteDiscipline secrets) permitsElsewhere [event] where
  kept _ _ _ invariant permitted :=
    ((sameCodes_of_permitted permitted).invariant invariant).cons_other other
  allowed _ _ _ _ _ permitted := by
    refine ⟨(sameCodes_of_permitted permitted).shields,
      (sameCodes_of_permitted permitted).evolves.step ?_⟩
    intro inviteId email row now same
    cases same
    exact other (Or.inl ⟨inviteId, email, row, now, rfl⟩)

/-- The script writes only what these requests write. -/
abbrev LeavesInvites (secrets : Secrets) (tx : Nat) (script : AccountScript Unit) : Prop :=
  (inviteDiscipline secrets).Runs tx (Tame permitsElsewhere tx) script

theorem LeavesInvites.runs {script : AccountScript Unit}
    (leaves : LeavesInvites secrets tx script) :
    (inviteDiscipline secrets).Runs tx ((inviteDiscipline secrets).protocol.resting tx) script :=
  tame_of_resting leaves

theorem sendVerificationCode_leavesInvites (email ipHash : String) :
    (inviteDiscipline secrets).Runs tx ((inviteDiscipline secrets).protocol.resting tx)
      (sendVerificationCode secrets tx email ipHash) := by
  refine LeavesInvites.runs (tame_observe fun now => tame_await fun challengeId => ?_)
  refine tame_await fun code => tame_await fun mailId => tame_lock (tame_lock ?_)
  refine tame_observe fun emailCount => tame_observe fun ipCount => tame_require ?_
  exact tame_insert (fun _ => trivial) (tame_insert (fun _ => trivial)
    (tame_commit harmless_elsewhere))

theorem verifyEmail_leavesInvites (challengeId code : String) :
    (inviteDiscipline secrets).Runs tx ((inviteDiscipline secrets).protocol.resting tx)
      (verifyEmail secrets tx challengeId code) := by
  unfold verifyEmail
  split
  · exact runs_pure
  refine LeavesInvites.runs (tame_observe fun now =>
    tame_changeRow (fun _ _ _ _ _ => trivial) fun found => ?_)
  split
  · exact tame_rollback
  split
  · exact tame_rollback
  split
  · exact tame_changeRow (fun _ _ _ _ _ => trivial) fun _ =>
      tame_commit (harmless_other (by simp [AboutCodes]))
  · refine tame_await fun token => ?_
    split
    · exact tame_rollback
    · refine tame_changeRow (fun _ _ _ _ _ => trivial) fun _ =>
        tame_insert (fun _ => trivial) (tame_upsert (fun _ _ => trivial) ?_)
      exact tame_insertIfAbsent (fun _ => trivial)
        (tame_commit (harmless_other (by simp [AboutCodes])))

theorem coffeeSession_leavesInvites (token ipHash : String) :
    (inviteDiscipline secrets).Runs tx ((inviteDiscipline secrets).protocol.resting tx)
      (coffeeSession secrets tx token ipHash) := by
  refine identity_runs permitsElsewhere_identity harmless_elsewhere fun email => ?_
  refine LeavesInvites.runs (tame_observe fun now => tame_await fun sessionId => ?_)
  refine tame_await fun claimToken => tame_lock (tame_observe fun recent => tame_require ?_)
  exact tame_insert (fun _ => trivial) (tame_commit harmless_elsewhere)

/-! ## Requests about codes -/

theorem coffeeInvite_runs (lawful : secrets.Lawful) (token sessionId secret : String) :
    (inviteDiscipline secrets).Runs tx ((inviteDiscipline secrets).protocol.resting tx)
      (coffeeInvite secrets tx token sessionId secret) := by
  refine identity_runs permitsElsewhere_identity harmless_elsewhere fun email => ?_
  refine runs_of_resting (runs_utcNow steady_true.stable fun now => runs_lock steady_true ?_)
  refine runs_select (fun known rows _ => ∀ claim invite, known = some (claim, invite) →
    ∀ code, decryptInviteCode secrets invite.encryptedCode = some code →
      Claimed secrets rows email code) steady_true ?_ fun known => ?_
  · intro server _ holding claim invite known code decrypted
    simp only [coffeeClaimOf, Option.bind_eq_some_iff, Option.map_eq_some_iff, Prod.mk.injEq]
      at known
    obtain ⟨found, claimed, stored, present, rfl, rfl⟩ := known
    rw [Server.row_view, holding.writes, WriteSet.apply_empty] at claimed present
    exact ⟨found, stored, claimed, present, decrypted⟩
  split
  · rename_i claim invite
    split
    · refine runs_weaken (fun _ _ _ _ => trivial) (runs_rollback steady_true.stable)
    · rename_i code decrypted
      refine runs_weaken (fun rows _ _ fact =>
        fact claim invite rfl code (Option.filter_eq_some_iff.mp decrypted).1) ?_
      refine runs_commit steady_claimed ?_ ?_
      · intro rows log invariant claimed
        exact invariant.cons_coffee claimed
      · intro rows log invariant claimed held _
        exact ⟨Shields.refl secrets held rows, (Evolves.refl rows).step (by simp)⟩
  · refine runs_weaken (fun _ _ _ _ => trivial) (runs_changeRow (fun _ _ _ => True) steady_true
      (fun _ _ _ _ _ _ => trivial) ?_ ?_)
    · intro session new locked
      split at locked
      · cases locked
        dsimp only
        unfold ServerScript.require
        split
        · exact claimCoffee_runs lawful email _ session now
        · exact runs_rollback steady_true.stable
      · cases locked
    · exact runs_weaken (fun _ _ _ _ => trivial) (runs_rollback steady_true.stable)

theorem adminInvites_runs (token : String) (count expiresInDays : Int) (note : Option String) :
    (inviteDiscipline secrets).Runs tx ((inviteDiscipline secrets).protocol.resting tx)
      (adminInvites secrets tx token count expiresInDays note) := by
  refine requireAdmin_runs permitsElsewhere_identity harmless_elsewhere ?_
  refine runs_of_resting (runs_utcNow steady_true.stable fun now => ?_)
  refine runs_weaken (fun rows _ _ _ => drafted_of_none (fun _ => rfl) rows) ?_
  exact createInvites_runs _ note now _ WriteSet.empty [] (codesLocked_of_none fun _ => rfl)
    (fun _ => rfl) fun _ => rfl

/-- The commit of a change to one code that keeps it unredeemed. -/
theorem commit_change_runs {inviteId : String} {row new : InviteRow}
    (changed : writes .invites inviteId = some (some new))
    (others : ∀ other, other ≠ inviteId → writes .invites other = none)
    (attempts : ∀ attemptId, writes .attempts attemptId = none)
    (claims : ∀ email, writes .coffeeClaims email = none)
    (persists : Persists row new) (redemption : new.redeemedAt = row.redeemedAt) :
    (inviteDiscipline secrets).Runs tx
      (Holding tx writes locks fun rows _ => rows .invites inviteId = some row)
      (ServerScript.commit tx [] : AccountScript Unit) := by
  have becomes : ∀ rows : Rows accounts, writes.apply rows .invites inviteId = some new := by
    intro rows
    simp [WriteSet.apply, changed]
  have older : ∀ rows : Rows accounts, rows .invites inviteId = some row →
      ∀ other (later : InviteRow), writes.apply rows .invites other = some later →
      ∃ old : InviteRow, rows .invites other = some old ∧ old.codeHash = later.codeHash := by
    intro rows found other later present
    by_cases mine : other = inviteId
    · subst other
      rw [becomes] at present
      cases present
      exact ⟨row, found, persists.codeHash.symm⟩
    · rw [WriteSet.apply_of_none (others other mine)] at present
      exact ⟨later, present, rfl⟩
  have evolves : ∀ rows : Rows accounts, rows .invites inviteId = some row →
      Evolves rows (writes.apply rows) := by
    intro rows found
    refine ⟨?_, ?_, ?_, ?_⟩
    · intro other old present
      by_cases mine : other = inviteId
      · subst other
        rw [found] at present
        cases present
        exact ⟨new, becomes rows, persists, redemption⟩
      · rw [WriteSet.apply_of_none (others other mine)]
        exact ⟨old, present, Persists.refl old, rfl⟩
    · intro other later missing present
      obtain ⟨old, present', _⟩ := older rows found other later present
      rw [missing] at present'
      cases present'
    · intro email claim present
      rw [WriteSet.apply_of_none (claims email)]
      exact present
    · intro attemptId attempt present
      rw [WriteSet.apply_of_none (attempts attemptId)]
      exact present
  refine runs_commit (@steady_row accounts LockKey Event _ writes locks .invites inviteId _ changed
    (· = some row)) ?_ ?_
  · intro rows log invariant found
    exact invariant.evolve (evolves rows found) (invariant.unique.of_older (older rows found))
      (invariant.limited.of_eq fun attemptId => WriteSet.apply_of_none (attempts attemptId))
  · intro rows log invariant found held _
    refine ⟨⟨?_, ?_⟩, (evolves rows found).step fun _ _ _ _ => ne_cons_self_of_length⟩
    · intro email _ attemptId attempt present _
      rwa [WriteSet.apply_of_none (attempts attemptId)] at present
    · intro hash _ other later present same
      obtain ⟨old, present', equal⟩ := older rows found other later present
      exact ⟨old, present', equal.trans same⟩

theorem persists_of_unredeemed {row new : InviteRow} (hash : new.codeHash = row.codeHash)
    (text : new.encryptedCode = row.encryptedCode) (unredeemed : row.redeemedAt = none)
    (undeleted : row.deletedAt = none) : Persists row new :=
  ⟨hash, text, fun redeemed => absurd unredeemed redeemed, fun deleted => absurd undeleted deleted⟩

theorem updateInvite_runs (token inviteId : String) (patch : InvitePatch) :
    (inviteDiscipline secrets).Runs tx ((inviteDiscipline secrets).protocol.resting tx)
      (updateInvite secrets tx token inviteId patch) := by
  refine requireAdmin_runs permitsElsewhere_identity harmless_elsewhere ?_
  refine runs_of_resting (runs_utcNow steady_true.stable fun now => ?_)
  refine runs_changeRow (fun row rows _ => rows .invites inviteId = some row) steady_true
    (fun _ _ _ _ _ seen => seen) ?_ ?_
  · intro row new locked
    cases locked
    have steady : Steady (inviteDiscipline secrets) (WriteSet.empty.put .invites inviteId row) []
        fun rows _ => rows .invites inviteId = some row :=
      @steady_row accounts LockKey Event _ _ [] .invites inviteId _ (WriteSet.put_self _ _ _ _)
        (· = some row)
    dsimp only
    unfold ServerScript.require
    split
    · rename_i untouched
      simp only [Bool.and_eq_true, Option.isNone_iff_eq_none] at untouched
      refine runs_change steady (fun _ _ _ _ => WriteSet.apply_put_self _ _ _ _ _) ?_
      refine commit_change_runs (WriteSet.put_self _ _ _ _) ?_ ?_ ?_
        (persists_of_unredeemed rfl rfl untouched.2 untouched.1) rfl
      · intro other different
        rw [WriteSet.put_of_key_ne different, WriteSet.put_of_key_ne different]
        rfl
      · intro attemptId
        simp [WriteSet.put_of_table_ne, WriteSet.empty]
      · intro email
        simp [WriteSet.put_of_table_ne, WriteSet.empty]
    · exact runs_rollback steady.stable
  · exact runs_weaken (fun _ _ _ _ => trivial) (runs_rollback steady_true.stable)

theorem deleteInvite_runs (token inviteId : String) :
    (inviteDiscipline secrets).Runs tx ((inviteDiscipline secrets).protocol.resting tx)
      (deleteInvite secrets tx token inviteId) := by
  refine requireAdmin_runs permitsElsewhere_identity harmless_elsewhere ?_
  refine runs_of_resting (runs_utcNow steady_true.stable fun now => ?_)
  refine runs_changeRow (fun row rows _ => rows .invites inviteId = some row) steady_true
    (fun _ _ _ _ _ seen => seen) ?_ ?_
  · intro row new removed
    unfold removeInvite at removed
    split at removed
    · rename_i untouched
      simp only [Option.isNone_iff_eq_none] at untouched
      cases removed
      refine commit_change_runs (WriteSet.put_self _ _ _ _) ?_ ?_ ?_
        (persists_of_unredeemed rfl rfl untouched.1 untouched.2) rfl
      · intro other different
        rw [WriteSet.put_of_key_ne different]
        rfl
      · intro attemptId
        simp [WriteSet.put_of_table_ne, WriteSet.empty]
      · intro email
        simp [WriteSet.put_of_table_ne, WriteSet.empty]
    · cases removed
  · exact runs_weaken (fun _ _ _ _ => trivial) (runs_rollback steady_true.stable)

/-! ## Redemptions -/

/-- Room for one more attempt of the email at an instant. -/
abbrev AttemptRoom (email : String) (now : Int) (rows : Rows accounts) : Prop :=
  rows.AtMost .attempts 9 fun row : AttemptRow =>
    row.email = email ∧ now - minutes 60 < row.createdAt

theorem steady_attempts {email : String} (locked : attemptLock secrets email ∈ locks)
    (since : Int) (limit : Nat) :
    Steady (inviteDiscipline secrets) writes locks fun rows _ =>
      rows.AtMost .attempts limit fun row : AttemptRow =>
        row.email = email ∧ since < row.createdAt := by
  intro held rows log later laterLog holds _ _ _ allowed quota
  apply quota.of_older
  intro attemptId row found selected
  exact ⟨row, allowed.1.attempts email (holds _ locked) attemptId row found selected.1, selected⟩

theorem atMost_recentAttempts {server : AccountServer} (unwritten : server.writes tx = .empty)
    (email : String) (since : Int) :
    server.base.AtMost .attempts (recentAttempts email since (server.view tx))
      fun row : AttemptRow => row.email = email ∧ since < row.createdAt := by
  have counted := atMost_count server tx .attempts fun row : AttemptRow =>
    decide (row.email = email) && decide (since < row.createdAt)
  rw [unwritten, WriteSet.apply_empty] at counted
  apply counted.of_older
  intro attemptId row found selected
  exact ⟨row, found, by simpa using selected⟩

/-- One attempt under the lock of its email. -/
structure Attempts (writes : WriteSet accounts) (attemptId : String) (row : AttemptRow) :
    Prop where
  attempt : writes .attempts attemptId = some (some row)
  others : ∀ other, other ≠ attemptId → writes .attempts other = none
  claims : ∀ email, writes .coffeeClaims email = none

theorem Attempts.apply {attemptId : String} {row : AttemptRow}
    (attempts : Attempts writes attemptId row) (rows : Rows accounts) :
    writes.apply rows .attempts attemptId = some row := by
  simp [WriteSet.apply, attempts.attempt]

theorem Attempts.kept {attemptId : String} {row : AttemptRow}
    (attempts : Attempts writes attemptId row) {rows : Rows accounts}
    (absent : rows .attempts attemptId = none) :
    (∀ other (old : AttemptRow), rows .attempts other = some old →
      writes.apply rows .attempts other = some old) ∧
    ∀ email (claim : CoffeeClaimRow), rows .coffeeClaims email = some claim →
      writes.apply rows .coffeeClaims email = some claim := by
  constructor
  · intro other old found
    have different : other ≠ attemptId := by
      rintro rfl
      rw [absent] at found
      cases found
    rw [WriteSet.apply_of_none (attempts.others other different)]
    exact found
  · intro email claim found
    rw [WriteSet.apply_of_none (attempts.claims email)]
    exact found

theorem Attempts.limited {attemptId : String} {row : AttemptRow}
    (attempts : Attempts writes attemptId row) {rows : Rows accounts}
    (limited : AttemptsLimited rows) (room : AttemptRoom row.email row.createdAt rows) :
    AttemptsLimited (writes.apply rows) :=
  limited.add (attempts.apply rows)
    (fun other different => WriteSet.apply_of_none (attempts.others other different)) room

theorem Attempts.shields {attemptId : String} {row : AttemptRow}
    (attempts : Attempts writes attemptId row) {rows : Rows accounts} {held : LockKey → Prop}
    (unheld : ¬held (attemptLock secrets row.email))
    (codes : ∀ inviteId (new : InviteRow), writes.apply rows .invites inviteId = some new →
      ∃ old : InviteRow, rows .invites inviteId = some old ∧ old.codeHash = new.codeHash) :
    Shields secrets held rows (writes.apply rows) := by
  constructor
  · intro email locked other found present same
    by_cases mine : other = attemptId
    · subst other
      rw [attempts.apply rows] at present
      cases present
      subst same
      exact absurd locked unheld
    · rwa [WriteSet.apply_of_none (attempts.others other mine)] at present
  · intro hash _ inviteId new present same
    obtain ⟨old, found, equal⟩ := codes inviteId new present
    exact ⟨old, found, equal.trans same⟩

theorem Attempts.put {attemptId : String} {row : AttemptRow}
    (attempts : Attempts writes attemptId row) (table : TableName) (key : accounts.Key table)
    (value : accounts.Row table) (different : .attempts ≠ table) (apart : .coffeeClaims ≠ table) :
    Attempts (writes.put table key value) attemptId row := by
  refine ⟨?_, fun other distinct => ?_, fun address => ?_⟩
  · rw [WriteSet.put_of_table_ne different]
    exact attempts.attempt
  · rw [WriteSet.put_of_table_ne different]
    exact attempts.others other distinct
  · rw [WriteSet.put_of_table_ne apart]
    exact attempts.claims address

theorem steady_attempt {email attemptId : String} {now : Int} {row : AttemptRow}
    (locked : attemptLock secrets email ∈ locks) (attempts : Attempts writes attemptId row) :
    Steady (inviteDiscipline secrets) writes locks fun rows _ =>
      AttemptRoom email now rows ∧ rows .attempts attemptId = none :=
  (steady_attempts locked _ _).and
    (@steady_row accounts LockKey Event _ writes locks .attempts attemptId _ attempts.attempt
      (· = none))

/-- The commit of a failed attempt. -/
theorem commit_failure_runs {attemptId email ipHash : String} {success : Bool} {now : Int}
    (locked : attemptLock secrets email ∈ locks)
    (attempts : Attempts writes attemptId ⟨email, ipHash, success, now⟩)
    (unwritten : ∀ inviteId, writes .invites inviteId = none) :
    (inviteDiscipline secrets).Runs tx
      (Holding tx writes locks fun rows _ =>
        AttemptRoom email now rows ∧ rows .attempts attemptId = none)
      (ServerScript.commit tx [] : AccountScript Unit) := by
  have codes : ∀ (rows : Rows accounts) inviteId,
      writes.apply rows .invites inviteId = rows .invites inviteId :=
    fun rows inviteId => WriteSet.apply_of_none (unwritten inviteId)
  have older : ∀ (rows : Rows accounts) inviteId (new : InviteRow),
      writes.apply rows .invites inviteId = some new →
      ∃ old : InviteRow, rows .invites inviteId = some old ∧ old.codeHash = new.codeHash :=
    fun rows inviteId new present => ⟨new, codes rows inviteId ▸ present, rfl⟩
  have evolves : ∀ rows : Rows accounts, rows .attempts attemptId = none →
      Evolves rows (writes.apply rows) := by
    intro rows absent
    obtain ⟨kept, claims⟩ := attempts.kept absent
    refine ⟨?_, ?_, claims, kept⟩
    · intro inviteId old found
      exact ⟨old, (codes rows inviteId).trans found, Persists.refl old, rfl⟩
    · intro inviteId new missing found
      rw [codes, missing] at found
      cases found
  refine runs_commit (steady_attempt locked attempts) ?_ ?_
  · rintro rows log invariant ⟨room, absent⟩
    exact invariant.evolve (evolves rows absent) (invariant.unique.of_older (older rows))
      (attempts.limited invariant.limited room)
  · rintro rows log invariant ⟨room, absent⟩ held unheld
    exact ⟨attempts.shields (unheld _ locked) (older rows),
      (evolves rows absent).step fun _ _ _ _ => ne_cons_self_of_length⟩

/-- What a redemption knows of the codes that it has locked. -/
abbrev Redeemable (entries : List (String × InviteRow)) (hash : String) (now : Int)
    (rows : Rows accounts) : Prop :=
  ∀ inviteId row, (inviteId, row) ∈ entries →
    rows .invites inviteId = some row ∧ redeemable hash now row = true

theorem steady_redeemable {entries : List (String × InviteRow)} {hash : String} {now : Int}
    (held : ∀ inviteId row, (inviteId, row) ∈ entries →
      ∃ version, writes .invites inviteId = some version) :
    Steady (inviteDiscipline secrets) writes locks fun rows _ =>
      Redeemable entries hash now rows := by
  intro _ rows log later laterLog _ kept _ _ _ facts inviteId row member
  obtain ⟨version, written⟩ := held inviteId row member
  rw [kept .invites inviteId version written]
  exact facts inviteId row member

/-- The writes of a redemption.  Other codes that the query locked are written back
unchanged. -/
structure Redeems (writes : WriteSet accounts) (entries : List (String × InviteRow))
    (inviteId : String) (new : InviteRow) : Prop where
  redeemed : writes .invites inviteId = some (some new)
  held : ∀ other row, (other, row) ∈ entries → ∃ version, writes .invites other = some version
  others : ∀ other version, other ≠ inviteId → writes .invites other = some version →
    ∃ row, version = some row ∧ (other, row) ∈ entries

theorem Redeems.apply_of_ne {entries : List (String × InviteRow)} {inviteId hash : String}
    {new : InviteRow} {now : Int} (redeems : Redeems writes entries inviteId new)
    {rows : Rows accounts} (facts : Redeemable entries hash now rows) {other : String}
    (different : other ≠ inviteId) :
    writes.apply rows .invites other = rows .invites other := by
  cases written : writes .invites other with
  | none => exact WriteSet.apply_of_none written
  | some version =>
      obtain ⟨row, rfl, member⟩ := redeems.others other version different written
      rw [(facts other row member).1]
      simp [WriteSet.apply, written]

/-- The commit of a redemption. -/
theorem commit_redemption_runs {attemptId inviteId email ipHash hash : String} {invite : InviteRow}
    {now : Int} {entries : List (String × InviteRow)}
    (locked : attemptLock secrets email ∈ locks)
    (attempts : Attempts writes attemptId ⟨email, ipHash, true, now⟩)
    (member : (inviteId, invite) ∈ entries)
    (redeems : Redeems writes entries inviteId (redeem email now invite)) :
    (inviteDiscipline secrets).Runs tx
      (Holding tx writes locks fun rows _ =>
        (AttemptRoom email now rows ∧ rows .attempts attemptId = none) ∧
          Redeemable entries hash now rows)
      (ServerScript.commit tx [.redeemed inviteId email invite now] : AccountScript Unit) := by
  have becomes : ∀ rows : Rows accounts,
      writes.apply rows .invites inviteId = some (redeem email now invite) := by
    intro rows
    simp [WriteSet.apply, redeems.redeemed]
  have older : ∀ rows : Rows accounts, Redeemable entries hash now rows →
      ∀ other (new : InviteRow), writes.apply rows .invites other = some new →
      ∃ old : InviteRow, rows .invites other = some old ∧ old.codeHash = new.codeHash := by
    intro rows facts other new present
    by_cases mine : other = inviteId
    · subst other
      rw [becomes] at present
      cases present
      exact ⟨invite, (facts inviteId invite member).1, rfl⟩
    · rw [redeems.apply_of_ne facts mine] at present
      exact ⟨new, present, rfl⟩
  have step : ∀ (rows : Rows accounts) (log : List Event), rows .attempts attemptId = none →
      Redeemable entries hash now rows → InviteStep rows log (writes.apply rows)
        (.redeemed inviteId email invite now :: log) := by
    intro rows log absent facts
    obtain ⟨kept, claims⟩ := attempts.kept absent
    obtain ⟨found, redeemable⟩ := facts inviteId invite member
    simp only [Accounts.redeemable, Bool.and_eq_true, decide_eq_true_eq,
      Option.isNone_iff_eq_none] at redeemable
    obtain ⟨⟨⟨⟨_, active⟩, unredeemed⟩, undeleted⟩, unexpired⟩ := redeemable
    refine ⟨?_, ?_, ?_, claims, kept⟩
    · intro other row present
      by_cases mine : other = inviteId
      · subst other
        rw [found] at present
        cases present
        exact ⟨_, becomes rows, persists_of_unredeemed rfl rfl unredeemed undeleted⟩
      · rw [redeems.apply_of_ne facts mine]
        exact ⟨row, present, Persists.refl row⟩
    · intro other new present redeemed
      by_cases mine : other = inviteId
      · subst other
        exact Or.inr ⟨email, invite, now, rfl⟩
      · rw [redeems.apply_of_ne facts mine] at present
        exact Or.inl ⟨new, present, redeemed⟩
    · intro other address row instant same
      cases same
      exact ⟨found, active, unredeemed, undeleted, unexpired, becomes rows, attemptId, ipHash,
        absent, attempts.apply rows⟩
  refine runs_commit ((steady_attempt locked attempts).and (steady_redeemable redeems.held)) ?_ ?_
  · rintro rows log invariant ⟨⟨room, absent⟩, facts⟩
    have recorded := (step rows log absent facts).recorded inviteId email invite now rfl
    exact invariant.redeem recorded.1 recorded.2.2.1 (step rows log absent facts)
      (invariant.unique.of_older (older rows facts)) (attempts.limited invariant.limited room)
  · rintro rows log invariant ⟨⟨room, absent⟩, facts⟩ held unheld
    exact ⟨attempts.shields (unheld _ locked) (older rows facts), step rows log absent facts⟩

theorem redeemAttempt_runs (email ipHash hash attemptId : String) (now : Int) :
    (inviteDiscipline secrets).Runs tx
      (Holding tx WriteSet.empty [attemptLock secrets email] fun rows _ =>
        AttemptRoom email now rows)
      (redeemAttempt tx email ipHash hash attemptId now) := by
  have locked : attemptLock secrets email ∈ [attemptLock secrets email] := List.mem_cons_self
  refine runs_selectForUpdate (steady_attempts locked _ _) fun entries writes locks => ?_
  have elsewhere : ∀ table, table ≠ .invites → ∀ key, writes table key = none := by
    intro table different key
    rw [locks.elsewhere table different]
    rfl
  have held : ∀ inviteId version, writes .invites inviteId = some version →
      ∃ row, version = some row ∧ (inviteId, row) ∈ entries := by
    intro inviteId version written
    by_contra missing
    have unlisted : ∀ row, (inviteId, row) ∉ entries := by
      intro row member
      refine missing ⟨row, ?_, member⟩
      rw [locks.locked inviteId row member] at written
      exact (Option.some.inj written).symm
    rw [locks.others inviteId unlisted] at written
    cases written
  have attempted : ∀ row : AttemptRow,
      Attempts (writes.put .attempts attemptId row) attemptId row := by
    intro row
    refine ⟨WriteSet.put_self _ _ _ _, fun other different => ?_, fun address => ?_⟩
    · rw [WriteSet.put_of_key_ne different]
      exact elsewhere .attempts (by simp) other
    · rw [WriteSet.put_of_table_ne (by simp)]
      exact elsewhere .coffeeClaims (by simp) address
  have steady : Steady (inviteDiscipline secrets) writes [attemptLock secrets email]
      fun rows _ => AttemptRoom email now rows ∧ Redeemable entries hash now rows :=
    (steady_attempts locked _ _).and (steady_redeemable fun inviteId row member =>
      ⟨_, locks.locked inviteId row member⟩)
  have insertion : ∀ rows, writes.apply rows .attempts attemptId = none →
      rows .attempts attemptId = none := by
    intro rows absent
    rwa [WriteSet.apply_of_none (elsewhere .attempts (by simp) attemptId)] at absent
  dsimp only
  split
  · rename_i empty
    have noEntries : entries = [] := List.head?_eq_none_iff.mp empty
    refine runs_insert (fun rows _ => AttemptRoom email now rows ∧ rows .attempts attemptId = none)
      steady (fun rows _ _ fact absent => ⟨fact.1, insertion rows absent⟩) ?_
    refine commit_failure_runs locked (attempted _) fun inviteId => ?_
    rw [WriteSet.put_of_table_ne (by simp), locks.others inviteId (by simp [noEntries])]
    rfl
  · rename_i inviteId invite first
    have member : (inviteId, invite) ∈ entries := List.mem_of_mem_head? first
    refine runs_insert (fun rows _ => (AttemptRoom email now rows ∧
      rows .attempts attemptId = none) ∧ Redeemable entries hash now rows)
      steady (fun rows _ _ fact absent => ⟨⟨fact.1, insertion rows absent⟩, fact.2⟩) ?_
    have redeems : Redeems ((writes.put .attempts attemptId ⟨email, ipHash, true, now⟩).put .invites
        inviteId (redeem email now invite)) entries inviteId (redeem email now invite) := by
      have kept : writes.put .attempts attemptId ⟨email, ipHash, true, now⟩ .invites =
          writes .invites := WriteSet.put_of_table_ne (by simp)
      refine ⟨WriteSet.put_self _ _ _ _, fun other row listed => ?_,
        fun other version different => ?_⟩
      · by_cases mine : other = inviteId
        · subst other
          exact ⟨_, WriteSet.put_self _ _ _ _⟩
        · rw [WriteSet.put_of_key_ne mine, kept]
          exact ⟨_, locks.locked other row listed⟩
      · rw [WriteSet.put_of_key_ne different, kept]
        exact held other version
    have seen : ∀ rows : Rows accounts,
        (writes.put .attempts attemptId ⟨email, ipHash, true, now⟩).apply rows .invites inviteId =
          some invite := by
      intro rows
      rw [WriteSet.apply_put_of_table_ne (by simp)]
      simp [WriteSet.apply, locks.locked inviteId invite member]
    refine runs_change ((steady_attempt locked (attempted _)).and
      (steady_redeemable fun other row listed => ?_)) (fun rows _ _ _ => seen rows) ?_
    · rw [WriteSet.put_of_table_ne (by simp)]
      exact ⟨_, locks.locked other row listed⟩
    have attempts := (attempted ⟨email, ipHash, true, now⟩).put .invites inviteId
      (redeem email now invite) (by simp) (by simp)
    refine runs_upsert ((steady_attempt locked attempts).and (steady_redeemable redeems.held))
      fun tier => ?_
    refine commit_redemption_runs locked (attempts.put .tiers email _ (by simp) (by simp))
      member ⟨?_, fun other row listed => ?_, fun other version different => ?_⟩
    · rw [WriteSet.put_of_table_ne (by simp)]
      exact redeems.redeemed
    · rw [WriteSet.put_of_table_ne (by simp)]
      exact redeems.held other row listed
    · rw [WriteSet.put_of_table_ne (by simp)]
      exact redeems.others other version different

theorem redeemPriority_runs (token ipHash code : String) :
    (inviteDiscipline secrets).Runs tx ((inviteDiscipline secrets).protocol.resting tx)
      (redeemPriority secrets tx token ipHash code) := by
  refine identity_runs permitsElsewhere_identity harmless_elsewhere fun email => ?_
  refine runs_utcNow resting_stable fun now => ?_
  split
  · exact runs_pure
  refine runs_of_resting (runs_await steady_true.stable fun attemptId => ?_)
  refine runs_lock steady_true (runs_select (fun attempts rows _ =>
    rows.AtMost .attempts attempts fun row : AttemptRow =>
      row.email = email ∧ now - minutes 60 < row.createdAt) steady_true ?_ fun attempts => ?_)
  · intro server _ holding
    exact atMost_recentAttempts holding.writes email _
  · unfold ServerScript.require
    split
    · rename_i below
      simp only [decide_eq_true_eq] at below
      exact runs_weaken (fun _ _ _ quota => quota.mono (by omega))
        (redeemAttempt_runs email ipHash _ attemptId now)
    · exact runs_rollback (steady_attempts List.mem_cons_self _ _).stable

end

/-! ## Runs -/

/-- Every request keeps to the discipline. -/
theorem accounts_follow_invites {secrets : Secrets} (lawful : secrets.Lawful) :
    (inviteDiscipline secrets).protocol.Follows (accountSystem secrets) System.anyAction := by
  apply follows
  intro tx script operation
  cases operation with
  | sendVerificationCode email ipHash => exact sendVerificationCode_leavesInvites email ipHash
  | verifyEmail challengeId code => exact verifyEmail_leavesInvites challengeId code
  | redeemPriority token ipHash code => exact redeemPriority_runs token ipHash code
  | coffeeSession token ipHash => exact coffeeSession_leavesInvites token ipHash
  | coffeeInvite token sessionId secret => exact coffeeInvite_runs lawful token sessionId secret
  | adminInvites token count expiresInDays note =>
      exact adminInvites_runs token count expiresInDays note
  | updateInvite token inviteId patch => exact updateInvite_runs token inviteId patch
  | deleteInvite token inviteId => exact deleteInvite_runs token inviteId

theorem InviteInvariant.coffeeAgrees {secrets : Secrets} {rows : Rows accounts}
    {log : List Event} (invariant : InviteInvariant secrets rows log) : CoffeeAgrees log := by
  intro email first second firstIn secondIn
  obtain ⟨claim, invite, claimed, found, decrypted⟩ := invariant.coffee email first firstIn
  obtain ⟨claim', invite', claimed', found', decrypted'⟩ := invariant.coffee email second secondIn
  rw [claimed] at claimed'
  cases claimed'
  rw [found] at found'
  cases found'
  exact Option.some.inj (decrypted.symm.trans decrypted')

/-- Along every run no code is redeemed twice, an email always gets the same coffee
code, attempts stay within their limit, and every step keeps redeemed and deleted
codes as they are. -/
theorem invites_linear_of_reachable {secrets : Secrets} (lawful : secrets.Lawful)
    {server : AccountServer} (atRest : AtRest server) (unique : UniqueCodes server.base)
    (limited : AttemptsLimited server.base) (unused : server.log = [])
    {config : Config AccountServer Input Unit Nat}
    (reachable : (accountSystem secrets).Reachable System.anyAction (System.idle server) config) :
    RedeemedOnce config.shared.log ∧ CoffeeAgrees config.shared.log ∧
      AttemptsLimited config.shared.base ∧
      ∀ target, (accountSystem secrets).Step System.anyAction config target →
        InviteStep config.shared.base config.shared.log target.shared.base target.shared.log := by
  have follows := accounts_follow_invites lawful
  have holds : (inviteDiscipline secrets).holds server.base server.log := by
    rw [unused]
    exact InviteInvariant.initial unique limited
  have invariant := holds_of_reachable follows atRest holds reachable
  refine ⟨invariant.once, invariant.coffeeAgrees, invariant.limited, fun target step => ?_⟩
  have allowed : ∀ held rows log later laterLog,
      (inviteDiscipline secrets).allows held rows log later laterLog →
      InviteStep rows log later laterLog := fun _ _ _ _ _ allowed => allowed.2
  exact allows_of_step follows atRest holds reachable allowed step

/-! ### A run -/

/-- The hashes of the texts of one run, with a cipher that only marks its texts. -/
def inviteSecrets : Secrets where
  sha256
    | "token" => "3c469e9d6c5875d37a43f353d4f88e61fcf812c66eee3457465a40b0da4153e0"
    | _ => "dd1b3c312cf7d816130354452e9629ce39355b0c534129dd26a08cd9a4502ede"
  hmac
    | _, "ACE-SUNNY-PANDA-765432" =>
        "63f11588ac064a41f4a8852d9c10d161bdcb6fefac54566e9091c7b3eb85028a"
    | _, _ => "8d4345a91e6e8a993285769adbfdd78a673aedff406c4c41fddaca2fd439b640"
  encrypt _ text := "gAAAAA" ++ text
  decrypt ciphertext := some (String.ofList (ciphertext.toList.drop 6))
  hashtext
    | "coffee:player@example.com" => -1878327833
    | _ => 2096696012
  verificationPepper := "pepper"
  invitePepper := "pepper"

theorem inviteSecrets_lawful : inviteSecrets.Lawful where
  roundTrip _ text := by
    simp [inviteSecrets, String.toList_append]
  nonempty _ text := by
    simp [inviteSecrets]

/-- One verified user, who is an administrator. -/
def verifiedServer : AccountServer where
  clock := 0
  tables
    | .receipts =>
        { keys := ["3c469e9d6c5875d37a43f353d4f88e61fcf812c66eee3457465a40b0da4153e0"]
          cell := fun key =>
            if key = "3c469e9d6c5875d37a43f353d4f88e61fcf812c66eee3457465a40b0da4153e0" then
              Cell.committed ⟨"player@example.com", "pl****@example.com", days 180, 0, 0, none⟩
            else Cell.empty
          complete := by
            intro key missing
            rw [if_neg (by simpa using missing)] }
    | .roles => .singleton ("player@example.com", "admin") none
    | _ => VersionedTable.empty
  locks := []
  log := []

theorem atRest_verifiedServer : AtRest verifiedServer := by
  refine ⟨fun table key => ?_, rfl⟩
  cases table with
  | receipts =>
      simp only [verifiedServer]
      split <;> rfl
  | roles =>
      simp only [verifiedServer, VersionedTable.singleton]
      split <;> rfl
  | _ => rfl

/-- A code of the run. -/
def sampleChoice (suffix : String) (length_suffix : suffix.toList.length = 6)
    (letters : (suffix.toList.all (inviteAlphabet.toList.contains ·)) = true) :
    InviteChoice where
  scene := "SUNNY"
  mascot := "PANDA"
  suffix := suffix.toList
  fromScenes := by decide
  fromMascots := by decide
  length_suffix := length_suffix
  fromAlphabet := by simpa using letters

/-- An administrator makes a code, changes it and deletes it; then it is tried. -/
def deletedCode : List (Move AccountServer Input Unit Nat) :=
  .start 0 (adminInvites inviteSecrets 0 "token" 1 30 none) :: (System.acts 0 .none 8 ++
    .act 0 (.choice (sampleChoice "765432" (by decide) (by decide))) ::
    .act 0 (.text "invite-2") :: .act 0 (.text "nonce-2") :: (System.acts 0 .none 4 ++
  .start 0 (updateInvite inviteSecrets 0 "token" "invite-2" ⟨some true, some "note", some 7⟩) ::
    (System.acts 0 .none 11 ++
  .start 0 (deleteInvite inviteSecrets 0 "token" "invite-2") :: (System.acts 0 .none 10 ++
  .start 1 (redeemPriority inviteSecrets 1 "token" "client" "ACE-SUNNY-PANDA-765432") ::
    (System.acts 1 .none 6 ++ .act 1 (.text "attempt-2") :: System.acts 1 .none 5)))))

/-- A user gets a code for a coffee, redeems it and asks for it again, and tries a deleted
code. -/
def coffeeRun : List (Move AccountServer Input Unit Nat) :=
  .start 0 (coffeeSession inviteSecrets 0 "token" "client") :: (System.acts 0 .none 6 ++
    .act 0 (.text "session-1") :: .act 0 (.text "claim") :: (System.acts 0 .none 4 ++
  .environment (fun server => { server with clock := server.clock + (5000000 : Nat) }) ::
  .start 0 (coffeeInvite inviteSecrets 0 "token" "session-1" "claim") ::
    (System.acts 0 .none 9 ++
    .act 0 (.choice (sampleChoice "234567" (by decide) (by decide))) ::
    .act 0 (.text "invite-1") :: .act 0 (.text "nonce") ::
    (System.acts 0 .none 6 ++
  .start 1 (redeemPriority inviteSecrets 1 "token" "client" "ACE-SUNNY-PANDA-234567") ::
    (System.acts 1 .none 6 ++ .act 1 (.text "attempt-1") :: (System.acts 1 .none 7 ++
  .start 0 (coffeeInvite inviteSecrets 0 "token" "session-1" "claim") ::
    (System.acts 0 .none 9 ++ deletedCode)))))))

theorem legal_deletedCode : ∀ move ∈ deletedCode, (accountSystem inviteSecrets).Legal move := by
  simp only [deletedCode, List.forall_mem_append, List.forall_mem_cons]
  exact ⟨.adminInvites _ _ _ _, System.legal_acts, trivial, trivial, trivial, System.legal_acts,
    .updateInvite _ _ _, System.legal_acts, .deleteInvite _ _, System.legal_acts,
    .redeemPriority _ _ _, System.legal_acts, trivial, System.legal_acts⟩

theorem legal_coffeeRun : ∀ move ∈ coffeeRun, (accountSystem inviteSecrets).Legal move := by
  simp only [coffeeRun, List.forall_mem_append, List.forall_mem_cons]
  exact ⟨.coffeeSession _ _, System.legal_acts, trivial, trivial, System.legal_acts,
    fun server => ⟨5000000, rfl⟩, .coffeeInvite _ _ _, System.legal_acts, trivial, trivial,
    trivial, System.legal_acts, .redeemPriority _ _ _, System.legal_acts, trivial,
    System.legal_acts, .coffeeInvite _ _ _, System.legal_acts, legal_deletedCode⟩

/-- The history of the run, and the code that was changed, deleted and tried. -/
def coffeeRecorded (server : AccountServer) : Bool :=
  (match server.log with
    | [.coffee _ again, .redeemed _ "player@example.com" _ _, .coffee _ code] =>
        again = "ACE-SUNNY-PANDA-234567" && code = again
    | _ => false) &&
  (server.base .invites "invite-2").any (fun row : InviteRow =>
    row.note = some "note" && row.deletedAt.isSome && row.redeemedBy.isNone) &&
  (server.base .attempts "attempt-2").any fun row : AttemptRow => !row.success

theorem coffeeRun_linear : ∃ config,
    (accountSystem inviteSecrets).Reachable System.anyAction (System.idle verifiedServer) config ∧
    coffeeRecorded config.shared = true ∧
    RedeemedOnce config.shared.log ∧ CoffeeAgrees config.shared.log ∧
    AttemptsLimited config.shared.base ∧
    ∀ target, (accountSystem inviteSecrets).Step System.anyAction config target →
      InviteStep config.shared.base config.shared.log target.shared.base target.shared.log := by
  have replayed : (System.replay (accountSystem inviteSecrets) System.anyAction
      (System.idle verifiedServer) coffeeRun).any
        (fun config => coffeeRecorded config.shared) = true := by
    decide +kernel
  obtain ⟨config, reachable, recorded⟩ :=
    System.exists_reachable_of_replay legal_coffeeRun replayed
  have limited : AttemptsLimited verifiedServer.base := by
    have empty : ∀ attemptId, verifiedServer.base .attempts attemptId = none := fun _ => rfl
    constructor
    all_goals
      intro email start keys _ selected
      cases keys with
      | nil => simp
      | cons key keys =>
          obtain ⟨row, impossible, _⟩ := selected key List.mem_cons_self
          rw [empty] at impossible
          cases impossible
  have unique : UniqueCodes verifiedServer.base := by
    intro first second row row' impossible
    cases impossible
  exact ⟨config, reachable, recorded, invites_linear_of_reachable inviteSecrets_lawful
    atRest_verifiedServer unique limited rfl reachable⟩

end TennisAlerts.HostCore.Accounts
