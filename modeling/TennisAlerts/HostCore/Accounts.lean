import TennisAlerts.Database.Discipline
import TennisAlerts.HostCore.Clock
import TennisAlerts.HostCore.InviteCode

/-!
# Requests about accounts

The requests of `api.py` that verify an email address, redeem an invite code and
give one away, and the requests by which an administrator manages the codes.
Hashes and ciphers are those of the Python libraries; they are parameters.
-/

namespace TennisAlerts.HostCore.Accounts

open TennisAlerts.Database TennisAlerts.Concurrent

/-! ## Rows -/

/-- A row of `verification_challenges`. -/
structure ChallengeRow where
  email : String
  codeHash : String
  ipHash : String
  expiresAt : Int
  attempts : Nat
  consumedAt : Option Int
  createdAt : Int
  deriving DecidableEq

/-- A row of `verified_receipts`. -/
structure ReceiptRow where
  email : String
  maskedEmail : String
  expiresAt : Int
  lastUsedAt : Int
  createdAt : Int
  revokedAt : Option Int
  deriving DecidableEq

/-- A row of `user_profiles`. -/
structure ProfileRow where
  maskedEmail : String
  firstVerifiedAt : Int
  lastVerifiedAt : Int
  lastLoginAt : Int
  lastActiveAt : Int
  createdAt : Int
  updatedAt : Int
  deriving DecidableEq

/-- A row of `user_delivery_tiers`. -/
structure TierRow where
  tier : String
  sourceInviteId : Option String
  createdAt : Int
  updatedAt : Int
  revokedAt : Option Int
  deriving DecidableEq

/-- A verification mail in `system_email_outbox`. -/
structure MailRow where
  dedupeKey : String
  email : String
  subject : String
  body : String
  createdAt : Int
  expiresAt : Int
  deriving DecidableEq

/-- A row of `priority_invite_codes`. -/
structure InviteRow where
  codeHash : String
  encryptedCode : Option String
  codeHint : Option String
  expiresAt : Int
  active : Bool
  note : Option String
  createdAt : Int
  updatedAt : Int
  redeemedBy : Option String
  redeemedAt : Option Int
  deletedAt : Option Int
  deriving DecidableEq

/-- A row of `priority_invite_attempts`. -/
structure AttemptRow where
  email : String
  ipHash : String
  success : Bool
  createdAt : Int
  deriving DecidableEq

/-- A row of `coffee_invite_sessions`. -/
structure CoffeeSessionRow where
  email : String
  ipHash : String
  shownAt : Int
  claimableAt : Int
  expiresAt : Int
  consumedAt : Option Int
  createdAt : Int
  deriving DecidableEq

/-- A row of `coffee_invite_claims`. -/
structure CoffeeClaimRow where
  sessionId : String
  inviteId : String
  ipHash : String
  claimedAt : Int
  deriving DecidableEq

inductive TableName
  | challenges
  | receipts
  | profiles
  | tiers
  | roles
  | mails
  | invites
  | attempts
  | coffeeSessions
  | coffeeClaims
  deriving DecidableEq

/-- Profiles, tiers and coffee claims are keyed by the email, roles by the email
and the role, everything else by its identifier. -/
abbrev accounts : Schema where
  Table := TableName
  Key
    | .roles => String × String
    | _ => String
  Row
    | .challenges => ChallengeRow
    | .receipts => ReceiptRow
    | .profiles => ProfileRow
    | .tiers => TierRow
    | .roles => Option Int
    | .mails => MailRow
    | .invites => InviteRow
    | .attempts => AttemptRow
    | .coffeeSessions => CoffeeSessionRow
    | .coffeeClaims => CoffeeClaimRow
  decideTable := inferInstance
  decideKey
    | .challenges | .receipts | .profiles | .tiers | .mails | .invites | .attempts
    | .coffeeSessions | .coffeeClaims => inferInstanceAs (DecidableEq String)
    | .roles => inferInstanceAs (DecidableEq (String × String))

/-- An advisory lock by its number, or an entry of the unique index of the codes. -/
inductive LockKey
  | advisory (number : Int)
  | codeHash (hash : String)
  deriving DecidableEq

/-- What the history of the requests records, at the commit that makes it so. -/
inductive Event
  | rejected (challengeId : String)
  | verified (challengeId tokenHash : String) (challenge : ChallengeRow) (now : Int)
  | redeemed (inviteId email : String) (invite : InviteRow) (now : Int)
  | coffee (email code : String)
  deriving DecidableEq

/-- Identifiers, codes and tokens that a request draws. -/
inductive Input
  | none
  | text (value : String)
  | choice (choice : InviteChoice)

/-- The functions of the Python libraries and the secrets of the settings. -/
structure Secrets where
  sha256 : String → String
  hmac : String → String → String
  encrypt : String → String → String
  decrypt : String → Option String
  hashtext : String → Int
  verificationPepper : String
  invitePepper : String

abbrev AccountServer := Server accounts LockKey Event

abbrev AccountScript := ServerScript accounts LockKey Event Input Unit

open ServerScript

/-- `str(uuid.uuid4())`, a random token or a verification code. -/
def drawText : AccountScript String :=
  await (fun | .text value => some value | _ => none) ""

/-- The random choices of `generate_invite_code`, as the code they make. -/
def drawCode : AccountScript String :=
  await (fun | .choice choice => some choice.code | _ => none) ""

/-- An `UPDATE` of one row by its key. -/
abbrev change (tx : Nat) (table : TableName) (key : accounts.Key table)
    (becomes : accounts.Row table → accounts.Row table) :
    AccountScript (Option (accounts.Row table)) :=
  @changeRow accounts LockKey Event Input Unit _ tx table key fun row => some (becomes row)

/-- A `SELECT .. FOR UPDATE` of one row by its key. -/
abbrev lockRow (tx : Nat) (table : TableName) (key : accounts.Key table)
    (condition : accounts.Row table → Bool) : AccountScript (Option (accounts.Row table)) :=
  @changeRow accounts LockKey Event Input Unit _ tx table key fun row =>
    if condition row then some row else none

/-- `pg_advisory_xact_lock(hashtext(:key))`. -/
def lockText (secrets : Secrets) (tx : Nat) (key : String) : AccountScript Unit :=
  lock tx (.advisory (secrets.hashtext key))

/-! ## Verification -/

def challengeMinutes : Int := 10

def receiptDays : Int := 180

/-- `mask_email`, or `none` where it raises. -/
def maskEmail (email : String) : Option String :=
  let name := email.toList.takeWhile (· ≠ '@')
  match email.toList.dropWhile (· ≠ '@') with
  | [] => none
  | domain =>
      let visible := min 2 name.length
      some (String.ofList (name.take visible ++
        List.replicate (max 3 (name.length - visible)) '*' ++ domain))

/-- `hash_verification_code`. -/
def hashVerificationCode (secrets : Secrets) (challengeId code : String) : String :=
  secrets.sha256 (challengeId ++ ":" ++ code ++ ":" ++ secrets.verificationPepper)

/-- The challenges that satisfy a condition and were created since an instant. -/
def recentChallenges (condition : ChallengeRow → Bool) (since : Int)
    (snapshot : Database.Snapshot accounts) : Nat :=
  (snapshot .challenges).rows.countP fun entry =>
    condition entry.2 && decide (since ≤ entry.2.createdAt)

/-- `send_verification_code` for a normalized email.  The sorted lock keys always
begin with the one of the email. -/
def sendVerificationCode (secrets : Secrets) (tx : Nat) (email ipHash : String) :
    AccountScript Unit := do
  let now ← utcNow
  let since := now - minutes 60
  let challengeId ← drawText
  let code ← drawText
  let mailId ← drawText
  let expiresAt := now + minutes challengeMinutes
  lockText secrets tx ("verification-email:" ++ email)
  lockText secrets tx ("verification-ip:" ++ ipHash)
  let emailCount ← select tx (recentChallenges (fun row => row.email = email) since)
  let ipCount ← select tx (recentChallenges (fun row => row.ipHash = ipHash) since)
  require (decide (emailCount < 3 ∧ ipCount < 20)) tx do
    insert tx .challenges challengeId
      ⟨email, hashVerificationCode secrets challengeId code, ipHash, expiresAt, 0, none, now⟩
    insert tx .mails mailId
      ⟨"verification:" ++ challengeId, email, "Zacks 网球提醒验证码",
        "你的验证码是 " ++ code ++ "，" ++ toString challengeMinutes ++ " 分钟内有效。", now,
        expiresAt⟩
    commit tx []

/-- A challenge that is neither consumed nor expired. -/
def openChallenge (now : Int) (row : ChallengeRow) : Bool :=
  row.consumedAt.isNone && decide (now < row.expiresAt)

/-- `attempts = attempts + 1`. -/
def countAttempt (row : ChallengeRow) : ChallengeRow :=
  { row with attempts := row.attempts + 1 }

/-- `consumed_at = :now`. -/
def consume (now : Int) (row : ChallengeRow) : ChallengeRow :=
  { row with consumedAt := some now }

/-- The profile after a verification. -/
def verifiedProfile (masked : String) (now : Int) : Option ProfileRow → ProfileRow
  | none => ⟨masked, now, now, now, now, now, now⟩
  | some row =>
      { row with
        maskedEmail := masked
        lastVerifiedAt := now
        lastLoginAt := now
        lastActiveAt := now
        updatedAt := now }

/-- The transaction of `verify_email` with the right code. -/
def acceptCode (secrets : Secrets) (tx : Nat) (challengeId : String) (row : ChallengeRow)
    (now : Int) : AccountScript Unit := do
  let token ← drawText
  match maskEmail row.email with
  | none => rollback tx
  | some masked =>
      let _ ← change tx .challenges challengeId (consume now)
      insert tx .receipts (secrets.sha256 token)
        ⟨row.email, masked, now + days receiptDays, now, now, none⟩
      upsert tx .profiles row.email (verifiedProfile masked now)
      insertIfAbsent tx .tiers row.email ⟨"standard", none, now, now, none⟩
      commit tx [.verified challengeId (secrets.sha256 token) row now]

/-- `verify_email` with the stripped fields of its payload. -/
def verifyEmail (secrets : Secrets) (tx : Nat) (challengeId code : String) :
    AccountScript Unit :=
  if challengeId = "" ∨ code = "" then pure ()
  else do
    let now ← utcNow
    match ← lockRow tx .challenges challengeId (openChallenge now) with
    | none => rollback tx
    | some row =>
        if 5 ≤ row.attempts then rollback tx
        else if hashVerificationCode secrets challengeId code ≠ row.codeHash then do
          let _ ← change tx .challenges challengeId countAttempt
          commit tx [.rejected challengeId]
        else acceptCode secrets tx challengeId row now

/-! ## Identities -/

/-- The receipt is used. -/
def useReceipt (now : Int) (row : ReceiptRow) : ReceiptRow :=
  { row with lastUsedAt := now }

/-- The user is active. -/
def touchProfile (now : Int) (row : ProfileRow) : ProfileRow :=
  { row with lastActiveAt := now, updatedAt := now }

/-- `_identity(request, required=True)`: the email of an unexpired receipt. -/
def identity (secrets : Secrets) (tx : Nat) (token : String) (rest : String → AccountScript Unit) :
    AccountScript Unit := do
  let now ← utcNow
  match ← select tx fun snapshot =>
      ((snapshot .receipts).row (secrets.sha256 token)).filter fun row =>
        row.revokedAt.isNone && decide (now < row.expiresAt) with
  | none => rollback tx
  | some row =>
      let _ ← change tx .receipts (secrets.sha256 token) (useReceipt now)
      let _ ← change tx .profiles row.email (touchProfile now)
      commit tx []
      rest row.email

/-- `_require_admin`. -/
def requireAdmin (secrets : Secrets) (tx : Nat) (token : String) (rest : AccountScript Unit) :
    AccountScript Unit :=
  identity secrets tx token fun email => do
    let admin ← select tx fun snapshot =>
      decide ((snapshot .roles).row (email, "admin") = some none)
    require admin tx do
      commit tx []
      rest

/-- Writes on which nothing but the identities depends: those of the receipts and
profiles that are there. -/
structure PermitsIdentity (permits : (table : TableName) → accounts.Key table →
    Option (accounts.Row table) → accounts.Row table → Prop) : Prop where
  receipts : ∀ key base (row : ReceiptRow),
    base = some row ∨ permits .receipts key base row →
    ∀ now, permits .receipts key base (useReceipt now row)
  profiles : ∀ key base (row : ProfileRow),
    base = some row ∨ permits .profiles key base row →
    ∀ now, permits .profiles key base (touchProfile now row)

section

variable {secrets : Secrets} {tx : Nat} {discipline : Discipline accounts LockKey Event}
  {permits : (table : TableName) → accounts.Key table → Option (accounts.Row table) →
    accounts.Row table → Prop}

open Discipline

theorem identity_runs (permitted : PermitsIdentity permits)
    (harmless : Harmless discipline permits []) {token : String}
    {rest : String → AccountScript Unit}
    (continues : ∀ email, discipline.Runs tx (discipline.protocol.resting tx) (rest email)) :
    discipline.Runs tx (discipline.protocol.resting tx) (identity secrets tx token rest) := by
  suffices tame : discipline.Runs tx (Tame permits tx) (identity secrets tx token rest) from
    tame_of_resting tame
  refine tame_observe fun now => tame_observe fun found => ?_
  split
  · exact tame_rollback
  · rename_i row
    refine tame_changeRow ?_ fun _ => tame_changeRow ?_ fun _ =>
      tame_commit_bind harmless (continues row.email)
    · intro base old new known becomes
      cases becomes
      exact permitted.receipts _ base old known now
    · intro base old new known becomes
      cases becomes
      exact permitted.profiles _ base old known now

theorem requireAdmin_runs (permitted : PermitsIdentity permits)
    (harmless : Harmless discipline permits []) {token : String} {rest : AccountScript Unit}
    (continues : discipline.Runs tx (discipline.protocol.resting tx) rest) :
    discipline.Runs tx (discipline.protocol.resting tx) (requireAdmin secrets tx token rest) := by
  refine identity_runs permitted harmless fun email => ?_
  have tame : discipline.Runs tx (Tame permits tx) (do
      let admin ← select tx fun snapshot =>
        decide ((snapshot .roles).row (email, "admin") = some none)
      require admin tx do
        commit tx []
        rest) :=
    tame_observe fun admin => tame_require (tame_commit_bind harmless continues)
  exact tame_of_resting tame

end

/-! ## Invite codes -/

/-- `hash_invite_code` of a normalized code. -/
def hashInviteCode (secrets : Secrets) (normalized : String) : String :=
  secrets.hmac secrets.invitePepper normalized

/-- The first three parts of a code. -/
def codeHint (code : String) : String :=
  String.ofList (List.intercalate ['-'] ((partsFrom [] code.toList).take 3))

/-- A new code that nobody has redeemed. -/
def newInvite (secrets : Secrets) (code nonce : String) (expiresAt : Int) (note : Option String)
    (now : Int) : InviteRow :=
  { codeHash := hashInviteCode secrets ((normalizeInviteCode code).getD "")
    encryptedCode := some (secrets.encrypt nonce ((normalizeInviteCode code).getD ""))
    codeHint := some (codeHint code)
    expiresAt := expiresAt
    active := true
    note := note
    createdAt := now
    updatedAt := now
    redeemedBy := none
    redeemedAt := none
    deletedAt := none }

/-- Some code has this hash. -/
def hashTaken (hash : String) (snapshot : Database.Snapshot accounts) : Bool :=
  (snapshot .invites).rows.any fun entry => entry.2.codeHash = hash

/-- The `INSERT` of a code; the unique index on the hash may reject it. -/
def insertInvite (tx : Nat) (inviteId : String) (row : InviteRow) (rest : AccountScript Unit) :
    AccountScript Unit := do
  lock tx (.codeHash row.codeHash)
  let taken ← select tx (hashTaken row.codeHash)
  require (!taken) tx do
    insert tx .invites inviteId row
    rest

/-- A code that can be redeemed at an instant. -/
def redeemable (codeHash : String) (now : Int) (row : InviteRow) : Bool :=
  row.codeHash = codeHash && row.active && row.redeemedAt.isNone && row.deletedAt.isNone &&
    decide (now < row.expiresAt)

/-- The code is redeemed. -/
def redeem (email : String) (now : Int) (row : InviteRow) : InviteRow :=
  { row with redeemedBy := some email, redeemedAt := some now, updatedAt := now }

/-- The tier after a redemption. -/
def priorityTier (inviteId : String) (now : Int) : Option TierRow → TierRow
  | none => ⟨"priority", some inviteId, now, now, none⟩
  | some row =>
      { row with
        tier := "priority"
        sourceInviteId := some inviteId
        updatedAt := now
        revokedAt := none }

/-- Attempts of the email after an instant. -/
def recentAttempts (email : String) (since : Int) (snapshot : Database.Snapshot accounts) : Nat :=
  (snapshot .attempts).rows.countP fun entry =>
    entry.2.email = email && decide (since < entry.2.createdAt)

/-- The transaction of `redeem_priority` from the count of the attempts on. -/
def redeemAttempt (tx : Nat) (email ipHash codeHash attemptId : String) (now : Int) :
    AccountScript Unit := do
  match (← @selectForUpdate accounts LockKey Event Input Unit _ tx .invites
      (redeemable codeHash now)).head? with
  | none =>
      insert tx .attempts attemptId ⟨email, ipHash, false, now⟩
      commit tx []
  | some (inviteId, invite) =>
      insert tx .attempts attemptId ⟨email, ipHash, true, now⟩
      let _ ← change tx .invites inviteId (redeem email now)
      upsert tx .tiers email (priorityTier inviteId now)
      commit tx [.redeemed inviteId email invite now]

/-- `redeem_priority` with the code in upper case. -/
def redeemPriority (secrets : Secrets) (tx : Nat) (token ipHash code : String) :
    AccountScript Unit :=
  identity secrets tx token fun email => do
    let now ← utcNow
    match normalizeInviteCode code with
    | none => pure ()
    | some normalized =>
        let attemptId ← drawText
        lockText secrets tx ("invite-attempt:" ++ email)
        let attempts ← select tx (recentAttempts email (now - minutes 60))
        require (decide (attempts < 10)) tx
          (redeemAttempt tx email ipHash (hashInviteCode secrets normalized) attemptId now)

/-! ### Codes for a coffee -/

def coffeeClaimDelaySeconds : Int := 5

def coffeeSessionMinutes : Int := 10

/-- Sessions of the email after an instant. -/
def recentSessions (email : String) (since : Int) (snapshot : Database.Snapshot accounts) : Nat :=
  (snapshot .coffeeSessions).rows.countP fun entry =>
    entry.2.email = email && decide (since < entry.2.createdAt)

def coffeeSession (secrets : Secrets) (tx : Nat) (token ipHash : String) : AccountScript Unit :=
  identity secrets tx token fun email => do
    let now ← utcNow
    let sessionId ← drawText
    let claimToken ← drawText
    lockText secrets tx ("coffee:" ++ email)
    let recent ← select tx (recentSessions email (now - minutes 60))
    require (decide (recent < 20)) tx do
      insert tx .coffeeSessions (sessionId ++ ":" ++ secrets.sha256 claimToken)
        ⟨email, ipHash, now, now + seconds coffeeClaimDelaySeconds,
          now + minutes coffeeSessionMinutes, none, now⟩
      commit tx []

/-- The claim of the email and the code it is for. -/
def coffeeClaimOf (email : String) (snapshot : Database.Snapshot accounts) :
    Option (CoffeeClaimRow × InviteRow) :=
  ((snapshot .coffeeClaims).row email).bind fun claim =>
    ((snapshot .invites).row claim.inviteId).map fun invite => (claim, invite)

/-- `decrypt_invite_code`. -/
def decryptInviteCode (secrets : Secrets) (ciphertext : Option String) : Option String :=
  (ciphertext.filter (· ≠ "")).bind secrets.decrypt

/-- The session is used up. -/
def consumeSession (now : Int) (row : CoffeeSessionRow) : CoffeeSessionRow :=
  { row with consumedAt := some now }

/-- The first claim of an email. -/
def claimCoffee (secrets : Secrets) (tx : Nat) (email sessionKey : String)
    (session : CoffeeSessionRow) (now : Int) : AccountScript Unit := do
  let code ← drawCode
  let inviteId ← drawText
  let nonce ← drawText
  insertInvite tx inviteId
      (newInvite secrets code nonce (now + days 30) (some "coffee-support") now) do
    insert tx .coffeeClaims email ⟨sessionKey, inviteId, session.ipHash, now⟩
    let _ ← change tx .coffeeSessions sessionKey (consumeSession now)
    commit tx [.coffee email code]

/-- `coffee_invite` with the two parts of its claim token. -/
def coffeeInvite (secrets : Secrets) (tx : Nat) (token sessionId secret : String) :
    AccountScript Unit :=
  identity secrets tx token fun email => do
    let now ← utcNow
    let sessionKey := sessionId ++ ":" ++ secrets.sha256 secret
    lockText secrets tx ("coffee:" ++ email)
    match ← select tx (coffeeClaimOf email) with
    | some (_, invite) =>
        match (decryptInviteCode secrets invite.encryptedCode).filter (· ≠ "") with
        | none => rollback tx
        | some code => commit tx [.coffee email code]
    | none =>
        match ← lockRow tx .coffeeSessions sessionKey fun row => row.email = email with
        | none => rollback tx
        | some session =>
            require (session.consumedAt.isNone && decide (now < session.expiresAt) &&
              decide (session.claimableAt ≤ now)) tx
              (claimCoffee secrets tx email sessionKey session now)

/-! ### Administration of the codes -/

/-- The loop of `admin_invites`. -/
def createInvites (secrets : Secrets) (tx : Nat) (expiresAt : Int) (note : Option String)
    (now : Int) : Nat → AccountScript Unit
  | 0 => commit tx []
  | count + 1 => do
      let code ← drawCode
      let inviteId ← drawText
      let nonce ← drawText
      insertInvite tx inviteId (newInvite secrets code nonce expiresAt note now)
        (createInvites secrets tx expiresAt note now count)

/-- `min(max(value, 1), limit)`. -/
def clamp (value limit : Int) : Int :=
  min (max value 1) limit

/-- The `POST` of `admin_invites`. -/
def adminInvites (secrets : Secrets) (tx : Nat) (token : String) (count expiresInDays : Int)
    (note : Option String) : AccountScript Unit :=
  requireAdmin secrets tx token do
    let now ← utcNow
    createInvites secrets tx (now + days (clamp expiresInDays 365)) note now
      (clamp count 20).toNat

/-- The fields of an `update_invite` payload that are present. -/
structure InvitePatch where
  active : Option Bool
  note : Option String
  expiresInDays : Option Int

/-- The row after `update_invite`. -/
def patchInvite (patch : InvitePatch) (now : Int) (row : InviteRow) : InviteRow :=
  { row with
    active := patch.active.getD row.active
    note := patch.note.or row.note
    expiresAt := match patch.expiresInDays with
      | some value => now + days (clamp value 365)
      | none => row.expiresAt
    updatedAt := now }

def updateInvite (secrets : Secrets) (tx : Nat) (token inviteId : String) (patch : InvitePatch) :
    AccountScript Unit :=
  requireAdmin secrets tx token do
    let now ← utcNow
    match ← lockRow tx .invites inviteId fun _ => true with
    | none => rollback tx
    | some row =>
        require (row.deletedAt.isNone && row.redeemedAt.isNone) tx do
          let _ ← change tx .invites inviteId (patchInvite patch now)
          commit tx []

/-- The row after `delete_invite`, where its condition holds. -/
def removeInvite (now : Int) (row : InviteRow) : Option InviteRow :=
  if row.redeemedAt.isNone ∧ row.deletedAt.isNone then
    some { row with active := false, deletedAt := some now, updatedAt := now }
  else none

def deleteInvite (secrets : Secrets) (tx : Nat) (token inviteId : String) : AccountScript Unit :=
  requireAdmin secrets tx token do
    let now ← utcNow
    match ← @changeRow accounts LockKey Event Input Unit _ tx .invites inviteId
      (removeInvite now) with
    | none => rollback tx
    | some _ => commit tx []

/-! ## The system -/

/-- The requests about accounts. -/
inductive AccountOperation (secrets : Secrets) (tx : Nat) : AccountScript Unit → Prop
  | sendVerificationCode (email ipHash : String) :
      AccountOperation secrets tx (sendVerificationCode secrets tx email ipHash)
  | verifyEmail (challengeId code : String) :
      AccountOperation secrets tx (verifyEmail secrets tx challengeId code)
  | redeemPriority (token ipHash code : String) :
      AccountOperation secrets tx (redeemPriority secrets tx token ipHash code)
  | coffeeSession (token ipHash : String) :
      AccountOperation secrets tx (coffeeSession secrets tx token ipHash)
  | coffeeInvite (token sessionId secret : String) :
      AccountOperation secrets tx (coffeeInvite secrets tx token sessionId secret)
  | adminInvites (token : String) (count expiresInDays : Int) (note : Option String) :
      AccountOperation secrets tx (adminInvites secrets tx token count expiresInDays note)
  | updateInvite (token inviteId : String) (patch : InvitePatch) :
      AccountOperation secrets tx (updateInvite secrets tx token inviteId patch)
  | deleteInvite (token inviteId : String) :
      AccountOperation secrets tx (deleteInvite secrets tx token inviteId)

/-- Any number of requests over one server. -/
def accountSystem (secrets : Secrets) : System AccountServer Input Unit Nat :=
  Discipline.serverSystem (AccountOperation secrets)

end TennisAlerts.HostCore.Accounts
