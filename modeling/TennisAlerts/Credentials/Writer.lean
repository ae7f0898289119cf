import TennisAlerts.Credentials.Tokens

/-!
# The writer of the credential pool

`validated_authorization` and `validated_pool` of `scripts/sync_szw_authorization.py`, which
run before the pool is sent and once more on the remote side.
-/

namespace TennisAlerts.Credentials

open TennisAlerts.Text

/-- The errors of the writer; the last one stands for an exception that nobody catches. -/
inductive WriterFault
  | missing
  | notJwt
  | malformed
  | expired
  | poolMissing
  | notPool
  | noIdentity
  | sameAccount
  | uncaught
  deriving DecidableEq

/-- The text of an `OpsError`. -/
def WriterFault.message : WriterFault → Option String
  | missing => some "SZW_API_AUTHORIZATION is missing or exceeds the size limit"
  | notJwt => some "SZW_API_AUTHORIZATION must contain a valid Wechat JWT"
  | malformed => some "SZW_API_AUTHORIZATION contains a malformed JWT"
  | expired => some "SZW_API_AUTHORIZATION has expired"
  | poolMissing => some "SZW_API_AUTHORIZATIONS is missing or exceeds the size limit"
  | notPool => some "SZW_API_AUTHORIZATIONS must be a JSON list of three JWTs"
  | noIdentity => some "SZW_API_AUTHORIZATIONS requires an account identity in every JWT"
  | sameAccount => some "SZW_API_AUTHORIZATIONS must contain three distinct accounts"
  | uncaught => none

def accountCount : Nat :=
  3

def maxAuthorizationLength : Nat :=
  8192

def maxPoolLength : Nat :=
  accountCount * (maxAuthorizationLength + 4) + 2

variable {Number Time : Type} (numbers : Numbers Number Time)

/-- The expiry of a token, or `none` where the body of the `try` raises. -/
def writtenExpiry : List CodePoints → Option Number
  | [header, payload, signature] => do
      let header ← segmentBytes header
      let payload ← segmentBytes payload
      let signature ← segmentBytes signature
      let header ← jsonOfBytes numbers header
      let payload ← jsonOfBytes numbers payload
      if isDict header = true ∧ isDict payload = true then
        if isText (codePoints "HS256") (header.get (codePoints "alg")) = true then
          let expiresAt ← numberOf (payload.get (codePoints "exp"))
          if numbers.isfinite expiresAt = true ∧ signature.length = 32 then some expiresAt
          else none
        else none
      else none
  | _ => none

/-- `validated_authorization`. -/
def validatedAuthorization (now : Time) (raw : CodePoints) : Except WriterFault CodePoints :=
  if strip raw = [] ∨ maxAuthorizationLength < raw.length then .error .missing
  else if 10 ∈ raw ∨ 13 ∈ raw then .error .notJwt
  else
    let token := removeScheme (strip raw)
    let parts := token.splitOn 46
    if parts.length ≠ 3 ∨ parts.any (fun part => part.isEmpty || !part.all isWordCode) = true then
      .error .notJwt
    else
      match writtenExpiry numbers parts with
      | none => .error .malformed
      | some expiresAt =>
          if numbers.atMost expiresAt now = true then .error .expired else .ok (scheme ++ token)

/-- The payload of a canonical authorization, read for its account. -/
def writtenPayload (authorization : CodePoints) : Option (Json Number) :=
  (((removeScheme authorization).splitOn 46)[1]?.bind fun segment =>
    urlsafeB64decode (padded segment)).bind (jsonOfBytes numbers)

/-- The loop over the accounts of `validated_pool`. -/
def checkAccounts (accountClaims : List CodePoints) : List CodePoints → Except WriterFault Unit
  | [] => .ok ()
  | authorization :: rest =>
      match writtenPayload numbers authorization with
      | none => .error .uncaught
      | some claims =>
          if isDict claims = true then
            let found := identities ["openid", "sub"] claims
            if found = [] then .error .noIdentity
            else if found.any accountClaims.contains = true then .error .sameAccount
            else checkAccounts (accountClaims ++ found) rest
          else .error .uncaught

/-- The strings of a list that holds nothing else. -/
def allTexts : List (Json Number) → Option (List CodePoints)
  | [] => some []
  | .str text :: items => (allTexts items).map (text :: ·)
  | _ :: _ => none

/-- `validated_pool`. -/
def validatedPool (now : Time) (raw : CodePoints) : Except WriterFault CodePoints :=
  if raw = [] ∨ maxPoolLength < raw.length then .error .poolMissing
  else
    match Json.loads numbers.toNumerals raw with
    | some (.list items) =>
        match allTexts items with
        | some candidates =>
            if candidates.length = accountCount then do
              let canonical ← candidates.mapM (validatedAuthorization numbers now)
              checkAccounts numbers [] canonical
              .ok (Json.dumps canonical)
            else .error .notPool
        | none => .error .notPool
    | _ => .error .notPool

end TennisAlerts.Credentials
