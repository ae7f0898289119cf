import TennisAlerts.Credentials.Tokens

/-!
# The reader of the credential pool

`validate_szw_authorization` and `validate_szw_authorization_pool` of `szw_watcher.py`, which
run on the stored pool before every rotation.
-/

namespace TennisAlerts.Credentials

open TennisAlerts.Text

/-- The errors of the reader; the last one stands for an exception that nobody catches. -/
inductive ReaderFault
  | unset
  | lineBreak
  | notJwt
  | malformed
  | expired
  | notArray
  | notThree
  | noIdentity
  | sameAccount
  | uncaught
  deriving DecidableEq

/-- The text of a `ValueError` of `validate_szw_authorization_pool`, which puts the name of the
pool in place of the name of a single authorization. -/
def ReaderFault.message : ReaderFault → Option String
  | unset => some "Airflow Variable SZW_API_AUTHORIZATIONS 未配置"
  | lineBreak => some "Airflow Variable SZW_API_AUTHORIZATIONS 格式非法"
  | notJwt => some "Airflow Variable SZW_API_AUTHORIZATIONS 必须是 Wechat JWT"
  | malformed => some "Airflow Variable SZW_API_AUTHORIZATIONS JWT 格式非法"
  | expired => some "Airflow Variable SZW_API_AUTHORIZATIONS 已过期，请更新令牌"
  | notArray => some "Airflow Variable SZW_API_AUTHORIZATIONS 必须是 JSON 数组"
  | notThree => some "Airflow Variable SZW_API_AUTHORIZATIONS 必须配置 3 个账号"
  | noIdentity => some "Airflow Variable SZW_API_AUTHORIZATIONS 缺少账号标识"
  | sameAccount => some "Airflow Variable SZW_API_AUTHORIZATIONS 必须是 3 个不同账号"
  | uncaught => none

def crlandAuthorizationPoolSize : Nat :=
  3

variable {Number Time : Type} (numbers : Numbers Number Time)

/-- `_decode_szw_jwt_segment`. -/
def decodeSzwJwtSegment (segment : CodePoints) : Option (Json Number) :=
  (segmentBytes segment).bind (jsonOfBytes numbers)

/-- The rest behind a word of the class `[A-Za-z0-9_-]+`. -/
def afterWord (text : CodePoints) : Option CodePoints :=
  if text.takeWhile isWordCode = [] then none else some (text.dropWhile isWordCode)

/-- The rest behind a full stop. -/
def afterDot : CodePoints → Option CodePoints
  | 46 :: rest => some rest
  | _ => none

/-- `re.fullmatch` of three words with full stops between them. -/
def isJwt (token : CodePoints) : Bool :=
  (((((afterWord token).bind afterDot).bind afterWord).bind afterDot).bind afterWord) == some []

/-- The expiry of a token, or `none` where the body of the `try` raises. -/
def readExpiry (token : CodePoints) : Option Number :=
  match token.splitOn 46 with
  | [headerSegment, payloadSegment, signatureSegment] => do
      let header ← decodeSzwJwtSegment numbers headerSegment
      let payload ← decodeSzwJwtSegment numbers payloadSegment
      if isDict header = true ∧
          isText (codePoints "HS256") (header.get (codePoints "alg")) = true then
        if isDict payload = true then
          let signature ← segmentBytes signatureSegment
          if signature.length = 32 then
            let expiresAt ← numberOf (payload.get (codePoints "exp"))
            if numbers.isfinite expiresAt = true then some expiresAt else none
          else none
        else none
      else none
  | _ => none

/-- The token of a text without blanks around it. -/
def readToken (authorization : CodePoints) : Except ReaderFault CodePoints :=
  if scheme.isPrefixOf authorization then .ok (authorization.drop scheme.length)
  else if 32 ∉ authorization then .ok authorization
  else .error .notJwt

/-- `validate_szw_authorization`. -/
def validateSzwAuthorization (now : Time) (value : Json Number) :
    Except ReaderFault CodePoints :=
  match value with
  | .str raw =>
      if strip raw = [] then .error .unset
      else if 10 ∈ raw ∨ 13 ∈ raw then .error .lineBreak
      else do
        let token ← readToken (strip raw)
        if isJwt token = true then
          match readExpiry numbers token with
          | none => .error .malformed
          | some expiresAt =>
              if numbers.atMost expiresAt now = true then .error .expired
              else .ok (scheme ++ token)
        else .error .notJwt
  | _ => .error .unset

/-- The loop over the pool of `validate_szw_authorization_pool`. -/
def readAccounts (now : Time) (authorizations accountIdentifiers : List CodePoints) :
    List (Json Number) → Except ReaderFault (List CodePoints)
  | [] => .ok authorizations
  | value :: rest => do
      let authorization ← validateSzwAuthorization numbers now value
      match (authorization.splitOn 46)[1]?.bind (decodeSzwJwtSegment numbers) with
      | none => .error .uncaught
      | some payload =>
          if isDict payload = true then
            let identifiers := identities ["sub", "openid"] payload
            if identifiers = [] then .error .noIdentity
            else if identifiers.any accountIdentifiers.contains = true ∨
                authorization ∈ authorizations then
              .error .sameAccount
            else
              readAccounts now (authorizations ++ [authorization])
                (accountIdentifiers ++ identifiers) rest
          else .error .uncaught

/-- `validate_szw_authorization_pool` of a text. -/
def validateSzwAuthorizationPool (now : Time) (value : CodePoints) :
    Except ReaderFault (List CodePoints) :=
  match Json.loads numbers.toNumerals value with
  | none => .error .notArray
  | some (.list pool) =>
      if pool.length = crlandAuthorizationPoolSize then readAccounts numbers now [] [] pool
      else .error .notThree
  | some _ => .error .notThree

end TennisAlerts.Credentials
