import TennisAlerts.HostCore.InviteCode
import TennisAlerts.HostCore.Digest

/-!
# Hashes and ciphertexts of invite codes

`normalize_invite_code` of any text, and the hash and the ciphertext that `domain.py` makes of
a code.  Python's `str.upper` writes every character in upper case on its own, some of them as
several characters; it, the digest and the cipher are functions of the libraries.
-/

namespace TennisAlerts.HostCore

/-- The library functions behind invite codes. -/
structure InviteLibrary where
  /-- `str.upper` of one character. -/
  upper : Char → List Char
  /-- `hmac.new(key, message, hashlib.sha256).hexdigest()`. -/
  hexdigest : ByteArray × ByteArray → String
  /-- `Fernet(key).encrypt` with the key that a text makes and a nonce. -/
  encrypt : String → String → ByteArray → String
  /-- `Fernet(key).decrypt`, or `none` where it raises. -/
  decrypt : String → String → Option ByteArray

namespace InviteLibrary

variable (library : InviteLibrary)

/-- `str.upper`. -/
def upperText (text : String) : String :=
  String.ofList (text.toList.flatMap library.upper)

/-- `normalize_invite_code`. -/
def normalizeInviteCode (value : String) : Option String :=
  HostCore.normalizeInviteCode (strip (library.upperText value))

/-- The key and the message that `hash_invite_code` hashes. -/
def hmacInput (value pepper : String) : Option (ByteArray × ByteArray) :=
  (library.normalizeInviteCode value).map fun normalized => (pepper.toUTF8, normalized.toUTF8)

/-- `hash_invite_code`. -/
def hashInviteCode (value pepper : String) : Option String :=
  (library.hmacInput value pepper).map library.hexdigest

/-- The text of the key in `_fernet`. -/
def fernetKey (pepper : String) : String :=
  "zacks-invite:" ++ pepper

/-- `encrypt_invite_code`. -/
def encryptInviteCode (nonce value pepper : String) : Option String :=
  (library.normalizeInviteCode value).map fun normalized =>
    library.encrypt (fernetKey pepper) nonce normalized.toUTF8

/-- `decrypt_invite_code`. -/
def decryptInviteCode (ciphertext : Option String) (pepper : String) : Option String :=
  (ciphertext.filter (· ≠ "")).bind fun ciphertext =>
    (library.decrypt (fernetKey pepper) ciphertext).bind String.fromUTF8?

/-- What the libraries promise: characters of codes and the hyphen are in upper case, small
letters become capitals, no character vanishes, and the cipher gives back what it was given. -/
structure Lawful : Prop where
  upper_codeChar : ∀ character, isCodeChar character = true → library.upper character = [character]
  upper_hyphen : library.upper '-' = ['-']
  upper_small : ∀ character, 'a' ≤ character → character ≤ 'z' →
    library.upper character = [character.toUpper]
  upper_ne_nil : ∀ character, library.upper character ≠ []
  decrypt_encrypt : ∀ key nonce data,
    library.decrypt key (library.encrypt key nonce data) = some data
  encrypt_ne_empty : ∀ key nonce data, library.encrypt key nonce data ≠ ""

end InviteLibrary

end TennisAlerts.HostCore
