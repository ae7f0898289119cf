import TennisAlerts.Text.Base64

/-!
# Credentials of the CRLand accounts

What the writer of the credential pool, `scripts/sync_szw_authorization.py`, and its reader,
`szw_watcher.py`, have in common: the functions of Python that both call and the constants.
Floating-point numbers and the time are a parameter.
-/

namespace TennisAlerts.Credentials

open TennisAlerts.Text

/-- The numbers of Python, and the times they are compared with. -/
structure Numbers (Number Time : Type) extends Numerals Number where
  /-- `math.isfinite`, false also where it overflows. -/
  isfinite : Number → Bool
  /-- `number <= now`. -/
  atMost : Number → Time → Bool

/-- `str.isspace` of one character. -/
def isSpace (code : Nat) : Bool :=
  (9 ≤ code && code ≤ 13) || (28 ≤ code && code ≤ 32) || code = 0x85 || code = 0xa0 ||
    code = 0x1680 || (0x2000 ≤ code && code ≤ 0x200a) || code = 0x2028 ||
    code = 0x2029 || code = 0x202f || code = 0x205f || code = 0x3000

/-- `str.strip`. -/
def strip (text : CodePoints) : CodePoints :=
  ((text.dropWhile isSpace).reverse.dropWhile isSpace).reverse

/-- The scheme in front of a token. -/
def scheme : CodePoints :=
  codePoints "Wechat "

/-- `str.removeprefix("Wechat ")`. -/
def removeScheme (text : CodePoints) : CodePoints :=
  if scheme.isPrefixOf text then text.drop scheme.length else text

/-- The class `[A-Za-z0-9_-]`. -/
def isWordCode (code : Nat) : Bool :=
  (65 ≤ code && code ≤ 90) || (97 ≤ code && code ≤ 122) || (48 ≤ code && code ≤ 57) ||
    code == 95 || code == 45

section

variable {Number Time : Type} (numbers : Numbers Number Time)

def isDict : Json Number → Bool
  | .dict _ => true
  | _ => false

/-- The value is this string. -/
def isText (text : CodePoints) : Option (Json Number) → Bool
  | some (.str value) => value == text
  | _ => false

/-- The value is a number; `bool` is none here. -/
def numberOf : Option (Json Number) → Option Number
  | some (.number value) => some value
  | _ => none

/-- `base64.b64decode` of a segment with its padding. -/
def segmentBytes (segment : CodePoints) : Option (List Nat) :=
  b64decode (padded segment)

/-- `json.loads` of bytes in UTF-8. -/
def jsonOfBytes (bytes : List Nat) : Option (Json Number) :=
  (utf8decode bytes).bind (Json.loads numbers.toNumerals)

/-- The account identities of a payload, from the fields in the order they are looked up. -/
def identities (fields : List String) (payload : Json Number) : List CodePoints :=
  fields.filterMap fun field =>
    match payload.get (codePoints field) with
    | some (.str value) => if strip value = [] then none else some (strip value)
    | _ => none

end

end TennisAlerts.Credentials
