import Mathlib.Logic.Function.Basic
import Mathlib.Data.List.Infix

/-!
# Dashboard snapshots in browser storage

The parts of a dashboard that `api.ts` reads or changes, the snapshots that it keeps
in the storage of the browser, and the failures after which it may show one.  Times
are milliseconds.
-/

namespace TennisAlerts.Web

/-! ## Dashboards -/

structure Venue where
  id : String
  healthy : Bool
  details : String
  deriving DecidableEq

structure DataStatus where
  stale : Bool
  source : String
  reason : Option String
  retryAt : Option Nat
  deriving DecidableEq

/-- A dashboard; `content` stands for the parts that no function below reads. -/
structure Dashboard where
  venues : List Venue
  totalVenues : Nat
  healthyVenues : Nat
  dataStatus : Option DataStatus
  content : String
  deriving DecidableEq

/-- `nextD1QuotaResetIso`: the next midnight. -/
def nextD1QuotaReset (now : Nat) : Nat :=
  (now / 86400000 + 1) * 86400000

/-- `withResolvedDashboardStatus`. -/
def withResolvedDashboardStatus (value : Dashboard) : Dashboard :=
  match value.dataStatus with
  | some _ => value
  | none => { value with dataStatus := some ⟨false, "live", none, none⟩ }

/-- `withBrowserSnapshotStatus`. -/
def withBrowserSnapshotStatus (value : Dashboard) (now : Nat) : Dashboard :=
  { value with
    dataStatus :=
      some ⟨true, "browser-cache", some "data_store_unavailable", some (nextD1QuotaReset now)⟩ }

/-- A snapshot without the venue that was withdrawn. -/
def withoutRetiredVenue (value : Dashboard) : Dashboard :=
  let venues := value.venues.filter fun venue => venue.id != "baoti"
  { value with
    venues := venues
    totalVenues := venues.length
    healthyVenues := (venues.filter (·.healthy)).length }

/-! ## Identities and storage keys -/

/-- A receipt as the server issues it. -/
structure Receipt where
  token : String
  email : String
  maskedEmail : String
  verifiedAt : String
  nonempty : token ≠ ""
  named : token ≠ "anonymous"

/-- `dashboardIdentityKey`. -/
def dashboardIdentityKey (receipt : Option Receipt) : String :=
  match receipt with
  | some receipt => if receipt.token = "" then "anonymous" else receipt.token
  | none => "anonymous"

/-- The token that belongs to an identity key. -/
def tokenOf (identityKey : String) : Option String :=
  if identityKey = "anonymous" then none else some identityKey

theorem tokenOf_dashboardIdentityKey (receipt : Option Receipt) :
    tokenOf (dashboardIdentityKey receipt) = receipt.map (·.token) := by
  cases receipt with
  | none => rfl
  | some receipt =>
      rw [dashboardIdentityKey, if_neg receipt.nonempty, tokenOf, if_neg receipt.named]
      rfl

/-- The UTF-16 code units of a character. -/
def codeUnits (character : Char) : List Nat :=
  let code := character.toNat
  if code < 0x10000 then [code]
  else [0xd800 + (code - 0x10000) / 0x400, 0xdc00 + (code - 0x10000) % 0x400]

/-- The loop of `dashboardSnapshotKey`; `Math.imul` multiplies modulo 2^32. -/
def snapshotHash (identityKey : String) : Nat :=
  (identityKey.toList.flatMap codeUnits).foldl
    (fun hash unit => (Nat.xor hash unit * 16777619) % 4294967296) 2166136261

/-- `dashboardSnapshotKey`. -/
def dashboardSnapshotKey (identityKey : String) : String :=
  let digits := Nat.toDigits 16 (snapshotHash identityKey)
  "zacks-tennis-dashboard-snapshot-v1:" ++
    String.ofList (List.replicate (8 - digits.length) '0' ++ digits)

example : dashboardSnapshotKey "anonymous" =
    "zacks-tennis-dashboard-snapshot-v1:72d9da2e" := by decide

/-! ## Snapshots -/

/-- What the text of a stored item is: no JSON, no JSON object, or an object whose
value may be no dashboard. -/
inductive StoredText
  | malformed
  | other
  | snapshot (version : Nat) (identityKey : String) (storedAt : Nat) (value : Option Dashboard)
  deriving DecidableEq

/-- A stored item, with the number of the request whose response it holds; the number
is not stored. -/
structure Item where
  text : StoredText
  request : Option Nat
  deriving DecidableEq

abbrev Storage := String → Option Item

/-- `DASHBOARD_SNAPSHOT_RETENTION_MS`. -/
def snapshotRetention : Nat :=
  2 * 24 * 60 * 60 * 1000

/-- `saveDashboardSnapshot`; a storage that is disabled or full keeps what it has. -/
def Storage.save (storage : Storage) (writable : Bool) (identityKey : String) (now : Nat)
    (value : Dashboard) (request : Nat) : Storage :=
  if writable then
    Function.update storage (dashboardSnapshotKey identityKey)
      (some ⟨.snapshot 1 identityKey now (some value), some request⟩)
  else storage

/-- `removeDashboardSnapshot`. -/
def Storage.remove (storage : Storage) (identityKey : String) : Storage :=
  Function.update storage (dashboardSnapshotKey identityKey) none

/-- `loadDashboardSnapshot`: the storage afterwards, and the dashboard. -/
def Storage.load (storage : Storage) (readable : Bool) (identityKey : String) (now : Nat) :
    Storage × Option Dashboard :=
  if readable then
    match storage (dashboardSnapshotKey identityKey) with
    | none => (storage, none)
    | some item =>
        match item.text with
        | .malformed => (storage.remove identityKey, none)
        | .other => (storage, none)
        | .snapshot version owner storedAt value =>
            if version ≠ 1 ∨ owner ≠ identityKey ∨ snapshotRetention < now - storedAt then
              (storage.remove identityKey, none)
            else
              match value with
              | none => (storage.remove identityKey, none)
              | some value => (storage, some (withoutRetiredVenue value))
  else (storage, none)

/-! ## Failures -/

/-- `ApiRequestError`, or another error. -/
inductive RequestError
  | api (status : Nat) (message : String)
  | other

/-- `\s`. -/
def jsSpace (character : Char) : Bool :=
  let code := character.toNat
  (9 ≤ code && code ≤ 13) || code = 32 || code = 0xa0 || code = 0x1680 ||
    (0x2000 ≤ code && code ≤ 0x200a) || code = 0x2028 || code = 0x2029 || code = 0x202f ||
    code = 0x205f || code = 0x3000 || code = 0xfeff

/-- `code[:\s]*7500`, with the case ignored. -/
def mentionsCode (text : List Char) : Bool :=
  text.tails.any fun rest =>
    "code".toList.isPrefixOf rest &&
      "7500".toList.isPrefixOf
        ((rest.drop 4).dropWhile fun character => character = ':' || jsSpace character)

/-- The pattern of `dashboardFailureCanUseSnapshot`. -/
def mentionsDataStore (message : String) : Bool :=
  let text := message.toList.map Char.toLower
  mentionsCode text ||
    ["d1", "daily row read limit", "database unavailable", "database is unavailable",
      "database temporarily unavailable", "database is temporarily unavailable"].any fun part =>
      decide (part.toList <:+: text)

/-- `dashboardFailureCanUseSnapshot`. -/
def dashboardFailureCanUseSnapshot (error : RequestError) : Bool :=
  match error with
  | .other => true
  | .api status message =>
      if [401, 403, 404].contains status then false
      else if status = 408 ∨ status = 429 ∨ 500 ≤ status then true
      else status = 400 && mentionsDataStore message

end TennisAlerts.Web
