import TennisAlerts.Text.UrlPath

/-!
# The public edge

The `fetch` handler of `edge-entry.ts`.  It answers some paths itself and sends the
others to the host under `DEFAULT_ORIGIN`, whose path is `/zacks-api`.  Bodies are
passed on unread and are not modelled.
-/

namespace TennisAlerts.Edge

open TennisAlerts.Text

/-- `EdgeEnv`, with unset values as empty texts. -/
structure Env where
  airflowPushToken : String
  deploymentCommit : String

/-- Headers with their names in lower case. -/
abbrev Headers := List (String × String)

/-- A public request; the target is what follows the authority in its URL. -/
structure Request where
  method : String
  target : List Char
  headers : Headers

/-- What the URL parser reads behind the authority. -/
def Request.parsed (request : Request) : List Char :=
  withoutTrailing request.target

/-- `new URL(request.url).pathname`. -/
def Request.pathname (request : Request) : List Char :=
  parsePath (request.parsed.takeWhile (!endsPath ·))

/-- A query behind its question mark, as the `search` of a URL has it. -/
def searchOf (query : List Char) : List Char :=
  if query.isEmpty then [] else '?' :: percentEncode encodedInQuery query

/-- `new URL(request.url).search`. -/
def Request.search (request : Request) : List Char :=
  match (cleaned request.parsed).dropWhile (!endsPath ·) with
  | '?' :: rest => searchOf (rest.takeWhile (· != '#'))
  | _ => []

/-! ## Requests to the origin -/

def Headers.delete (headers : Headers) (names : List String) : Headers :=
  headers.filter fun header => !names.contains header.1

def Headers.set (headers : Headers) (name value : String) : Headers :=
  (name, value) :: headers.delete [name]

/-- A request to the host. -/
structure OriginRequest where
  method : String
  path : List Char
  search : List Char
  headers : Headers

/-- The path of `DEFAULT_ORIGIN`. -/
def originPath : List Char :=
  "/zacks-api".toList

/-- `replace(/\/$/, "")`. -/
def withoutFinalSlash (path : List Char) : List Char :=
  if path.getLast? = some '/' then path.dropLast else path

/-- The headers that `originRequest` deletes. -/
def trustHeaders : List String :=
  ["host", "cf-connecting-ip", "cf-ray", "cf-visitor", "x-zacks-edge-token",
    "x-zacks-client-ip", "x-zacks-edge-commit"]

/-- `value || fallback`. -/
def orElse (value fallback : String) : String :=
  if value = "" then fallback else value

def originRequest (request : Request) (env : Env) : OriginRequest where
  method := request.method
  path := parsePath (withoutFinalSlash originPath ++ request.pathname)
  search := searchOf (request.search.drop 1)
  headers :=
    (((request.headers.delete trustHeaders).set "x-zacks-edge-token" env.airflowPushToken).set
      "x-zacks-client-ip"
        (orElse ((request.headers.lookup "cf-connecting-ip").getD "") "unknown")).set
      "x-zacks-edge-commit" (orElse env.deploymentCommit "unknown")

/-! ## The handler -/

/-- What `fetch` does with a request; whether the origin answers is not decided here. -/
inductive Answer
  | health
  | notFound
  | asset
  | unavailable
  | forwarded (request : OriginRequest)

def fetch (request : Request) (env : Env) : Answer :=
  let path := request.pathname
  if ["GET", "HEAD"].contains request.method ∧ path = "/api/edge-healthz".toList then .health
  else if "/api/internal/".toList.isPrefixOf path then .notFound
  else if !"/api/".toList.isPrefixOf path then .asset
  else if env.airflowPushToken = "" then .unavailable
  else .forwarded (originRequest request env)

theorem fetch_eq_forwarded {request : Request} {env : Env} {outgoing : OriginRequest} :
    fetch request env = .forwarded outgoing ↔
      ¬(["GET", "HEAD"].contains request.method ∧
          request.pathname = "/api/edge-healthz".toList) ∧
        ¬"/api/internal/".toList <+: request.pathname ∧
        "/api/".toList <+: request.pathname ∧ env.airflowPushToken ≠ "" ∧
        outgoing = originRequest request env := by
  simp only [fetch, ← List.isPrefixOf_iff_prefix]
  split
  · rename_i health
    exact iff_of_false nofun fun holds => holds.1 health
  · rename_i other
    split
    · rename_i inside
      exact iff_of_false nofun fun holds => holds.2.1 inside
    · rename_i outside
      split
      · rename_i asset
        exact iff_of_false nofun fun holds =>
          absurd asset (by rw [holds.2.2.1]; exact Bool.false_ne_true)
      · rename_i api
        rw [Bool.not_eq_true', Bool.not_eq_false] at api
        split
        · rename_i absent
          exact iff_of_false nofun fun holds => holds.2.2.2.1 absent
        · rename_i present
          rw [Answer.forwarded.injEq, eq_comm]
          exact ⟨fun same => ⟨other, outside, api, present, same⟩, fun holds => holds.2.2.2.2⟩

/-- The origin gets the public path behind its own. -/
theorem originRequest_path (request : Request) (env : Env) :
    (originRequest request env).path = originPath ++ request.pathname := by
  have resolves : Resolved "zacks-api".toList :=
    .of_all (by decide) (by decide) (by decide)
  exact parsePath_append resolves _

end TennisAlerts.Edge
