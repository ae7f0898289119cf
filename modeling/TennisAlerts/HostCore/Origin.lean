import TennisAlerts.Text.UrlPath
import TennisAlerts.HostCore.Digest

/-!
# Routes and their protection

The route table of `api.py` and the middleware `protect_origin` in front of it.  The
router matches the path of the scope, which the server has decoded; the middleware
reads `request.url.path`, the path of a URL that Starlette puts together from the
`Host` header, or else the address of the server, and the path of the scope, and that
is split again.
-/

namespace TennisAlerts.HostCore.Origin

open TennisAlerts.Text

def apiPrefix : List Char :=
  "/zacks-api/api".toList

/-! ## Routes -/

/-- A route below `API_PREFIX`; its path may end in a parameter. -/
structure Route where
  endpoint : String
  methods : List String
  path : String
  parameter : Bool
  deriving DecidableEq

/-- The routes of the application in the order of their declaration. -/
def routes : List Route :=
  [⟨"healthz", ["GET"], "/healthz", false⟩,
    ⟨"readyz", ["GET"], "/readyz", false⟩,
    ⟨"bootstrap", ["GET"], "/bootstrap", false⟩,
    ⟨"send_verification_code", ["POST"], "/email/send-code", false⟩,
    ⟨"verify_email", ["POST"], "/email/verify", false⟩,
    ⟨"get_notification_pauses", ["GET"], "/notification-pauses", false⟩,
    ⟨"update_notification_pauses", ["POST"], "/notification-pauses", false⟩,
    ⟨"create_subscription", ["POST"], "/subscriptions", false⟩,
    ⟨"cancel_subscription", ["DELETE"], "/subscriptions/", true⟩,
    ⟨"redeem_priority", ["POST"], "/priority/redeem", false⟩,
    ⟨"coffee_session", ["POST"], "/coffee/session", false⟩,
    ⟨"coffee_invite", ["POST"], "/coffee/invite", false⟩,
    ⟨"community_users", ["GET"], "/community/users", false⟩,
    ⟨"admin_users", ["GET"], "/admin/users", false⟩,
    ⟨"admin_invites", ["GET", "POST"], "/admin/invites", false⟩,
    ⟨"update_invite", ["PATCH"], "/admin/invites/", true⟩,
    ⟨"delete_invite", ["DELETE"], "/admin/invites/", true⟩,
    ⟨"internal_observation", ["POST"], "/internal/observations", false⟩,
    ⟨"internal_wechat_gate", ["GET"], "/internal/wechat-gate/", true⟩,
    ⟨"internal_wechat_enqueue", ["POST"], "/internal/wechat-enqueue", false⟩]

def Route.fullPath (route : Route) : List Char :=
  apiPrefix ++ route.path.toList

/-- The compiled pattern of a route.  A parameter is `[^/]+`, and the `$` at the end
also matches in front of a final line feed. -/
def Route.matches (route : Route) (path : List Char) : Bool :=
  if route.parameter then
    route.fullPath.isPrefixOf path && !(path.drop route.fullPath.length).isEmpty &&
      !(path.drop route.fullPath.length).contains '/'
  else
    path == route.fullPath || path == route.fullPath ++ ['\n']

/-- The route whose handler the router calls. -/
def routed (method : String) (path : List Char) : Option Route :=
  routes.find? fun route => route.matches path && route.methods.contains method

theorem routed_known {method : String} {path : List Char} {route : Route}
    (found : routed method path = some route) : route ∈ routes ∧ route.matches path = true := by
  have holds := List.find?_some found
  exact ⟨List.mem_of_find?_eq_some found, (Bool.and_eq_true_iff.mp holds).1⟩

theorem Route.path_of_matches {route : Route} {path : List Char}
    (matched : route.matches path = true) :
    ∃ rest, path = route.fullPath ++ rest ∧
      (route.parameter = false → rest = [] ∨ rest = ['\n']) := by
  unfold Route.matches at matched
  split at matched
  · rename_i parameter
    simp only [Bool.and_eq_true] at matched
    obtain ⟨rest, rfl⟩ := List.isPrefixOf_iff_prefix.mp matched.1.1
    exact ⟨rest, rfl, fun literal => absurd parameter (by rw [literal]; exact Bool.false_ne_true)⟩
  · rcases Bool.or_eq_true_iff.mp matched with same | same
    · exact ⟨[], by rw [List.append_nil]; exact eq_of_beq same, fun _ => .inl rfl⟩
    · exact ⟨['\n'], eq_of_beq same, fun _ => .inr rfl⟩

/-! ## Requests -/

/-- What a request asks for; the path is the decoded path of the scope.  `server` is the
address in the scope, with its port where that is not the default one. -/
structure Target where
  method : String
  secure : Bool
  host : Option (List Char)
  server : Option (List Char)
  path : List Char
  query : List Char

/-- Further headers, with their names in lower case. -/
abbrev Headers := List (String × String)

/-- What Starlette puts in front of the path: the `Host` header, when it is the text of
a host, or else the address of the server. -/
def Target.authority (isHost : List Char → Bool) (target : Target) : Option (List Char) :=
  (target.host.filter isHost).or target.server

/-- The text of `request.url`, as Starlette makes it of the scope. -/
def Target.url (isHost : List Char → Bool) (target : Target) : List Char :=
  let origin :=
    match target.authority isHost with
    | some authority =>
        (if target.secure then "https".toList else "http".toList) ++ "://".toList ++ authority
    | none => []
  origin ++ target.path ++ if target.query.isEmpty then [] else '?' :: target.query

/-! ## Authorisation -/

/-- The edge token as `_secret_or_value` reads it: stripped and not empty. -/
structure EdgeToken where
  text : String
  nonempty : text ≠ ""
  stripped : strip text = text

/-- `_constant_time_header`. -/
def constantTimeHeader (value expected : String) : Bool :=
  value != "" && value == expected

/-- `_edge_authorized`. -/
def edgeAuthorized (token : EdgeToken) (headers : Headers) : Bool :=
  constantTimeHeader ((headers.lookup "x-zacks-edge-token").getD "") token.text

/-- `_internal_authorized`. -/
def internalAuthorized (token : EdgeToken) (headers : Headers) : Bool :=
  let authorization := ((headers.lookup "authorization").getD "").toList
  "Bearer ".toList.isPrefixOf authorization &&
    constantTimeHeader (strip (String.ofList (authorization.drop 7))) token.text

/-- The three ways in which `protect_origin` treats a path. -/
inductive Access
  | exempt
  | internal
  | edge
  deriving DecidableEq

/-- What `protect_origin` asks for behind a path of a URL. -/
def accessOf (path : List Char) : Access :=
  if path = apiPrefix ++ "/healthz".toList ∨ path = apiPrefix ++ "/readyz".toList then .exempt
  else if (apiPrefix ++ "/internal/".toList).isPrefixOf path then .internal
  else .edge

/-- `protect_origin`.  `isHost` says which `Host` headers Starlette puts into the URL,
and `invalid` which authorities `urlsplit` rejects; the exception leaves the middleware,
so no handler runs. -/
def protectOrigin (isHost invalid : List Char → Bool) (token : EdgeToken) (target : Target)
    (headers : Headers) : Bool :=
  match urlPath invalid (target.url isHost) with
  | none => false
  | some path =>
      match accessOf path with
      | .exempt => true
      | .internal => internalAuthorized token headers
      | .edge => edgeAuthorized token headers

/-- The route whose handler runs for a request. -/
def handled (isHost invalid : List Char → Bool) (token : EdgeToken) (target : Target)
    (headers : Headers) : Option Route :=
  if protectOrigin isHost invalid token target headers then routed target.method target.path
  else none

/-! ## What a route is meant to ask for -/

/-- Which protection a route is meant to have. -/
def Route.access (route : Route) : Access :=
  if route.path = "/healthz" ∨ route.path = "/readyz" then .exempt
  else if "/internal/".toList.isPrefixOf route.path.toList then .internal
  else .edge

/-- The headers carry what the route asks for. -/
def Route.Authorized (route : Route) (token : EdgeToken) (headers : Headers) : Prop :=
  match route.access with
  | .exempt => True
  | .internal =>
      ∃ value, (headers.lookup "authorization") = some ("Bearer " ++ value) ∧
        strip value = token.text
  | .edge => headers.lookup "x-zacks-edge-token" = some token.text

end TennisAlerts.HostCore.Origin
