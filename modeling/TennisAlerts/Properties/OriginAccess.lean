import TennisAlerts.HostCore.Origin

/-!
# Which requests reach a handler

The middleware and the router look at two different paths.  What stands in front of the
path in the URL is the text of a host, so it does not reach into the path, and the two
agree on what a route asks for, whatever the path of the request is.
-/

namespace TennisAlerts.HostCore.Origin

open TennisAlerts.Text

/-! ## The path of `request.url` -/

def Target.queryPart (target : Target) : List Char :=
  if target.query.isEmpty then [] else '?' :: target.query

/-- The path that `urlsplit` finds behind an authority. -/
theorem urlPath_authority (invalid : List Char → Bool) (secure : Bool) (rest : List Char) :
    urlPath invalid
        ((if secure then "https".toList else "http".toList) ++ "://".toList ++ rest) =
      if invalid (authorityOf (cleaned rest)) then none
      else some (pathAfterAuthority (cleaned rest)) := by
  cases secure <;> rfl

/-- The query does not reach the path. -/
theorem takeWhile_queryPart (target : Target) (text : List Char) :
    (text ++ cleaned target.queryPart).takeWhile (!endsPath ·) =
      text.takeWhile (!endsPath ·) := by
  apply takeWhile_append_of_stops
  unfold Target.queryPart
  split <;> rfl

/-! ## What the middleware asks for behind a path of a route -/

/-- Behind a text of that length only the internal prefix counts. -/
theorem accessOf_append {front : List Char} (long : 24 ≤ front.length) (rest : List Char) :
    accessOf (front ++ rest) =
      if (apiPrefix ++ "/internal/".toList).isPrefixOf front then .internal else .edge := by
  have length : (front ++ rest).length = front.length + rest.length := List.length_append
  have apart {short : List Char} (less : short.length < 24) : front ++ rest ≠ short := by
    intro same
    rw [same] at length
    omega
  have inFront : (apiPrefix ++ "/internal/".toList).isPrefixOf (front ++ rest) =
      (apiPrefix ++ "/internal/".toList).isPrefixOf front := by
    rw [Bool.eq_iff_iff, List.isPrefixOf_iff_prefix, List.isPrefixOf_iff_prefix]
    constructor
    · exact fun isPrefix =>
        List.prefix_of_prefix_length_le isPrefix (List.prefix_append front rest) long
    · exact fun isPrefix => isPrefix.trans (List.prefix_append front rest)
  rw [accessOf, if_neg (not_or.mpr ⟨apart (by decide), apart (by decide)⟩), inFront]

/-- What the table of routes has to satisfy. -/
theorem routes_plain :
    ∀ route ∈ routes,
      (route.fullPath.all fun character => !removed character && !endsPath character) = true ∧
        (if route.parameter then
          24 ≤ route.fullPath.length ∧
            (if (apiPrefix ++ "/internal/".toList).isPrefixOf route.fullPath then .internal
              else .edge) = route.access
        else accessOf route.fullPath = route.access) := by
  decide

/-- The middleware asks for what the route is meant to ask for, once it sees its path. -/
theorem accessOf_matched {route : Route} {path : List Char} (known : route ∈ routes)
    (matched : route.matches path = true) :
    accessOf ((cleaned path).takeWhile (!endsPath ·)) = route.access := by
  obtain ⟨rest, rfl, literal⟩ := route.path_of_matches matched
  obtain ⟨plain, access⟩ := routes_plain route known
  simp only [List.all_eq_true, Bool.and_eq_true, Bool.not_eq_true'] at plain
  have front : (cleaned (route.fullPath ++ rest)).takeWhile (!endsPath ·) =
      route.fullPath ++ (cleaned rest).takeWhile (!endsPath ·) := by
    rw [cleaned_append, cleaned_of_clean fun character member => (plain character member).1]
    apply List.takeWhile_append_of_pos
    intro character member
    rw [(plain character member).2]
    rfl
  rw [front]
  split at access
  · rw [accessOf_append access.1]
    exact access.2
  · rename_i none
    have nothing : (cleaned rest).takeWhile (!endsPath ·) = [] := by
      rcases literal (Bool.eq_false_iff.mpr none) with rfl | rfl <;> rfl
    rw [nothing, List.append_nil]
    exact access

/-! ## The path that the middleware sees -/

/-- A text in front of the path that is no part of it: no character of it ends an
authority. -/
def Plain (text : List Char) : Prop :=
  ∀ character ∈ text, endsAuthority character = false

theorem Route.path_cons {route : Route} {path : List Char} (matched : route.matches path = true) :
    ∃ rest, path = '/' :: 'z' :: rest := by
  obtain ⟨rest, same, -⟩ := route.path_of_matches matched
  exact ⟨"acks-api/api".toList ++ route.path.toList ++ rest, same⟩

section

variable {isHost invalid : List Char → Bool} {target : Target} {route : Route}

/-- Behind the text of a host the middleware sees the path of the scope. -/
theorem urlPath_of_authority {authority path : List Char}
    (found : target.authority isHost = some authority) (plain : Plain authority)
    (matched : route.matches target.path = true)
    (split : urlPath invalid (target.url isHost) = some path) :
    path = (cleaned target.path).takeWhile (!endsPath ·) := by
  obtain ⟨rest, start⟩ := Route.path_cons matched
  have text : target.url isHost = (if target.secure then "https".toList else "http".toList) ++
      "://".toList ++ (authority ++ (target.path ++ target.queryPart)) := by
    simp only [Target.url, found, Target.queryPart, List.append_assoc]
  have slash : cleaned target.path = '/' :: cleaned ('z' :: rest) := by
    rw [start]
    rfl
  rw [text, urlPath_authority, cleaned_append, cleaned_append] at split
  split at split
  · cases split
  · have outside : ∀ character ∈ cleaned authority, endsAuthority character = false :=
      fun character member => plain character (mem_cleaned.mp member).1
    rw [← Option.some.inj split, slash, List.cons_append, pathAfterAuthority_append outside,
      ← List.cons_append, takeWhile_queryPart]

/-- Without an address the URL is the path. -/
theorem urlPath_of_none {path : List Char} (missing : target.authority isHost = none)
    (matched : route.matches target.path = true)
    (split : urlPath invalid (target.url isHost) = some path) :
    path = (cleaned target.path).takeWhile (!endsPath ·) := by
  obtain ⟨rest, start⟩ := Route.path_cons matched
  have text : target.url isHost = target.path ++ target.queryPart := by
    simp only [Target.url, missing, Target.queryPart, List.nil_append]
  have whole : cleaned (target.path ++ target.queryPart) =
      '/' :: 'z' :: cleaned (rest ++ target.queryPart) := by
    rw [start]
    rfl
  have kept : (target.path ++ target.queryPart).dropWhile
      (fun character => decide (character.toNat ≤ 32)) = target.path ++ target.queryPart := by
    rw [start]
    rfl
  rw [text, urlPath, kept, whole, afterScheme_slash] at split
  rw [← Option.some.inj split, ← takeWhile_queryPart target (cleaned target.path),
    ← cleaned_append, whole]

/-- Whatever the request is, the middleware asks for what its route is meant to ask for. -/
theorem accessOf_seen (hosts : ∀ host, isHost host = true → Plain host)
    (served : ∀ address ∈ target.server, Plain address) (known : route ∈ routes)
    (matched : route.matches target.path = true) {path : List Char}
    (split : urlPath invalid (target.url isHost) = some path) : accessOf path = route.access := by
  have seen : path = (cleaned target.path).takeWhile (!endsPath ·) := by
    cases found : target.authority isHost with
    | none => exact urlPath_of_none found matched split
    | some authority =>
        apply urlPath_of_authority found _ matched split
        rcases Option.or_eq_some_iff.mp found with header | ⟨_, address⟩
        · exact hosts authority (Option.filter_eq_some_iff.mp header).2
        · exact served authority address
  rw [seen]
  exact accessOf_matched known matched

end

/-! ## Which handlers run -/

theorem constantTimeHeader_iff {token : EdgeToken} {value : String} :
    constantTimeHeader value token.text = true ↔ value = token.text := by
  rw [constantTimeHeader, Bool.and_eq_true, bne_iff_ne, beq_iff_eq]
  constructor
  · exact And.right
  · rintro rfl
    exact ⟨token.nonempty, rfl⟩

theorem edgeAuthorized_iff {token : EdgeToken} {headers : Headers} :
    edgeAuthorized token headers = true ↔
      headers.lookup "x-zacks-edge-token" = some token.text := by
  rw [edgeAuthorized, constantTimeHeader_iff]
  cases headers.lookup "x-zacks-edge-token" with
  | none => exact iff_of_false (Ne.symm token.nonempty) nofun
  | some value => exact Option.some_inj.symm

theorem internalAuthorized_iff {token : EdgeToken} {headers : Headers} :
    internalAuthorized token headers = true ↔
      ∃ value, headers.lookup "authorization" = some ("Bearer " ++ value) ∧
        strip value = token.text := by
  rw [internalAuthorized, Bool.and_eq_true, constantTimeHeader_iff, List.isPrefixOf_iff_prefix]
  cases headers.lookup "authorization" with
  | none =>
      exact iff_of_false (fun both => absurd both.1 (by decide)) fun ⟨_, given, _⟩ => nomatch given
  | some authorization =>
      rw [Option.getD_some]
      constructor
      · rintro ⟨⟨rest, split⟩, same⟩
        refine ⟨String.ofList rest, ?_, ?_⟩
        · rw [Option.some_inj, ← String.toList_inj, String.toList_append,
            @String.toList_ofList rest]
          exact split.symm
        · rwa [← split] at same
      · rintro ⟨value, given, same⟩
        rw [Option.some_inj.mp given, String.toList_append]
        refine ⟨List.prefix_append _ _, ?_⟩
        rw [← same]
        congr 1
        exact String.ofList_toList

theorem Route.authorized_of_protectOrigin {route : Route} {isHost invalid : List Char → Bool}
    {token : EdgeToken} {target : Target} {headers : Headers}
    (passed : protectOrigin isHost invalid token target headers = true)
    (same : ∀ path, urlPath invalid (target.url isHost) = some path →
      accessOf path = route.access) :
    route.Authorized token headers := by
  unfold protectOrigin at passed
  split at passed
  · exact absurd passed Bool.false_ne_true
  · rename_i path split
    rw [same path split] at passed
    unfold Route.Authorized
    cases asked : route.access with
    | exempt => trivial
    | internal => exact internalAuthorized_iff.mp (by rwa [asked] at passed)
    | edge => exact edgeAuthorized_iff.mp (by rwa [asked] at passed)

/-- Whatever the headers are, a handler runs with the authorisation of its route only. -/
def Target.Protected (target : Target) (isHost invalid : List Char → Bool)
    (token : EdgeToken) : Prop :=
  ∀ headers route, handled isHost invalid token target headers = some route →
    route.Authorized token headers

/-- Every request is protected, because neither a host nor the address of a server holds
a character that ends an authority. -/
theorem protected_of_hosts {isHost : List Char → Bool}
    (hosts : ∀ host, isHost host = true → Plain host) (invalid : List Char → Bool)
    (token : EdgeToken) (target : Target) (served : ∀ address ∈ target.server, Plain address) :
    target.Protected isHost invalid token := by
  intro headers route runs
  obtain ⟨passed, found⟩ := Option.ite_none_right_eq_some.mp runs
  obtain ⟨known, matched⟩ := routed_known found
  exact route.authorized_of_protectOrigin passed fun _ split =>
    accessOf_seen hosts served known matched split

/-- A text of the characters of a host: a name or an address, and a port. -/
def hostText (text : List Char) : Bool :=
  text != [] && text.all fun character =>
    character.isAlphanum || character = '.' || character = '-' || character = ':'

theorem plain_of_hostText {text : List Char} (isHost : hostText text = true) : Plain text := by
  intro character member
  have inside := List.all_eq_true.mp (Bool.and_eq_true_iff.mp isHost).2 character member
  rw [Bool.eq_false_iff]
  intro ends
  simp only [endsAuthority, Bool.or_eq_true, decide_eq_true_eq] at ends
  rcases ends with (rfl | rfl) | rfl <;> exact absurd inside (by decide)

/-- A request for the observations with a path in its `Host` header. -/
def smuggledRequest : Target where
  method := "POST"
  secure := true
  host := some "x/zacks-api/api/healthz?".toList
  server := some "127.0.0.1:8080".toList
  path := "/zacks-api/api/internal/observations".toList
  query := []

/-- The header is left out of the URL, and the request needs the token. -/
theorem smuggledRequest_protected :
    smuggledRequest.Protected hostText (fun _ => false) ⟨"token", by decide, by decide⟩ := by
  apply protected_of_hosts fun _ => plain_of_hostText
  rintro _ ⟨⟩
  exact plain_of_hostText (by decide)

end TennisAlerts.HostCore.Origin
