import TennisAlerts.Edge.Gateway
import TennisAlerts.HostCore.Origin

/-!
# Internal paths behind the public edge

The edge refuses the paths that start with `/api/internal/` before any escape is
decoded; the host routes the decoded path.
-/

namespace TennisAlerts.Edge

open TennisAlerts.Text TennisAlerts.HostCore.Origin

/-- A path of the host, decoded once, is the path of an internal route. -/
def Internal (path : List Char) : Prop :=
  ∃ route ∈ routes, route.access = .internal ∧ route.matches path = true

/-- What follows `/api/` spells an internal path in full where it means one. -/
def Request.SpelledOut (request : Request) : Prop :=
  ∀ rest, request.pathname = "/api/".toList ++ rest →
    Internal (apiPrefix ++ '/' :: unquote rest) → "internal/".toList <+: rest

/-- The edge forwards no internal path. -/
def Request.Unexposed (request : Request) (env : Env) : Prop :=
  ∀ outgoing, fetch request env = .forwarded outgoing → ¬Internal (unquote outgoing.path)

theorem internal_prefix {path : List Char} (inside : Internal path) :
    apiPrefix ++ "/internal/".toList <+: path := by
  obtain ⟨route, known, access, matched⟩ := inside
  have front : ∀ route ∈ routes, route.access = .internal →
      (apiPrefix ++ "/internal/".toList).isPrefixOf route.fullPath = true := by
    decide
  obtain ⟨rest, rfl, -⟩ := route.path_of_matches matched
  exact (List.isPrefixOf_iff_prefix.mp (front route known access)).trans (List.prefix_append _ _)

/-- The host decodes what follows `/api/` and nothing else. -/
theorem unquote_originPath {rest : List Char} :
    unquote (originPath ++ ("/api/".toList ++ rest)) = apiPrefix ++ '/' :: unquote rest := by
  rw [← List.append_assoc]
  exact unquote_append (by decide) rest

theorem unexposed_iff_spelledOut (request : Request) (env : Env) :
    request.Unexposed env ↔ env.airflowPushToken = "" ∨ request.SpelledOut := by
  constructor
  · intro safe
    rw [or_iff_not_imp_left]
    intro token rest path inside
    by_contra escaped
    refine safe (originRequest request env) (fetch_eq_forwarded.mpr ⟨?_, ?_, ?_, token, rfl⟩) ?_
    · rintro ⟨-, health⟩
      have same : rest = "edge-healthz".toList :=
        List.append_cancel_left (path.symm.trans health)
      have front := internal_prefix (same ▸ inside)
      exact absurd front (by decide)
    · rw [path]
      exact fun front => escaped ((List.prefix_append_right_inj "/api/".toList).mp front)
    · rw [path]
      exact List.prefix_append _ _
    · rw [originRequest_path, path, unquote_originPath]
      exact inside
  · rintro condition outgoing forwarded inside
    obtain ⟨-, outside, ⟨rest, api⟩, token, rfl⟩ := fetch_eq_forwarded.mp forwarded
    rw [originRequest_path, ← api, unquote_originPath] at inside
    have spelled := condition.resolve_left token rest api.symm inside
    apply outside
    rw [← api]
    exact (List.prefix_append_right_inj "/api/".toList).mpr spelled

/-- A public request for the observations with one letter escaped. -/
def escapedRequest : Request where
  method := "POST"
  target := "/api/%69nternal/observations".toList
  headers := []

theorem escapedRequest_exposed : ¬escapedRequest.Unexposed ⟨"token", ""⟩ := by
  intro safe
  have path : unquote (originRequest escapedRequest ⟨"token", ""⟩).path =
      "/zacks-api/api/internal/observations".toList := by
    decide
  refine safe (originRequest escapedRequest ⟨"token", ""⟩)
    (fetch_eq_forwarded.mpr ⟨by decide, by decide, by decide, by decide, rfl⟩) ?_
  rw [path]
  exact ⟨⟨"internal_observation", ["POST"], "/internal/observations", false⟩, by decide, by decide,
    by decide⟩

end TennisAlerts.Edge
