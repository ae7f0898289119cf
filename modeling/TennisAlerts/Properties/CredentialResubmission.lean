import TennisAlerts.Properties.CredentialAgreement

/-!
# Sending a validated pool

The writer validates a pool, sends its canonical text and validates that text once more on the
remote side.  The scheme that the canonical form puts in front of a bare token is seven
characters long, so the second validation fails exactly when a token of the pool leaves less
room than that below the limit.
-/

namespace TennisAlerts.Credentials

open TennisAlerts.Text

section

variable {Number Time : Type} {numbers : Numbers Number Time} {now : Time}

/-- Whatever the writer makes of the pool is short enough and validated to itself. -/
def Resubmits (numbers : Numbers Number Time) (now : Time) (raw : CodePoints) : Prop :=
  ∀ canonical, validatedPool numbers now raw = .ok canonical →
    canonical.length ≤ maxPoolLength ∧ validatedPool numbers now canonical = .ok canonical

theorem length_dumpsRest {texts : List CodePoints}
    (plain : ∀ text ∈ texts, ∀ code ∈ text, Json.Plain code) :
    (Json.dumpsRest texts).length = (texts.map fun text => text.length + 3).sum + 1 := by
  induction texts with
  | nil => rfl
  | cons text texts ih =>
      have others := ih fun other member => plain other (List.mem_cons_of_mem text member)
      have first := Json.length_dumpsString_plain (plain text List.mem_cons_self)
      simp only [Json.dumpsRest, List.cons_append, List.length_cons, List.length_append, others,
        first, List.map_cons, List.sum_cons]
      omega

/-- Three strings below the limit make a text below the limit of pools. -/
theorem length_dumps_le {texts : List CodePoints} (three : texts.length = accountCount)
    (plain : ∀ text ∈ texts, ∀ code ∈ text, Json.Plain code)
    (short : ∀ text ∈ texts, text.length ≤ maxAuthorizationLength) :
    (Json.dumps texts).length ≤ maxPoolLength := by
  obtain ⟨first, second, third, rfl⟩ := List.length_eq_three.mp three
  have rest := length_dumpsRest fun text member => plain text (List.mem_cons_of_mem first member)
  have front := Json.length_dumpsString_plain (plain first List.mem_cons_self)
  simp only [List.forall_mem_cons, maxAuthorizationLength] at short
  simp only [Json.dumps, List.cons_append, List.length_cons, List.length_append, rest, front,
    List.map_cons, List.map_nil, List.sum_cons, List.sum_nil, maxPoolLength, accountCount,
    maxAuthorizationLength]
  omega

theorem length_canonicalForm (raw : CodePoints) :
    (canonicalForm raw).length = (removeScheme (strip raw)).length + 7 := by
  rw [canonicalForm, scheme_codes]
  rfl

/-- A canonical text is validated to itself when its authorizations are not too long. -/
theorem validatedPool_canonical_iff {texts : List CodePoints}
    (three : texts.length = accountCount) (valid : ∀ text ∈ texts, Valid numbers now text)
    (apart : Apart numbers [] (texts.map canonicalForm)) :
    ((Json.dumps (texts.map canonicalForm)).length ≤ maxPoolLength ∧
      validatedPool numbers now (Json.dumps (texts.map canonicalForm)) =
        .ok (Json.dumps (texts.map canonicalForm))) ↔
      ∀ text ∈ texts, (canonicalForm text).length ≤ maxAuthorizationLength := by
  have count : (texts.map canonicalForm).length = accountCount := by rw [List.length_map, three]
  constructor
  · rintro ⟨-, again⟩
    obtain ⟨-, others, loaded, -, all, -⟩ := validatedPool_ok_iff.mp again
    rw [loads_canonical valid] at loaded
    have injective : Function.Injective (List.map (Json.str : _ → Json Number)) :=
      List.map_injective_iff.mpr fun _ _ same => Json.str.inj same
    have same : texts.map canonicalForm = others :=
      injective (Json.list.inj (Option.some.inj loaded))
    intro text member
    exact (all _ (same ▸ List.mem_map_of_mem member)).1
  · intro short
    have shortForms : ∀ text ∈ texts.map canonicalForm, text.length ≤ maxAuthorizationLength :=
      List.forall_mem_map.mpr short
    have plain : ∀ text ∈ texts.map canonicalForm, ∀ code ∈ text, Json.Plain code :=
      List.forall_mem_map.mpr fun text member => plain_canonical (valid text member).token.jwt
    have length := length_dumps_le count plain shortForms
    refine ⟨length, ?_⟩
    rw [validatedPool_ok_iff]
    refine ⟨length, texts.map canonicalForm, loads_canonical valid, count, fun text member =>
      ⟨shortForms text member, valid_canonical valid text member⟩, ?_, ?_⟩
    · rw [map_canonicalForm valid]
      exact apart
    · rw [map_canonicalForm valid]

/-- A pool can be sent exactly when it is rejected at once, or each of its tokens leaves room for
the scheme. -/
theorem resubmits_iff (numbers : Numbers Number Time) (now : Time) (raw : CodePoints) :
    Resubmits numbers now raw ↔
      ((∃ canonical, validatedPool numbers now raw = .ok canonical) →
        ∀ texts : List CodePoints,
          Json.loads numbers.toNumerals raw = some (.list (texts.map .str)) →
          ∀ text ∈ texts, (removeScheme (strip text)).length + 7 ≤ maxAuthorizationLength) := by
  have injective : Function.Injective (List.map (Json.str : _ → Json Number)) :=
    List.map_injective_iff.mpr fun _ _ same => Json.str.inj same
  constructor
  · rintro resubmits ⟨canonical, written⟩ others same
    have again := resubmits canonical written
    obtain ⟨-, texts, loaded, three, all, apart, rfl⟩ := validatedPool_ok_iff.mp written
    rw [loaded] at same
    have texts_eq : texts = others := injective (Json.list.inj (Option.some.inj same))
    subst texts_eq
    intro text member
    rw [← length_canonicalForm]
    exact (validatedPool_canonical_iff three (fun text member => (all text member).2) apart).mp
      again text member
  · intro room canonical written
    have roomy := room ⟨canonical, written⟩
    obtain ⟨-, texts, loaded, three, all, apart, rfl⟩ := validatedPool_ok_iff.mp written
    rw [validatedPool_canonical_iff three (fun text member => (all text member).2) apart]
    intro text member
    rw [length_canonicalForm]
    exact roomy texts loaded text member

end

/-! ## A token at the limit -/

theorem length_sampleToken (segment : CodePoints) (blanks : Nat) :
    (sampleToken segment blanks).length = segment.length + 4 * blanks + 65 := by
  have header : (codePoints "eyJhbGciOiJIUzI1NiJ9").length = 20 := by decide
  simp only [sampleToken, List.length_append, List.length_cons, List.length_replicate, header,
    length_blankGroups]
  omega

/-- Three tokens, the first of them of 8189 characters. -/
def sampleTokens : List CodePoints :=
  samplePool 2021

theorem sampleTokens_valid : ∀ token ∈ sampleTokens,
    token.length ≤ maxAuthorizationLength ∧ Valid wholeNumbers 0 token := by
  have lengths : firstSegment.length = 40 ∧ secondSegment.length = 40 ∧
      thirdSegment.length = 40 := by decide
  have short : ∀ token ∈ sampleTokens, token.length ≤ maxAuthorizationLength := by
    simp only [sampleTokens, samplePool, List.forall_mem_cons, length_sampleToken, lengths,
      maxAuthorizationLength]
    exact ⟨by omega, by omega, by omega, by simp⟩
  exact fun token member => ⟨short token member, samplePool_valid 2021 token member⟩

/-- The pool of the tokens is accepted, and its canonical text is not. -/
theorem longToken_not_resubmits : ¬ Resubmits wholeNumbers 0 (Json.dumps sampleTokens) := by
  intro resubmits
  have plain : ∀ token ∈ sampleTokens, ∀ code ∈ token, Json.Plain code := samplePool_plain 2021
  have short := length_dumps_le rfl plain fun token member => (sampleTokens_valid token member).1
  have written : validatedPool wholeNumbers 0 (Json.dumps sampleTokens) =
      .ok (Json.dumps (sampleTokens.map canonicalForm)) :=
    validatedPool_ok_iff.mpr ⟨short, sampleTokens, Json.loads_dumps plain, rfl,
      sampleTokens_valid, samplePool_apart 2021, rfl⟩
  have room := (validatedPool_canonical_iff rfl (samplePool_valid 2021) (samplePool_apart 2021)).mp
    (resubmits _ written) _ List.mem_cons_self
  have length : firstSegment.length = 40 := by decide
  rw [length_canonicalForm, removeScheme_sampleToken, length_sampleToken, length,
    maxAuthorizationLength] at room
  omega

end TennisAlerts.Credentials
