import TennisAlerts.Credentials.Reader
import TennisAlerts.Credentials.Writer
import TennisAlerts.HostCore.Domain
import Mathlib.Data.List.TakeWhile

/-!
# Writer and reader of the credential pool

Both validators accept a text exactly when the token behind the scheme has three segments, its
payload has an expiry that has not passed, and they give it the same canonical form.  Both
accept a pool when its tokens name accounts that no earlier token of the pool names.
-/

namespace TennisAlerts.Credentials

open TennisAlerts.Text
open TennisAlerts.HostCore (mapM_ok_iff)

/-! ## Three segments -/

/-- The text is three words with full stops between them. -/
def Segments (token header payload signature : CodePoints) : Prop :=
  token = header ++ 46 :: (payload ++ 46 :: signature) ∧
    ∀ part ∈ [header, payload, signature], part ≠ [] ∧ ∀ code ∈ part, isWordCode code = true

theorem dot_not_mem {word : CodePoints} (letters : ∀ code ∈ word, isWordCode code = true) :
    46 ∉ word := by
  intro member
  cases letters 46 member

theorem afterWord_eq_some {text rest : CodePoints} :
    afterWord text = some rest ↔
      text.takeWhile isWordCode ≠ [] ∧ rest = text.dropWhile isWordCode := by
  rw [afterWord]
  split
  · next empty => simp [empty]
  · next nonempty => simp [nonempty, eq_comm]

theorem exists_word_of_afterWord {text rest : CodePoints} (read : afterWord text = some rest) :
    ∃ word, (word ≠ [] ∧ ∀ code ∈ word, isWordCode code = true) ∧ text = word ++ rest := by
  obtain ⟨nonempty, rfl⟩ := afterWord_eq_some.mp read
  exact ⟨text.takeWhile isWordCode, ⟨nonempty, fun code member => List.mem_takeWhile_imp member⟩,
    List.takeWhile_append_dropWhile.symm⟩

theorem afterDot_eq_some {text rest : CodePoints} :
    afterDot text = some rest ↔ text = 46 :: rest := by
  constructor
  · intro read
    unfold afterDot at read
    split at read
    · cases read
      rfl
    · cases read
  · rintro rfl
    rfl

/-- A word is read up to a character that is not in its class. -/
theorem afterWord_append {word : CodePoints} {code : Nat} (rest : CodePoints) (nonempty : word ≠ [])
    (letters : ∀ code ∈ word, isWordCode code = true) (other : isWordCode code = false) :
    afterWord (word ++ code :: rest) = some (code :: rest) := by
  rw [afterWord_eq_some]
  rw [List.takeWhile_append_of_pos letters, List.dropWhile_append_of_pos letters]
  simp [nonempty, other]

theorem afterWord_all {word : CodePoints} (nonempty : word ≠ [])
    (letters : ∀ code ∈ word, isWordCode code = true) : afterWord word = some [] := by
  have whole : (word ++ []).takeWhile isWordCode = word ++ [].takeWhile isWordCode :=
    List.takeWhile_append_of_pos letters
  have none : (word ++ []).dropWhile isWordCode = [].dropWhile isWordCode :=
    List.dropWhile_append_of_pos letters
  rw [List.append_nil] at whole none
  rw [afterWord_eq_some, whole, none]
  simp [nonempty]

/-- The regular expression matches exactly the texts of three segments. -/
theorem isJwt_iff (token : CodePoints) :
    isJwt token = true ↔ ∃ header payload signature, Segments token header payload signature := by
  constructor
  · intro matched
    simp only [isJwt, beq_iff_eq, Option.bind_eq_some_iff, afterDot_eq_some] at matched
    obtain ⟨signature, ⟨_, ⟨behind, ⟨_, first, rfl⟩, second⟩, rfl⟩, third⟩ := matched
    obtain ⟨header, headerWord, rfl⟩ := exists_word_of_afterWord first
    obtain ⟨payload, payloadWord, rfl⟩ := exists_word_of_afterWord second
    obtain ⟨last, lastWord, rfl⟩ := exists_word_of_afterWord third
    refine ⟨header, payload, last, ?_, ?_⟩
    · rw [List.append_nil]
    · simp only [List.forall_mem_cons]
      exact ⟨headerWord, payloadWord, lastWord, by simp⟩
  · rintro ⟨header, payload, signature, rfl, words⟩
    simp only [List.forall_mem_cons] at words
    obtain ⟨first, second, third, -⟩ := words
    have dot : isWordCode 46 = false := by decide
    rw [isJwt, afterWord_append _ first.1 first.2 dot, Option.bind_some, afterDot,
      Option.bind_some, afterWord_append _ second.1 second.2 dot, Option.bind_some, afterDot,
      Option.bind_some, afterWord_all third.1 third.2]
    rfl

/-- The segments of a token are what it is split into. -/
theorem splitOn_segments {token header payload signature : CodePoints} (front : CodePoints)
    (plain : 46 ∉ front) (segments : Segments token header payload signature) :
    (front ++ token).splitOn 46 = [front ++ header, payload, signature] := by
  obtain ⟨rfl, words⟩ := segments
  simp only [List.forall_mem_cons] at words
  obtain ⟨first, second, third, -⟩ := words
  have apart : ∀ part ∈ [front ++ header, payload, signature], 46 ∉ part := by
    simp [plain, dot_not_mem first.2, dot_not_mem second.2, dot_not_mem third.2]
  have whole := List.splitOn_intercalate 46 apart (by simp)
  rw [← whole]
  simp [List.intercalate, List.intersperse]

/-- The writer finds three words exactly when the regular expression matches. -/
theorem splitOn_words_iff (token : CodePoints) :
    ¬ ((token.splitOn 46).length ≠ 3 ∨
        (token.splitOn 46).any (fun part => part.isEmpty || !part.all isWordCode) = true) ↔
      isJwt token = true := by
  rw [isJwt_iff]
  constructor
  · intro words
    rw [not_or, ne_eq, not_not] at words
    obtain ⟨three, all⟩ := words
    obtain ⟨header, payload, signature, parts⟩ := List.length_eq_three.mp three
    refine ⟨header, payload, signature, ?_, ?_⟩
    · have joined : [46].intercalate (token.splitOn 46) = token := List.intercalate_splitOn 46
      rw [parts] at joined
      rw [← joined]
      simp [List.intercalate, List.intersperse]
    · rw [parts] at all
      simpa [not_or] using all
  · rintro ⟨header, payload, signature, segments⟩
    have parts := splitOn_segments [] (by simp) segments
    rw [List.nil_append, List.nil_append] at parts
    rw [parts]
    simpa using segments.2

/-! ## One authorization -/

section

variable {Number Time : Type} {numbers : Numbers Number Time} {now : Time}

/-- Both validators read the same expiry. -/
theorem readExpiry_eq (token : CodePoints) :
    readExpiry numbers token = writtenExpiry numbers (token.splitOn 46) := by
  unfold readExpiry writtenExpiry
  generalize token.splitOn 46 = parts
  split
  · next header payload signature =>
      ext expiresAt
      simp only [decodeSzwJwtSegment, Option.bind_eq_bind, Option.bind_eq_some_iff,
        Option.ite_none_right_eq_some]
      constructor
      · rintro ⟨header, ⟨headerBytes, headerRead, headerJson⟩, payload,
          ⟨payloadBytes, payloadRead, payloadJson⟩, ⟨isHeader, algorithm⟩, isPayload, signature,
          signatureRead, length, expiry, expiryRead, finite, same⟩
        exact ⟨headerBytes, headerRead, payloadBytes, payloadRead, signature, signatureRead, header,
          headerJson, payload, payloadJson, ⟨isHeader, isPayload⟩, algorithm, expiry, expiryRead,
          ⟨finite, length⟩, same⟩
      · rintro ⟨headerBytes, headerRead, payloadBytes, payloadRead, signature, signatureRead,
          header, headerJson, payload, payloadJson, ⟨isHeader, isPayload⟩, algorithm, expiry,
          expiryRead, ⟨finite, length⟩, same⟩
        exact ⟨header, ⟨headerBytes, headerRead, headerJson⟩, payload,
          ⟨payloadBytes, payloadRead, payloadJson⟩, ⟨isHeader, algorithm⟩, isPayload, signature,
          signatureRead, length, expiry, expiryRead, finite, same⟩
  · next others =>
      split
      · next header payload signature => exact (others header payload signature rfl).elim
      · rfl

/-- The token is accepted at a time. -/
structure Accepts (numbers : Numbers Number Time) (now : Time) (token : CodePoints) : Prop where
  jwt : isJwt token = true
  expiry : ∃ expiresAt, readExpiry numbers token = some expiresAt ∧
    numbers.atMost expiresAt now = false

/-- What both validators want of a text, except for its length. -/
structure Valid (numbers : Numbers Number Time) (now : Time) (raw : CodePoints) : Prop where
  oneLine : ¬ (10 ∈ raw ∨ 13 ∈ raw)
  token : Accepts numbers now (removeScheme (strip raw))

/-- The canonical form of a text. -/
def canonicalForm (raw : CodePoints) : CodePoints :=
  scheme ++ removeScheme (strip raw)

theorem strip_ne_nil {raw : CodePoints} (valid : Valid numbers now raw) : strip raw ≠ [] := by
  intro empty
  have jwt := valid.token.jwt
  rw [empty] at jwt
  revert jwt
  decide

/-- What follows once the token is found: the same in both validators. -/
theorem accepts_iff {token : CodePoints} (jwt : isJwt token = true) :
    Accepts numbers now token ↔ ∃ expiresAt, writtenExpiry numbers (token.splitOn 46) =
      some expiresAt ∧ numbers.atMost expiresAt now = false := by
  rw [← readExpiry_eq]
  exact ⟨fun accepts => accepts.expiry, fun expiry => ⟨jwt, expiry⟩⟩

/-- The end of both validators. -/
theorem unexpired_iff {ε : Type} {malformed expired : ε} {expiry : Option Number}
    {text authorization : CodePoints} :
    (match expiry with
      | none => Except.error malformed
      | some expiresAt =>
          if numbers.atMost expiresAt now = true then .error expired else .ok text) =
        .ok authorization ↔
      (∃ expiresAt, expiry = some expiresAt ∧ numbers.atMost expiresAt now = false) ∧
        authorization = text := by
  cases expiry with
  | none => simp
  | some expiresAt =>
      cases late : numbers.atMost expiresAt now with
      | true => simp [late]
      | false =>
          simp only [late, Bool.false_eq_true, if_false, Except.ok.injEq]
          exact ⟨fun same => ⟨⟨expiresAt, rfl, late⟩, same.symm⟩, fun both => both.2.symm⟩

/-- The writer accepts the valid texts that are not too long. -/
theorem validatedAuthorization_ok_iff {raw authorization : CodePoints} :
    validatedAuthorization numbers now raw = .ok authorization ↔
      raw.length ≤ maxAuthorizationLength ∧ Valid numbers now raw ∧
        authorization = canonicalForm raw := by
  rw [validatedAuthorization]
  by_cases missing : strip raw = [] ∨ maxAuthorizationLength < raw.length
  · rw [if_pos missing]
    refine ⟨fun same => (nomatch same), ?_⟩
    rintro ⟨short, valid, -⟩
    have empty := missing.resolve_right (by omega)
    exact absurd empty (strip_ne_nil valid)
  · rw [if_neg missing]
    have short : raw.length ≤ maxAuthorizationLength := by omega
    by_cases breaks : 10 ∈ raw ∨ 13 ∈ raw
    · rw [if_pos breaks]
      exact ⟨fun same => (nomatch same), fun ⟨_, valid, _⟩ => absurd breaks valid.oneLine⟩
    · rw [if_neg breaks]
      dsimp only
      by_cases jwt : isJwt (removeScheme (strip raw)) = true
      · rw [if_neg ((splitOn_words_iff _).mpr jwt)]
        refine Iff.trans unexpired_iff ?_
        rw [← accepts_iff jwt]
        exact ⟨fun ⟨accepts, same⟩ => ⟨short, ⟨breaks, accepts⟩, same⟩,
          fun ⟨_, valid, same⟩ => ⟨valid.token, same⟩⟩
      · rw [if_pos (by_contra fun words => jwt ((splitOn_words_iff _).mp words))]
        exact ⟨fun same => (nomatch same), fun ⟨_, valid, _⟩ => absurd valid.token.jwt jwt⟩

theorem mem_token {token header payload signature : CodePoints}
    (segments : Segments token header payload signature) :
    ∀ code ∈ token, isWordCode code = true ∨ code = 46 := by
  obtain ⟨rfl, words⟩ := segments
  simp only [List.forall_mem_cons] at words
  obtain ⟨first, second, third, -⟩ := words
  intro code member
  simp only [List.mem_append, List.mem_cons] at member
  obtain member | dot | member | dot | member := member
  · exact Or.inl (first.2 code member)
  · exact Or.inr dot
  · exact Or.inl (second.2 code member)
  · exact Or.inr dot
  · exact Or.inl (third.2 code member)

/-- Characters of tokens are written to JSON as they are. -/
theorem plain_of_jwt {token : CodePoints} (jwt : isJwt token = true) :
    ∀ code ∈ token, Json.Plain code := by
  obtain ⟨header, payload, signature, segments⟩ := (isJwt_iff token).mp jwt
  intro code member
  cases mem_token segments code member with
  | inl word =>
      simp only [isWordCode, Bool.or_eq_true, Bool.and_eq_true, decide_eq_true_eq,
        beq_iff_eq] at word
      unfold Json.Plain
      omega
  | inr dot =>
      subst dot
      unfold Json.Plain
      omega

theorem not_isSpace_of_plain {code : Nat} (plain : Json.Plain code) (notBlank : code ≠ 32) :
    isSpace code = false := by
  obtain ⟨low, high, -, -⟩ := plain
  simp only [isSpace, Bool.or_eq_false_iff, Bool.and_eq_false_iff, decide_eq_false_iff_not]
  omega

theorem blank_not_mem {token : CodePoints} (jwt : isJwt token = true) : 32 ∉ token := by
  obtain ⟨header, payload, signature, segments⟩ := (isJwt_iff token).mp jwt
  intro member
  cases mem_token segments 32 member with
  | inl word => cases word
  | inr dot => cases dot

/-- The reader finds the token that the writer finds, or none. -/
theorem readToken_eq {authorization token : CodePoints}
    (read : readToken authorization = .ok token) : removeScheme authorization = token := by
  rw [readToken] at read
  rw [removeScheme]
  split at read
  · next hasScheme =>
      rw [if_pos hasScheme]
      exact Except.ok.inj read
  · next bare =>
      rw [if_neg bare]
      split at read
      · exact Except.ok.inj read
      · cases read

theorem readToken_of_jwt {authorization : CodePoints}
    (jwt : isJwt (removeScheme authorization) = true) :
    readToken authorization = .ok (removeScheme authorization) := by
  have noBlank := blank_not_mem jwt
  rw [readToken]
  rw [removeScheme] at noBlank ⊢
  split
  · rfl
  · next bare =>
      rw [if_neg bare] at noBlank
      rw [if_pos noBlank]

/-- The reader accepts the valid texts, of any length. -/
theorem validateSzwAuthorization_ok_iff {value : Json Number} {authorization : CodePoints} :
    validateSzwAuthorization numbers now value = .ok authorization ↔
      ∃ raw, value = .str raw ∧ Valid numbers now raw ∧ authorization = canonicalForm raw := by
  cases value with
  | str raw =>
      simp only [Json.str.injEq, exists_eq_left']
      rw [validateSzwAuthorization]
      by_cases missing : strip raw = []
      · rw [if_pos missing]
        exact ⟨fun same => (nomatch same), fun ⟨valid, _⟩ => absurd missing (strip_ne_nil valid)⟩
      · rw [if_neg missing]
        by_cases breaks : 10 ∈ raw ∨ 13 ∈ raw
        · rw [if_pos breaks]
          exact ⟨fun same => (nomatch same), fun ⟨valid, _⟩ => absurd breaks valid.oneLine⟩
        · rw [if_neg breaks]
          by_cases jwt : isJwt (removeScheme (strip raw)) = true
          · rw [readToken_of_jwt jwt]
            change (if isJwt (removeScheme (strip raw)) = true then _ else _) = _ ↔ _
            rw [if_pos jwt]
            refine Iff.trans unexpired_iff ?_
            rw [readExpiry_eq, ← accepts_iff jwt]
            exact ⟨fun ⟨accepts, same⟩ => ⟨⟨breaks, accepts⟩, same⟩,
              fun ⟨valid, same⟩ => ⟨valid.token, same⟩⟩
          · refine ⟨fun same => ?_, fun ⟨valid, _⟩ => absurd valid.token.jwt jwt⟩
            cases read : readToken (strip raw) with
            | error fault =>
                rw [read] at same
                cases same
            | ok token =>
                have noJwt : ¬ isJwt token = true := readToken_eq read ▸ jwt
                rw [read] at same
                change (if isJwt token = true then _ else _) = _ at same
                rw [if_neg noJwt] at same
                cases same
  | _ => simp [validateSzwAuthorization]

/-! ## Canonical authorizations -/

theorem scheme_codes : scheme = [87, 101, 99, 104, 97, 116, 32] := by
  decide

theorem strip_of_ends {first last : Nat} {middle : CodePoints} (front : isSpace first = false)
    (back : isSpace last = false) :
    strip (first :: (middle ++ [last])) = first :: (middle ++ [last]) := by
  rw [strip, List.dropWhile_cons_of_neg (by simp [front])]
  have reversed : (first :: (middle ++ [last])).reverse = last :: (middle.reverse ++ [first]) := by
    simp
  rw [reversed, List.dropWhile_cons_of_neg (by simp [back])]
  simp

theorem removeScheme_append (token : CodePoints) : removeScheme (scheme ++ token) = token := by
  have isPrefix : scheme.isPrefixOf (scheme ++ token) = true := by simp
  rw [removeScheme, if_pos isPrefix, List.drop_left]

/-- Blanks are not at the ends of a canonical authorization. -/
theorem strip_canonical {token : CodePoints} (jwt : isJwt token = true) :
    strip (scheme ++ token) = scheme ++ token := by
  have noBlank := blank_not_mem jwt
  have plain := plain_of_jwt jwt
  obtain empty | ⟨front, last, rfl⟩ := List.eq_nil_or_concat token
  · subst empty
    cases jwt
  · have back : isSpace last = false := by
      apply not_isSpace_of_plain (plain last (by simp))
      rintro rfl
      simp at noBlank
    rw [scheme_codes]
    have ends := @strip_of_ends 87 last ([101, 99, 104, 97, 116, 32] ++ front) (by decide) back
    simpa using ends

theorem plain_canonical {token : CodePoints} (jwt : isJwt token = true) :
    ∀ code ∈ scheme ++ token, Json.Plain code := by
  have plain := plain_of_jwt jwt
  rw [scheme_codes]
  simp only [List.cons_append, List.nil_append, List.forall_mem_cons]
  exact ⟨by decide, by decide, by decide, by decide, by decide, by decide, by decide, plain⟩

/-- A canonical form is valid, and its own canonical form. -/
theorem Valid.canonical {raw : CodePoints} (valid : Valid numbers now raw) :
    Valid numbers now (canonicalForm raw) ∧
      canonicalForm (canonicalForm raw) = canonicalForm raw := by
  have jwt := valid.token.jwt
  have same : removeScheme (strip (canonicalForm raw)) = removeScheme (strip raw) := by
    rw [canonicalForm, strip_canonical jwt, removeScheme_append]
  constructor
  · constructor
    · have plain := plain_canonical jwt
      rintro (lineFeed | carriageReturn)
      · exact absurd (plain 10 lineFeed).1 (by decide)
      · exact absurd (plain 13 carriageReturn).1 (by decide)
    · rw [same]
      exact valid.token
  · rw [canonicalForm, same]
    rfl

/-! ## Accounts -/

/-- Nothing of a segment is dropped before it is decoded. -/
theorem urlsafeB64decode_padded {segment : CodePoints}
    (letters : ∀ code ∈ segment, isWordCode code = true) :
    urlsafeB64decode (padded segment) = segmentBytes segment := by
  have kept : ∀ code ∈ padded segment, ((sextet code).isSome || code == 61) = true := by
    intro code member
    rw [padded, List.mem_append] at member
    cases member with
    | inl member =>
        have word := letters code member
        simp only [isWordCode, Bool.or_eq_true, Bool.and_eq_true, decide_eq_true_eq,
          beq_iff_eq] at word
        have some : (sextet code).isSome = true := by
          unfold sextet
          repeat' split
          all_goals first | rfl | omega
        simp [some]
    | inr member => simp [List.eq_of_mem_replicate member]
  rw [urlsafeB64decode, List.filter_eq_self.mpr kept]
  rfl

/-- Both validators read the same payload of a canonical authorization, a dictionary. -/
theorem Accepts.payload {token : CodePoints} (accepts : Accepts numbers now token) :
    ∃ payload, isDict payload = true ∧
      writtenPayload numbers (scheme ++ token) = some payload ∧
      ((scheme ++ token).splitOn 46)[1]?.bind (decodeSzwJwtSegment numbers) = some payload := by
  obtain ⟨header, segment, signature, segments⟩ := (isJwt_iff token).mp accepts.jwt
  have parts := splitOn_segments [] (by simp) segments
  have whole := splitOn_segments scheme (by decide) segments
  rw [List.nil_append, List.nil_append] at parts
  obtain ⟨expiresAt, expiry, -⟩ := accepts.expiry
  rw [readExpiry, parts] at expiry
  simp only [Option.bind_eq_bind, Option.bind_eq_some_iff, Option.ite_none_right_eq_some] at expiry
  obtain ⟨-, -, payload, read, -, isPayload, -⟩ := expiry
  have letters := (segments.2 segment (by simp)).2
  refine ⟨payload, isPayload, ?_, ?_⟩
  · rw [writtenPayload, removeScheme_append, parts]
    simpa [urlsafeB64decode_padded letters, decodeSzwJwtSegment] using read
  · rw [whole]
    simpa using read

/-- The accounts of a canonical authorization. -/
def accountsOf (numbers : Numbers Number Time) (authorization : CodePoints) : List CodePoints :=
  ((writtenPayload numbers authorization).map (identities ["openid", "sub"])).getD []

/-- Every authorization has an account, and none has one of those before it. -/
def Apart (numbers : Numbers Number Time) (seen : List CodePoints) : List CodePoints → Prop
  | [] => True
  | authorization :: rest =>
      accountsOf numbers authorization ≠ [] ∧
        (∀ account ∈ accountsOf numbers authorization, account ∉ seen) ∧
        Apart numbers (seen ++ accountsOf numbers authorization) rest

/-- The order in which the fields are looked up does not matter. -/
theorem identities_perm (payload : Json Number) :
    (identities ["sub", "openid"] payload).Perm (identities ["openid", "sub"] payload) :=
  List.Perm.filterMap _ (List.Perm.swap "openid" "sub" [])

/-- The writer's loop accepts accounts that are apart. -/
theorem checkAccounts_ok_iff {authorizations : List CodePoints}
    (accepted : ∀ authorization ∈ authorizations,
      ∃ token, Accepts numbers now token ∧ authorization = scheme ++ token)
    (seen : List CodePoints) :
    checkAccounts numbers seen authorizations = .ok () ↔ Apart numbers seen authorizations := by
  induction authorizations generalizing seen with
  | nil => simp [checkAccounts, Apart]
  | cons authorization rest ih =>
      obtain ⟨token, accepts, rfl⟩ := accepted authorization List.mem_cons_self
      obtain ⟨payload, isPayload, written, -⟩ := accepts.payload
      have others := ih fun other member => accepted other (List.mem_cons_of_mem _ member)
      have accounts : accountsOf numbers (scheme ++ token) =
          identities ["openid", "sub"] payload := by
        rw [accountsOf, written]
        rfl
      rw [checkAccounts, written, Apart, accounts, ← others]
      dsimp only
      rw [if_pos isPayload]
      split
      · next empty => simp [empty]
      · next nonempty =>
          split
          · next shared =>
              simp only [List.any_eq_true, List.contains_iff_mem] at shared
              obtain ⟨account, member, before⟩ := shared
              exact ⟨fun same => (nomatch same),
                fun apart => absurd before (apart.2.1 account member)⟩
          · next unshared =>
              simp only [List.any_eq_true, List.contains_iff_mem, not_exists, not_and] at unshared
              exact ⟨fun checked => ⟨nonempty, unshared, checked⟩, fun apart => apart.2.2⟩

/-- One turn of the reader's loop. -/
theorem readAccounts_cons {raw : CodePoints} (valid : Valid numbers now raw)
    (authorizations identifiers : List CodePoints) (items : List (Json Number)) :
    ∃ found, (∀ account, account ∈ found ↔ account ∈ accountsOf numbers (canonicalForm raw)) ∧
      readAccounts numbers now authorizations identifiers (.str raw :: items) =
        if found = [] then .error .noIdentity
        else if found.any identifiers.contains = true ∨ canonicalForm raw ∈ authorizations then
          .error .sameAccount
        else
          readAccounts numbers now (authorizations ++ [canonicalForm raw]) (identifiers ++ found)
            items := by
  obtain ⟨payload, isPayload, written, decoded⟩ := valid.token.payload
  have validated : validateSzwAuthorization numbers now (.str raw) = .ok (canonicalForm raw) :=
    validateSzwAuthorization_ok_iff.mpr ⟨raw, rfl, valid, rfl⟩
  have read : ((canonicalForm raw).splitOn 46)[1]?.bind (decodeSzwJwtSegment numbers) =
      some payload := decoded
  refine ⟨identities ["sub", "openid"] payload, ?_, ?_⟩
  · intro account
    rw [accountsOf, canonicalForm, written]
    exact (identities_perm payload).mem_iff
  · rw [readAccounts, validated]
    simp only [bind, Except.bind, read]
    rw [if_pos isPayload]

/-- The reader's loop accepts valid texts whose accounts are apart. -/
theorem readAccounts_ok_iff {items : List (Json Number)}
    {authorizations seen identifiers result : List CodePoints}
    (same : ∀ account, account ∈ identifiers ↔ account ∈ seen)
    (covered : ∀ authorization ∈ authorizations, accountsOf numbers authorization ≠ [] ∧
      ∀ account ∈ accountsOf numbers authorization, account ∈ seen) :
    readAccounts numbers now authorizations identifiers items = .ok result ↔
      ∃ read, List.Forall₂ (fun item authorization =>
          validateSzwAuthorization numbers now item = .ok authorization) items read ∧
        Apart numbers seen read ∧ result = authorizations ++ read := by
  induction items generalizing authorizations seen identifiers with
  | nil => simp [readAccounts, Apart, eq_comm]
  | cons item items ih =>
      simp only [List.forall₂_cons_left_iff]
      cases validated : validateSzwAuthorization numbers now item with
      | error fault =>
          rw [readAccounts, validated]
          refine ⟨fun same => (nomatch same), ?_⟩
          rintro ⟨_, ⟨_, _, first, -⟩, -⟩
          cases first
      | ok authorization =>
          obtain ⟨raw, rfl, valid, rfl⟩ := validateSzwAuthorization_ok_iff.mp validated
          obtain ⟨found, members, turn⟩ :=
            readAccounts_cons valid authorizations identifiers items
          rw [turn]
          by_cases empty : found = []
          · rw [if_pos empty]
            refine ⟨fun same => (nomatch same), ?_⟩
            rintro ⟨_, ⟨_, rest, first, -, rfl⟩, apart, -⟩
            cases first
            obtain ⟨account, member⟩ := List.exists_mem_of_ne_nil _ apart.1
            rw [← members, empty] at member
            cases member
          · rw [if_neg empty]
            by_cases shared : found.any identifiers.contains = true ∨
                canonicalForm raw ∈ authorizations
            · rw [if_pos shared]
              refine ⟨fun same => (nomatch same), ?_⟩
              rintro ⟨_, ⟨_, rest, first, -, rfl⟩, apart, -⟩
              cases first
              cases shared with
              | inl shared =>
                  simp only [List.any_eq_true, List.contains_iff_mem] at shared
                  obtain ⟨account, member, before⟩ := shared
                  exact absurd ((same account).mp before)
                    (apart.2.1 account ((members account).mp member))
              | inr before =>
                  obtain ⟨account, member⟩ := List.exists_mem_of_ne_nil _ apart.1
                  exact absurd ((covered _ before).2 account member) (apart.2.1 account member)
            · rw [if_neg shared]
              rw [not_or] at shared
              simp only [List.any_eq_true, List.contains_iff_mem, not_exists, not_and] at shared
              have nonempty : accountsOf numbers (canonicalForm raw) ≠ [] := by
                obtain ⟨account, member⟩ := List.exists_mem_of_ne_nil _ empty
                exact List.ne_nil_of_mem ((members account).mp member)
              have unseen : ∀ account ∈ accountsOf numbers (canonicalForm raw), account ∉ seen :=
                fun account member before => shared.1 account ((members account).mpr member)
                  ((same account).mpr before)
              have grown : ∀ account, account ∈ identifiers ++ found ↔
                  account ∈ seen ++ accountsOf numbers (canonicalForm raw) := by
                intro account
                rw [List.mem_append, List.mem_append, same, members]
              have coveredNow : ∀ authorization ∈ authorizations ++ [canonicalForm raw],
                  accountsOf numbers authorization ≠ [] ∧
                    ∀ account ∈ accountsOf numbers authorization,
                      account ∈ seen ++ accountsOf numbers (canonicalForm raw) := by
                intro authorization member
                rw [List.mem_append, List.mem_singleton] at member
                cases member with
                | inl member =>
                    exact ⟨(covered authorization member).1, fun account found =>
                      List.mem_append_left _ ((covered authorization member).2 account found)⟩
                | inr here =>
                    subst here
                    exact ⟨nonempty, fun account found => List.mem_append_right _ found⟩
              rw [ih grown coveredNow]
              constructor
              · rintro ⟨rest, each, apart, rfl⟩
                exact ⟨canonicalForm raw :: rest, ⟨_, rest, rfl, each, rfl⟩,
                  ⟨nonempty, unseen, apart⟩, by simp⟩
              · rintro ⟨_, ⟨_, rest, first, each, rfl⟩, apart, rfl⟩
                cases first
                exact ⟨rest, each, apart.2.2, by simp⟩

/-! ## The pools -/

theorem allTexts_eq_some {items : List (Json Number)} {texts : List CodePoints} :
    allTexts items = some texts ↔ items = texts.map .str := by
  induction items generalizing texts with
  | nil => cases texts <;> simp [allTexts]
  | cons item items ih =>
      cases item with
      | str text =>
          cases texts with
          | nil => simp [allTexts]
          | cons first rest => simp [allTexts, ih, and_comm]
      | _ => cases texts <;> simp [allTexts]

/-- The canonical forms of texts that the writer accepts. -/
theorem forall₂_canonical {texts authorizations : List CodePoints} :
    List.Forall₂ (fun text authorization =>
        validatedAuthorization numbers now text = .ok authorization) texts authorizations ↔
      (∀ text ∈ texts, text.length ≤ maxAuthorizationLength ∧ Valid numbers now text) ∧
        authorizations = texts.map canonicalForm := by
  simp only [validatedAuthorization_ok_iff]
  induction texts generalizing authorizations with
  | nil => simp
  | cons text texts ih =>
      rw [List.forall₂_cons_left_iff]
      simp only [ih, List.forall_mem_cons, List.map_cons]
      constructor
      · rintro ⟨_, _, ⟨short, valid, rfl⟩, ⟨all, rfl⟩, rfl⟩
        exact ⟨⟨⟨short, valid⟩, all⟩, rfl⟩
      · rintro ⟨⟨⟨short, valid⟩, all⟩, rfl⟩
        exact ⟨_, _, ⟨short, valid, rfl⟩, ⟨all, rfl⟩, rfl⟩

/-- The items that the reader accepts are valid texts. -/
theorem forall₂_read {items : List (Json Number)} {authorizations : List CodePoints} :
    List.Forall₂ (fun item authorization =>
        validateSzwAuthorization numbers now item = .ok authorization) items authorizations ↔
      ∃ texts : List CodePoints, items = texts.map .str ∧
        (∀ text ∈ texts, Valid numbers now text) ∧ authorizations = texts.map canonicalForm := by
  simp only [validateSzwAuthorization_ok_iff]
  constructor
  · intro each
    induction each with
    | nil => exact ⟨[], by simp⟩
    | cons first rest ih =>
        obtain ⟨raw, rfl, valid, rfl⟩ := first
        obtain ⟨texts, rfl, all, rfl⟩ := ih
        exact ⟨raw :: texts, rfl, List.forall_mem_cons.mpr ⟨valid, all⟩, rfl⟩
  · rintro ⟨texts, rfl, all, rfl⟩
    rw [List.forall₂_map_left_iff, List.forall₂_map_right_iff, List.forall₂_same]
    exact fun text member => ⟨text, rfl, all text member, rfl⟩

/-- Accounts of valid texts are checked by comparing them. -/
theorem checkAccounts_canonical {texts : List CodePoints}
    (valid : ∀ text ∈ texts, Valid numbers now text) :
    checkAccounts numbers [] (texts.map canonicalForm) = .ok () ↔
      Apart numbers [] (texts.map canonicalForm) := by
  have accepted : ∀ authorization ∈ texts.map canonicalForm,
      ∃ token, Accepts numbers now token ∧ authorization = scheme ++ token := by
    intro authorization member
    obtain ⟨text, inTexts, rfl⟩ := List.mem_map.mp member
    exact ⟨_, (valid text inTexts).token, rfl⟩
  exact checkAccounts_ok_iff accepted []

/-- The part of `validated_pool` behind the reading of the list. -/
theorem poolOfTexts_ok_iff {texts : List CodePoints} {canonical : CodePoints} :
    (do
        let authorizations ← texts.mapM (validatedAuthorization numbers now)
        checkAccounts numbers [] authorizations
        .ok (Json.dumps authorizations)) = Except.ok canonical ↔
      (∀ text ∈ texts, text.length ≤ maxAuthorizationLength ∧ Valid numbers now text) ∧
        Apart numbers [] (texts.map canonicalForm) ∧
        canonical = Json.dumps (texts.map canonicalForm) := by
  cases each : texts.mapM (validatedAuthorization numbers now) with
  | error fault =>
      refine ⟨fun same => (nomatch same), ?_⟩
      rintro ⟨all, -⟩
      have found := mapM_ok_iff.mpr (forall₂_canonical.mpr ⟨all, rfl⟩)
      rw [each] at found
      cases found
  | ok authorizations =>
      obtain ⟨all, rfl⟩ := forall₂_canonical.mp (mapM_ok_iff.mp each)
      have apart := checkAccounts_canonical fun text member => (all text member).2
      rw [← apart]
      change (checkAccounts numbers [] (texts.map canonicalForm) >>= _) = _ ↔ _
      cases checked : checkAccounts numbers [] (texts.map canonicalForm) with
      | error fault => exact ⟨fun same => (nomatch same), fun both => (nomatch both.2.1)⟩
      | ok passed =>
          exact ⟨fun same => ⟨all, rfl, (Except.ok.inj same).symm⟩,
            fun both => both.2.2 ▸ rfl⟩

/-- The writer accepts a pool of three valid texts that are not too long and whose accounts are
apart. -/
theorem validatedPool_ok_iff {raw canonical : CodePoints} :
    validatedPool numbers now raw = .ok canonical ↔
      raw.length ≤ maxPoolLength ∧ ∃ texts : List CodePoints, Json.loads numbers.toNumerals raw =
          some (.list (texts.map .str)) ∧ texts.length = accountCount ∧
        (∀ text ∈ texts, text.length ≤ maxAuthorizationLength ∧ Valid numbers now text) ∧
        Apart numbers [] (texts.map canonicalForm) ∧
        canonical = Json.dumps (texts.map canonicalForm) := by
  rw [validatedPool]
  by_cases missing : raw = [] ∨ maxPoolLength < raw.length
  · rw [if_pos missing]
    refine ⟨fun same => (nomatch same), ?_⟩
    rintro ⟨short, texts, loaded, -⟩
    have empty := missing.resolve_right (by omega)
    rw [empty] at loaded
    cases loaded
  · rw [if_neg missing]
    have short : raw.length ≤ maxPoolLength := by omega
    simp only [short, true_and]
    cases loaded : Json.loads numbers.toNumerals raw with
    | none => simp
    | some value =>
        cases value with
        | list items =>
            dsimp only
            cases found : allTexts items with
            | none =>
                refine ⟨fun same => (nomatch same), ?_⟩
                rintro ⟨texts, same, -⟩
                have all : allTexts items = some texts :=
                  allTexts_eq_some.mpr (Json.list.inj (Option.some.inj same))
                rw [found] at all
                cases all
            | some texts =>
                have items_eq := allTexts_eq_some.mp found
                subst items_eq
                have unique : ∀ others : List CodePoints,
                    (some (.list (texts.map .str)) : Option (Json Number)) =
                      some (.list (others.map .str)) ↔ texts = others := by
                  intro others
                  have injective : Function.Injective (List.map (Json.str : _ → Json Number)) :=
                    List.map_injective_iff.mpr fun _ _ same => Json.str.inj same
                  exact ⟨fun same => injective (Json.list.inj (Option.some.inj same)),
                    fun same => same ▸ rfl⟩
                simp only [unique, exists_eq_left']
                by_cases three : texts.length = accountCount
                · rw [if_pos three]
                  simp only [three, true_and]
                  exact poolOfTexts_ok_iff
                · rw [if_neg three]
                  simp [three]
        | _ => simp

/-- The reader accepts a pool of three valid texts whose accounts are apart. -/
theorem validateSzwAuthorizationPool_ok_iff {value : CodePoints} {result : List CodePoints} :
    validateSzwAuthorizationPool numbers now value = .ok result ↔
      ∃ texts : List CodePoints, Json.loads numbers.toNumerals value =
          some (.list (texts.map .str)) ∧ texts.length = crlandAuthorizationPoolSize ∧
        (∀ text ∈ texts, Valid numbers now text) ∧
        Apart numbers [] (texts.map canonicalForm) ∧ result = texts.map canonicalForm := by
  have accounts := fun items => @readAccounts_ok_iff Number Time numbers now items [] [] [] result
    (by simp) (by simp)
  rw [validateSzwAuthorizationPool]
  cases loaded : Json.loads numbers.toNumerals value with
  | none => simp
  | some pool =>
      cases pool with
      | list items =>
          dsimp only
          by_cases three : items.length = crlandAuthorizationPoolSize
          · rw [if_pos three, accounts]
            simp only [forall₂_read, List.nil_append]
            constructor
            · rintro ⟨_, ⟨texts, rfl, valid, rfl⟩, apart, rfl⟩
              exact ⟨texts, rfl, by simpa using three, valid, apart, rfl⟩
            · rintro ⟨texts, same, -, valid, apart, rfl⟩
              exact ⟨_, ⟨texts, Json.list.inj (Option.some.inj same), valid, rfl⟩, apart, rfl⟩
          · rw [if_neg three]
            refine ⟨fun same => (nomatch same), ?_⟩
            rintro ⟨texts, same, count, -⟩
            rw [Json.list.inj (Option.some.inj same), List.length_map] at three
            exact absurd count three
      | _ => simp

/-! ### A pool of three tokens -/

/-- Integers that are read without any limit. -/
def wholeNumbers : Numbers Int Int where
  literal text := some (text.foldl (fun value code => 10 * value + (code - 48)) 0)
  nan := 0
  infinity := 0
  minusInfinity := 0
  isfinite _ := true
  atMost number now := number ≤ now

/-- The segment of blanks, three for each group of four characters. -/
def blankGroups (count : Nat) : CodePoints :=
  (List.replicate count (codePoints "ICAg")).flatten

/-- A bare token of an account, with blanks behind its payload. -/
def sampleToken (segment : CodePoints) (blanks : Nat) : CodePoints :=
  codePoints "eyJhbGciOiJIUzI1NiJ9" ++
    46 :: ((segment ++ blankGroups blanks) ++ 46 :: List.replicate 43 65)

theorem b64decode_blankGroups (count : Nat) :
    b64decode (blankGroups count) = some (List.replicate (3 * count) 32) := by
  induction count with
  | zero => rfl
  | succ count ih =>
      have unfolded : blankGroups (count + 1) = 73 :: 67 :: 65 :: 103 :: blankGroups count := by
        rw [blankGroups, List.replicate_succ, List.flatten_cons]
        rfl
      have first : sextet 73 = some 8 := by decide
      have second : sextet 67 = some 2 := by decide
      have third : sextet 65 = some 0 := by decide
      have fourth : sextet 103 = some 32 := by decide
      rw [unfolded, b64decode_group first second third fourth, ih]
      rfl

/-- The payload of an account. -/
def samplePayload (account : CodePoints) : Json Int :=
  .dict [(codePoints "exp", .number 4000000000), (codePoints "sub", .str account)]

/-- The segment is the payload of the account in base64, without padding. -/
structure SampleSegment (segment account : CodePoints) : Prop where
  word : segment ≠ [] ∧ ∀ code ∈ segment, isWordCode code = true
  groups : segment.length % 4 = 0
  read : ∃ bytes, b64decode segment = some bytes ∧ (∀ byte ∈ bytes, byte < 0x80) ∧
    Json.runFrom wholeNumbers.toNumerals Json.start bytes =
      some ⟨[], .done (samplePayload account)⟩

def firstSegment : CodePoints :=
  codePoints "eyJleHAiOjQwMDAwMDAwMDAsInN1YiI6ImFiYyJ9"

def secondSegment : CodePoints :=
  codePoints "eyJleHAiOjQwMDAwMDAwMDAsInN1YiI6ImFiZCJ9"

def thirdSegment : CodePoints :=
  codePoints "eyJleHAiOjQwMDAwMDAwMDAsInN1YiI6ImFiZSJ9"

theorem firstSegment_sample : SampleSegment firstSegment (codePoints "abc") where
  word := by decide
  groups := by decide
  read := ⟨codePoints "\x7b\"exp\":4000000000,\"sub\":\"abc\"\x7d", by decide,
    by decide, rfl⟩

theorem secondSegment_sample : SampleSegment secondSegment (codePoints "abd") where
  word := by decide
  groups := by decide
  read := ⟨codePoints "\x7b\"exp\":4000000000,\"sub\":\"abd\"\x7d", by decide,
    by decide, rfl⟩

theorem thirdSegment_sample : SampleSegment thirdSegment (codePoints "abe") where
  word := by decide
  groups := by decide
  read := ⟨codePoints "\x7b\"exp\":4000000000,\"sub\":\"abe\"\x7d", by decide,
    by decide, rfl⟩

theorem blankGroups_letters (count : Nat) :
    ∀ code ∈ blankGroups count, isWordCode code = true := by
  intro code member
  obtain ⟨group, isGroup, inGroup⟩ := List.mem_flatten.mp member
  rw [List.eq_of_mem_replicate isGroup] at inGroup
  have all : ∀ code ∈ codePoints "ICAg", isWordCode code = true := by decide
  exact all code inGroup

theorem length_blankGroups (count : Nat) : (blankGroups count).length = 4 * count := by
  induction count with
  | zero => rfl
  | succ count ih =>
      rw [blankGroups, List.replicate_succ, List.flatten_cons, List.length_append]
      rw [blankGroups] at ih
      rw [ih]
      change 4 + 4 * count = 4 * (count + 1)
      omega

/-- The token stands without blanks and without a scheme. -/
theorem removeScheme_sampleToken (segment : CodePoints) (blanks : Nat) :
    removeScheme (strip (sampleToken segment blanks)) = sampleToken segment blanks := by
  have ends : sampleToken segment blanks = 101 :: ((codePoints "yJhbGciOiJIUzI1NiJ9" ++
      46 :: ((segment ++ blankGroups blanks) ++ 46 :: List.replicate 42 65)) ++ [65]) := by
    simp only [sampleToken, List.append_assoc, List.cons_append]
    rfl
  have stripped : strip (sampleToken segment blanks) = sampleToken segment blanks := by
    rw [ends]
    exact strip_of_ends (by decide) (by decide)
  rw [stripped, removeScheme, if_neg]
  rw [ends, scheme_codes]
  simp

namespace SampleSegment

variable {segment account : CodePoints}

theorem segments (sample : SampleSegment segment account) (blanks : Nat) :
    Segments (sampleToken segment blanks) (codePoints "eyJhbGciOiJIUzI1NiJ9")
      (segment ++ blankGroups blanks) (List.replicate 43 65) := by
  refine ⟨rfl, ?_⟩
  simp only [List.forall_mem_cons]
  refine ⟨by decide, ⟨?_, ?_⟩, by decide, by simp⟩
  · simp [sample.word.1]
  · intro code member
    rw [List.mem_append] at member
    exact member.elim (sample.word.2 code) (blankGroups_letters blanks code)

theorem jwt (sample : SampleSegment segment account) (blanks : Nat) :
    isJwt (sampleToken segment blanks) = true :=
  (isJwt_iff _).mpr ⟨_, _, _, sample.segments blanks⟩

/-- The payload is read, whatever the number of blanks behind it. -/
theorem payload (sample : SampleSegment segment account) (blanks : Nat) :
    (segmentBytes (segment ++ blankGroups blanks)).bind (jsonOfBytes wholeNumbers) =
      some (samplePayload account) := by
  obtain ⟨bytes, decoded, ascii, read⟩ := sample.read
  have whole : (segment ++ blankGroups blanks).length % 4 = 0 := by
    rw [List.length_append, length_blankGroups]
    have groups := sample.groups
    omega
  have unpadded : padded (segment ++ blankGroups blanks) = segment ++ blankGroups blanks := by
    rw [padded, whole]
    simp
  have bits : ∀ code ∈ segment, (sextet code).isSome = true := by
    intro code member
    have word := sample.word.2 code member
    simp only [isWordCode, Bool.or_eq_true, Bool.and_eq_true, decide_eq_true_eq,
      beq_iff_eq] at word
    unfold sextet
    repeat' split
    all_goals first | rfl | omega
  have blank : ∀ code ∈ List.replicate (3 * blanks) 32, Json.isBlank code = true := by
    intro code member
    rw [List.eq_of_mem_replicate member]
    rfl
  have codes : utf8decode (bytes ++ List.replicate (3 * blanks) 32) =
      some (bytes ++ List.replicate (3 * blanks) 32) := by
    apply utf8decode_ascii
    intro byte member
    rw [List.mem_append] at member
    cases member with
    | inl member => exact ascii byte member
    | inr member =>
        rw [List.eq_of_mem_replicate member]
        decide
  rw [segmentBytes, unpadded, b64decode_append _ bits decoded, b64decode_blankGroups,
    Option.map_some, Option.bind_some, jsonOfBytes, codes, Option.bind_some]
  exact Json.loads_blanks read blank

theorem valid (sample : SampleSegment segment account) (blanks : Nat) :
    Valid wholeNumbers 0 (sampleToken segment blanks) where
  oneLine := by
    have plain := plain_of_jwt (sample.jwt blanks)
    rintro (lineFeed | carriageReturn)
    · exact absurd (plain 10 lineFeed).1 (by decide)
    · exact absurd (plain 13 carriageReturn).1 (by decide)
  token := by
    rw [removeScheme_sampleToken]
    refine ⟨sample.jwt blanks, 4000000000, ?_, by decide⟩
    have parts := splitOn_segments [] (by simp) (sample.segments blanks)
    rw [List.nil_append, List.nil_append] at parts
    have header : decodeSzwJwtSegment wholeNumbers (codePoints "eyJhbGciOiJIUzI1NiJ9") =
        some (.dict [(codePoints "alg", .str (codePoints "HS256"))]) := rfl
    have signature : segmentBytes (List.replicate 43 65) = some (List.replicate 32 0) := by
      decide
    have payload : decodeSzwJwtSegment wholeNumbers (segment ++ blankGroups blanks) =
        some (samplePayload account) := sample.payload blanks
    rw [readExpiry, parts]
    dsimp only
    rw [header, payload, signature]
    rfl

/-- Its only account. -/
theorem accountsOf (sample : SampleSegment segment account) (blanks : Nat)
    (visible : strip account = account ∧ account ≠ []) :
    accountsOf wholeNumbers (Credentials.canonicalForm (sampleToken segment blanks)) =
      [account] := by
  have parts := splitOn_segments [] (by simp) (sample.segments blanks)
  rw [List.nil_append, List.nil_append] at parts
  have letters := ((sample.segments blanks).2 (segment ++ blankGroups blanks) (by simp)).2
  have written : writtenPayload wholeNumbers (scheme ++ sampleToken segment blanks) =
      some (samplePayload account) := by
    rw [writtenPayload, removeScheme_append, parts]
    simpa [urlsafeB64decode_padded letters] using sample.payload blanks
  rw [Credentials.accountsOf, Credentials.canonicalForm, removeScheme_sampleToken, written]
  have openid : (samplePayload account).get (codePoints "openid") = none := rfl
  have sub : (samplePayload account).get (codePoints "sub") = some (.str account) := rfl
  simp [identities, openid, sub, visible.1, visible.2]

end SampleSegment

/-- A pool of three tokens, with blanks behind the payload of the first one. -/
def samplePool (blanks : Nat) : List CodePoints :=
  [sampleToken firstSegment blanks, sampleToken secondSegment 0, sampleToken thirdSegment 0]

theorem samplePool_valid (blanks : Nat) :
    ∀ token ∈ samplePool blanks, Valid wholeNumbers 0 token := by
  simp only [samplePool, List.forall_mem_cons]
  exact ⟨firstSegment_sample.valid blanks, secondSegment_sample.valid 0,
    thirdSegment_sample.valid 0, by simp⟩

theorem samplePool_plain (blanks : Nat) :
    ∀ token ∈ samplePool blanks, ∀ code ∈ token, Json.Plain code := by
  simp only [samplePool, List.forall_mem_cons]
  exact ⟨plain_of_jwt (firstSegment_sample.jwt blanks), plain_of_jwt (secondSegment_sample.jwt 0),
    plain_of_jwt (thirdSegment_sample.jwt 0), by simp⟩

theorem samplePool_apart (blanks : Nat) :
    Apart wholeNumbers [] ((samplePool blanks).map canonicalForm) := by
  have first := firstSegment_sample.accountsOf blanks (by decide)
  have second := secondSegment_sample.accountsOf 0 (by decide)
  have third := thirdSegment_sample.accountsOf 0 (by decide)
  simp only [samplePool, List.map_cons, List.map_nil, Apart, first, second, third]
  decide

/-! ## The agreement -/

/-- What the writer makes of a pool, the reader takes, and the other way round for texts and
strings that are not too long. -/
structure Agree (numbers : Numbers Number Time) (now : Time) : Prop where
  reads : ∀ raw canonical, validatedPool numbers now raw = .ok canonical →
    ∃ authorizations : List CodePoints, authorizations.length = 3 ∧
      Json.loads numbers.toNumerals canonical = some (.list (authorizations.map .str)) ∧
      validateSzwAuthorizationPool numbers now canonical = .ok authorizations
  writes : ∀ value authorizations, value.length ≤ maxPoolLength →
    (∀ items text, Json.loads numbers.toNumerals value = some (.list items) →
      .str text ∈ items → text.length ≤ maxAuthorizationLength) →
    validateSzwAuthorizationPool numbers now value = .ok authorizations →
    ∃ canonical, validatedPool numbers now value = .ok canonical ∧
      Json.loads numbers.toNumerals canonical = some (.list (authorizations.map .str))

/-- Canonical forms of valid texts are read back from JSON. -/
theorem loads_canonical {texts : List CodePoints}
    (valid : ∀ text ∈ texts, Valid numbers now text) :
    Json.loads numbers.toNumerals (Json.dumps (texts.map canonicalForm)) =
      some (.list ((texts.map canonicalForm).map .str)) := by
  apply Json.loads_dumps
  intro authorization member
  obtain ⟨text, inTexts, rfl⟩ := List.mem_map.mp member
  exact plain_canonical (valid text inTexts).token.jwt

/-- Canonical forms are their own canonical forms. -/
theorem map_canonicalForm {texts : List CodePoints}
    (valid : ∀ text ∈ texts, Valid numbers now text) :
    (texts.map canonicalForm).map canonicalForm = texts.map canonicalForm := by
  rw [List.map_map]
  apply List.map_congr_left
  exact fun text member => (valid text member).canonical.2

theorem valid_canonical {texts : List CodePoints}
    (valid : ∀ text ∈ texts, Valid numbers now text) :
    ∀ text ∈ texts.map canonicalForm, Valid numbers now text := by
  intro authorization member
  obtain ⟨text, inTexts, rfl⟩ := List.mem_map.mp member
  exact (valid text inTexts).canonical.1

/-- The writer and the reader of the credential pool agree. -/
theorem credentials_agree (numbers : Numbers Number Time) (now : Time) : Agree numbers now where
  reads := by
    intro raw canonical written
    obtain ⟨-, texts, -, three, all, apart, rfl⟩ := validatedPool_ok_iff.mp written
    have valid := fun text member => (all text member).2
    have count : (texts.map canonicalForm).length = 3 := by rw [List.length_map, three]; rfl
    refine ⟨texts.map canonicalForm, count, loads_canonical valid, ?_⟩
    rw [validateSzwAuthorizationPool_ok_iff]
    refine ⟨texts.map canonicalForm, loads_canonical valid, count, valid_canonical valid, ?_,
      (map_canonicalForm valid).symm⟩
    rw [map_canonicalForm valid]
    exact apart
  writes := by
    intro value authorizations short strings read
    obtain ⟨texts, loaded, three, valid, apart, rfl⟩ :=
      validateSzwAuthorizationPool_ok_iff.mp read
    refine ⟨Json.dumps (texts.map canonicalForm), ?_, loads_canonical valid⟩
    rw [validatedPool_ok_iff]
    refine ⟨short, texts, loaded, three, fun text member => ⟨?_, valid text member⟩, apart, rfl⟩
    exact strings _ text loaded (List.mem_map_of_mem member)

/-- The writer takes the pool, the reader takes what it writes, and both take the texts. -/
theorem samplePool_agree :
    (∃ authorizations : List CodePoints, authorizations.length = 3 ∧
      Json.loads wholeNumbers.toNumerals (Json.dumps ((samplePool 0).map canonicalForm)) =
        some (.list (authorizations.map .str)) ∧
      validateSzwAuthorizationPool wholeNumbers 0
        (Json.dumps ((samplePool 0).map canonicalForm)) = .ok authorizations) ∧
    ∃ canonical, validatedPool wholeNumbers 0 (Json.dumps (samplePool 0)) = .ok canonical ∧
      Json.loads wholeNumbers.toNumerals canonical =
        some (.list (((samplePool 0).map canonicalForm).map .str)) := by
  have loaded : Json.loads wholeNumbers.toNumerals (Json.dumps (samplePool 0)) =
      some (.list ((samplePool 0).map .str)) := Json.loads_dumps (samplePool_plain 0)
  have short : ∀ token ∈ samplePool 0, token.length ≤ maxAuthorizationLength := by decide
  have fits : (Json.dumps (samplePool 0)).length ≤ maxPoolLength := by decide +kernel
  have written : validatedPool wholeNumbers 0 (Json.dumps (samplePool 0)) =
      .ok (Json.dumps ((samplePool 0).map canonicalForm)) :=
    validatedPool_ok_iff.mpr ⟨fits, samplePool 0, loaded, rfl,
      fun token member => ⟨short token member, samplePool_valid 0 token member⟩,
      samplePool_apart 0, rfl⟩
  have read : validateSzwAuthorizationPool wholeNumbers 0 (Json.dumps (samplePool 0)) =
      .ok ((samplePool 0).map canonicalForm) :=
    validateSzwAuthorizationPool_ok_iff.mpr ⟨samplePool 0, loaded, rfl, samplePool_valid 0,
      samplePool_apart 0, rfl⟩
  have agree := credentials_agree wholeNumbers 0
  refine ⟨agree.reads _ _ written, agree.writes _ _ fits ?_ read⟩
  intro items text same member
  rw [loaded] at same
  cases same
  obtain ⟨token, inPool, found⟩ := List.mem_map.mp member
  cases found
  exact short _ inPool

end

end TennisAlerts.Credentials
