import Mathlib.Data.List.Basic
import Mathlib.Data.List.TakeDrop
import Mathlib.Data.List.TakeWhile
import Mathlib.Data.List.Infix
import Mathlib.Data.List.DropRight

/-!
# Paths of URLs

Three readers of one path: Python's `urlsplit`, Python's `unquote`, and the path
parser of the WHATWG URL standard.  A text is a list of characters.  What `unquote`
decodes is a list of bytes, each as the character with its number, since an ASCII text
is spelled by the same bytes in every decoding of them.
-/

namespace TennisAlerts.Text

/-! ## Percent-escapes -/

def hexDigitValue (digit : Char) : Option Nat :=
  if '0' ≤ digit ∧ digit ≤ '9' then some (digit.toNat - 48)
  else if 'a' ≤ digit ∧ digit ≤ 'f' then some (digit.toNat - 87)
  else if 'A' ≤ digit ∧ digit ≤ 'F' then some (digit.toNat - 55)
  else none

/-- `unquote`: an escape without two hexadecimal digits stays. -/
def unquote : List Char → List Char
  | [] => []
  | '%' :: first :: second :: rest =>
      match hexDigitValue first, hexDigitValue second with
      | some high, some low => Char.ofNat (16 * high + low) :: unquote rest
      | _, _ => '%' :: unquote (first :: second :: rest)
  | character :: rest => character :: unquote rest

theorem unquote_cons_of_ne {character : Char} (plain : character ≠ '%') (rest : List Char) :
    unquote (character :: rest) = character :: unquote rest := by
  rw [unquote.eq_3]
  intro first second tail same _
  exact plain same

/-- A text without escapes stands for itself. -/
theorem unquote_append {text : List Char} (plain : '%' ∉ text) (rest : List Char) :
    unquote (text ++ rest) = text ++ unquote rest := by
  induction text with
  | nil => rfl
  | cons character text ih =>
      obtain ⟨different, plain⟩ := not_or.mp (mt List.mem_cons.mpr plain)
      rw [List.cons_append, unquote_cons_of_ne (Ne.symm different), ih plain, List.cons_append]

example : unquote "/a%2Fb%zz%%41%".toList = "/a/b%zz%A%".toList := by decide

/-! ## `urlsplit` -/

/-- The characters that `urlsplit` and the URL standard remove. -/
def removed (character : Char) : Bool :=
  character = '\t' || character = '\r' || character = '\n'

def endsAuthority (character : Char) : Bool :=
  character = '/' || character = '?' || character = '#'

def endsPath (character : Char) : Bool :=
  character = '?' || character = '#'

def schemeCharacter (character : Char) : Bool :=
  character.isAlphanum || character = '+' || character = '-' || character = '.'

def cleaned (text : List Char) : List Char :=
  text.filter (!removed ·)

/-- The text up to the end of the authority. -/
def authorityOf (text : List Char) : List Char :=
  text.takeWhile (!endsAuthority ·)

/-- The path of a text that starts with an authority. -/
def pathAfterAuthority (text : List Char) : List Char :=
  (text.dropWhile (!endsAuthority ·)).takeWhile (!endsPath ·)

/-- What follows the scheme. -/
def afterScheme (url : List Char) : List Char :=
  match url.dropWhile (· != ':') with
  | ':' :: rest =>
      let scheme := url.takeWhile (· != ':')
      if (scheme.head?).any Char.isAlpha && scheme.all schemeCharacter then rest else url
  | _ => url

/-- `urlsplit(url).path`, or `none` where it raises.  Which authorities it rejects is
decided by `invalid`. -/
def urlPath (invalid : List Char → Bool) (url : List Char) : Option (List Char) :=
  match afterScheme (cleaned (url.dropWhile fun character => decide (character.toNat ≤ 32))) with
  | '/' :: '/' :: rest =>
      if invalid (authorityOf rest) then none else some (pathAfterAuthority rest)
  | rest => some (rest.takeWhile (!endsPath ·))

/-- A text that starts with a slash has no scheme. -/
theorem afterScheme_slash (rest : List Char) : afterScheme ('/' :: rest) = '/' :: rest := by
  unfold afterScheme
  split
  · exact if_neg Bool.false_ne_true
  · rfl

section

theorem takeWhile_append_of_stops {test : Char → Bool} {rest : List Char}
    (stops : rest.takeWhile test = []) (text : List Char) :
    (text ++ rest).takeWhile test = text.takeWhile test := by
  induction text with
  | nil => exact stops
  | cons character text ih => rw [List.cons_append, List.takeWhile_cons, List.takeWhile_cons, ih]

/-- The authority ends before a text that starts with a slash. -/
theorem pathAfterAuthority_append {host : List Char}
    (plain : ∀ character ∈ host, endsAuthority character = false) (rest : List Char) :
    pathAfterAuthority (host ++ '/' :: rest) = ('/' :: rest).takeWhile (!endsPath ·) := by
  unfold pathAfterAuthority
  rw [List.dropWhile_append_of_pos]
  · rfl
  · intro character member
    rw [plain character member]
    rfl

theorem cleaned_append (first second : List Char) :
    cleaned (first ++ second) = cleaned first ++ cleaned second :=
  List.filter_append first second

theorem mem_cleaned {text : List Char} {character : Char} :
    character ∈ cleaned text ↔ character ∈ text ∧ removed character = false := by
  rw [cleaned, List.mem_filter, Bool.not_eq_true']

theorem cleaned_of_clean {text : List Char}
    (clean : ∀ character ∈ text, removed character = false) :
    cleaned text = text := by
  apply List.filter_eq_self.mpr
  intro character member
  rw [clean character member]
  rfl

end

/-! ## The path parser of the URL standard -/

/-- A URL without the controls and blanks at its end, which its parser removes first. -/
def withoutTrailing (url : List Char) : List Char :=
  url.rdropWhile fun character => decide (character.toNat ≤ 32)

example : withoutTrailing "/a b\u0000 ".toList = "/a b".toList := by decide

def upperHexDigit (value : Nat) : Char :=
  "0123456789ABCDEF".toList.getD value '0'

/-- The path percent-encode set. -/
def encodedInPath (character : Char) : Bool :=
  decide (character.toNat ≤ 32) || decide (126 < character.toNat) ||
    ['"', '#', '<', '>', '?', '^', '`', '\x7b', '\x7d'].contains character

/-- The query percent-encode set of a special URL. -/
def encodedInQuery (character : Char) : Bool :=
  decide (character.toNat ≤ 32) || decide (126 < character.toNat) ||
    ['"', '#', '<', '>', '\''].contains character

/-- UTF-8 percent-encoding of one character. -/
def encodeCharacter (encoded : Char → Bool) (character : Char) : List Char :=
  if encoded character then
    (String.utf8EncodeChar character).flatMap fun byte =>
      ['%', upperHexDigit (byte.toNat / 16), upperHexDigit (byte.toNat % 16)]
  else [character]

def percentEncode (encoded : Char → Bool) (text : List Char) : List Char :=
  text.flatMap (encodeCharacter encoded)

def singleDot (segment : List Char) : Bool :=
  [".".toList, "%2e".toList].contains (segment.map Char.toLower)

def doubleDot (segment : List Char) : Bool :=
  ["..".toList, ".%2e".toList, "%2e.".toList, "%2e%2e".toList].contains
    (segment.map Char.toLower)

def separates (character : Char) : Bool :=
  character = '/' || character = '\\'

/-- The segments of a path text; a backslash separates them as well. -/
def splitPath : List Char → List (List Char)
  | [] => [[]]
  | character :: rest =>
      if separates character then [] :: splitPath rest
      else
        match splitPath rest with
        | [] => [[character]]
        | segment :: segments => (character :: segment) :: segments

/-- Resolve the dot segments behind those that are there, the last one first. -/
def resolveDots : List (List Char) → List (List Char) → List (List Char)
  | resolved, [] => resolved.reverse
  | resolved, [last] =>
      if doubleDot last then ([] :: resolved.tail).reverse
      else if singleDot last then ([] :: resolved).reverse
      else (last :: resolved).reverse
  | resolved, segment :: segments =>
      if doubleDot segment then resolveDots resolved.tail segments
      else if singleDot segment then resolveDots resolved segments
      else resolveDots (segment :: resolved) segments

/-- A leading separator is skipped. -/
def pathBody : List Char → List Char
  | [] => []
  | character :: rest => if separates character then rest else character :: rest

def joinPath (segments : List (List Char)) : List Char :=
  segments.flatMap fun segment => '/' :: segment

/-- The `pathname` of a special URL with the path text. -/
def parsePath (text : List Char) : List Char :=
  joinPath (resolveDots [] ((splitPath (pathBody (cleaned text))).map
    (percentEncode encodedInPath)))

example : parsePath "/api/x/../%2E/\\a b".toList = "/api//a%20b".toList := by decide

/-! ### A parsed path is parsed to itself -/

/-- A segment that the path parser leaves alone. -/
structure Resolved (segment : List Char) : Prop where
  whole : ∀ character ∈ segment, separates character = false
  encoded : ∀ character ∈ segment, encodedInPath character = false
  single : singleDot segment = false
  double : doubleDot segment = false

theorem Resolved.of_all {segment : List Char}
    (plain : (segment.all fun letter => !separates letter && !encodedInPath letter) = true)
    (single : singleDot segment = false) (double : doubleDot segment = false) :
    Resolved segment := by
  simp only [List.all_eq_true, Bool.and_eq_true, Bool.not_eq_true'] at plain
  exact ⟨fun letter inside => (plain letter inside).1, fun letter inside => (plain letter inside).2,
    single, double⟩

theorem Resolved.nil : Resolved [] where
  whole := nofun
  encoded := nofun
  single := by decide
  double := by decide

theorem splitPath_ne_nil (text : List Char) : splitPath text ≠ [] := by
  induction text with
  | nil => exact List.cons_ne_nil [] []
  | cons character text ih =>
      unfold splitPath
      split
      · exact List.cons_ne_nil _ _
      · split <;> exact List.cons_ne_nil _ _

/-- No segment contains a separator. -/
theorem splitPath_whole (text : List Char) :
    ∀ segment ∈ splitPath text, ∀ character ∈ segment, separates character = false := by
  induction text with
  | nil =>
      intro segment member character inside
      rw [splitPath, List.mem_singleton] at member
      subst member
      exact absurd inside List.not_mem_nil
  | cons first text ih =>
      intro segment member
      unfold splitPath at member
      split at member
      · rcases List.mem_cons.mp member with rfl | member
        · exact nofun
        · exact ih segment member
      · rename_i plain
        have plain : separates first = false := Bool.eq_false_iff.mpr plain
        split at member
        · rw [List.mem_singleton] at member
          subst member
          intro character inside
          rw [List.mem_singleton.mp inside]
          exact plain
        · rename_i head tail split
          rw [split] at ih
          rcases List.mem_cons.mp member with rfl | member
          · intro character inside
            rcases List.mem_cons.mp inside with rfl | inside
            · exact plain
            · exact ih head List.mem_cons_self character inside
          · exact ih segment (List.mem_cons_of_mem head member)

/-- A text without separators is one segment, up to the next separator. -/
theorem splitPath_append {segment : List Char}
    (whole : ∀ character ∈ segment, separates character = false) (rest : List Char) :
    splitPath (segment ++ '/' :: rest) = segment :: splitPath rest := by
  induction segment with
  | nil => rfl
  | cons character segment ih =>
      have plain := whole character List.mem_cons_self
      rw [List.cons_append, splitPath, if_neg (by rw [plain]; exact Bool.false_ne_true),
        ih fun other inside => whole other (List.mem_cons_of_mem character inside)]

theorem splitPath_single {segment : List Char}
    (whole : ∀ character ∈ segment, separates character = false) :
    splitPath segment = [segment] := by
  induction segment with
  | nil => rfl
  | cons character segment ih =>
      have plain := whole character List.mem_cons_self
      rw [splitPath, if_neg (by rw [plain]; exact Bool.false_ne_true),
        ih fun other inside => whole other (List.mem_cons_of_mem character inside)]

theorem splitPath_joinPath {first : List Char} {segments : List (List Char)}
    (whole : ∀ segment ∈ first :: segments, ∀ character ∈ segment, separates character = false) :
    splitPath (first ++ joinPath segments) = first :: segments := by
  induction segments generalizing first with
  | nil =>
      rw [joinPath, List.flatMap_nil, List.append_nil]
      exact splitPath_single (whole first List.mem_cons_self)
  | cons second segments ih =>
      rw [joinPath, List.flatMap_cons, List.cons_append,
        splitPath_append (whole first List.mem_cons_self)]
      congr 1
      exact ih fun segment member => whole segment (List.mem_cons_of_mem first member)

theorem upperHexDigit_mem (value : Nat) : upperHexDigit value ∈ "0123456789ABCDEF".toList := by
  rw [upperHexDigit, List.getD_eq_getElem?_getD]
  rcases found : ("0123456789ABCDEF".toList)[value]? with _ | digit
  · decide
  · exact List.mem_of_getElem? found

/-- An escape is made of characters that no parser changes. -/
theorem mem_encodeCharacter {encoded : Char → Bool} {character letter : Char}
    (inside : letter ∈ encodeCharacter encoded character) :
    letter ∈ '%' :: "0123456789ABCDEF".toList ∨
      (letter = character ∧ encoded letter = false) := by
  unfold encodeCharacter at inside
  split at inside
  · left
    obtain ⟨byte, -, inside⟩ := List.mem_flatMap.mp inside
    simp only [List.mem_cons, List.not_mem_nil, or_false] at inside
    rcases inside with rfl | rfl | rfl
    · exact List.mem_cons_self
    · exact List.mem_cons_of_mem _ (upperHexDigit_mem _)
    · exact List.mem_cons_of_mem _ (upperHexDigit_mem _)
  · rename_i plain
    have same := List.mem_singleton.mp inside
    subst same
    exact .inr ⟨rfl, Bool.eq_false_iff.mpr plain⟩

theorem escape_plain (letter : Char) (inside : letter ∈ '%' :: "0123456789ABCDEF".toList) :
    separates letter = false ∧ encodedInPath letter = false := by
  have all : ('%' :: "0123456789ABCDEF".toList).all
      (fun letter => !separates letter && !encodedInPath letter) = true := by decide
  simpa only [Bool.and_eq_true, Bool.not_eq_true'] using List.all_eq_true.mp all letter inside

theorem percentEncode_encoded (text : List Char) :
    ∀ letter ∈ percentEncode encodedInPath text, encodedInPath letter = false := by
  intro letter member
  obtain ⟨character, -, inside⟩ := List.mem_flatMap.mp member
  rcases mem_encodeCharacter inside with escape | ⟨-, plain⟩
  · exact (escape_plain letter escape).2
  · exact plain

theorem percentEncode_whole {text : List Char}
    (whole : ∀ character ∈ text, separates character = false) :
    ∀ letter ∈ percentEncode encodedInPath text, separates letter = false := by
  intro letter member
  obtain ⟨character, known, inside⟩ := List.mem_flatMap.mp member
  rcases mem_encodeCharacter inside with escape | ⟨same, -⟩
  · exact (escape_plain letter escape).1
  · rw [same]
    exact whole character known

theorem percentEncode_of_plain {encoded : Char → Bool} {text : List Char}
    (plain : ∀ character ∈ text, encoded character = false) :
    percentEncode encoded text = text := by
  induction text with
  | nil => rfl
  | cons character text ih =>
      have first : encodeCharacter encoded character = [character] := by
        rw [encodeCharacter, plain character List.mem_cons_self]
        rfl
      rw [percentEncode, List.flatMap_cons, first, List.singleton_append]
      congr 1
      exact ih fun other inside => plain other (List.mem_cons_of_mem character inside)

theorem resolveDots_ne_nil {resolved segments : List (List Char)} (some : segments ≠ []) :
    resolveDots resolved segments ≠ [] := by
  fun_induction resolveDots resolved segments with
  | case1 => exact absurd rfl some
  | case2 | case3 | case4 =>
      rw [List.reverse_cons]
      exact List.append_ne_nil_of_right_ne_nil _ (List.cons_ne_nil _ [])
  | case5 _ _ _ more _ ih | case6 _ _ _ more _ _ ih | case7 _ _ _ more _ _ ih => exact ih more

/-- What is left are segments without dots. -/
theorem resolveDots_resolved {resolved segments : List (List Char)}
    (before : ∀ segment ∈ resolved, Resolved segment)
    (parsed : ∀ segment ∈ segments, ∀ character ∈ segment,
      separates character = false ∧ encodedInPath character = false) :
    ∀ segment ∈ resolveDots resolved segments, Resolved segment := by
  have fresh {segment : List Char} (double : ¬doubleDot segment = true)
      (single : ¬singleDot segment = true)
      (known : ∀ character ∈ segment,
        separates character = false ∧ encodedInPath character = false) : Resolved segment :=
    ⟨fun character inside => (known character inside).1,
      fun character inside => (known character inside).2,
      Bool.eq_false_iff.mpr single, Bool.eq_false_iff.mpr double⟩
  have extended {first : List Char} {others : List (List Char)} (resolves : Resolved first)
      (rest : ∀ segment ∈ others, Resolved segment) :
      ∀ segment ∈ (first :: others).reverse, Resolved segment := by
    intro segment member
    rcases List.mem_cons.mp (List.mem_reverse.mp member) with rfl | member
    · exact resolves
    · exact rest segment member
  fun_induction resolveDots resolved segments with
  | case1 => exact fun segment member => before segment (List.mem_reverse.mp member)
  | case2 resolved last double =>
      exact extended .nil fun segment member => before segment (List.mem_of_mem_tail member)
  | case3 => exact extended .nil before
  | case4 resolved last double single =>
      exact extended (fresh double single (parsed last List.mem_cons_self)) before
  | case5 resolved segment segments more double ih =>
      exact ih (fun other member => before other (List.mem_of_mem_tail member))
        fun other member => parsed other (List.mem_cons_of_mem segment member)
  | case6 resolved segment segments more double single ih =>
      exact ih before fun other member => parsed other (List.mem_cons_of_mem segment member)
  | case7 resolved segment segments more double single ih =>
      apply ih _ fun other member => parsed other (List.mem_cons_of_mem segment member)
      intro other member
      rcases List.mem_cons.mp member with rfl | member
      · exact fresh double single (parsed _ List.mem_cons_self)
      · exact before other member

theorem resolveDots_of_resolved {before segments : List (List Char)}
    (resolved : ∀ segment ∈ segments, Resolved segment) :
    resolveDots before segments = before.reverse ++ segments := by
  fun_induction resolveDots before segments with
  | case1 before => rw [List.append_nil]
  | case2 before last double | case5 before last segments more double ih =>
      exact absurd double (Bool.eq_false_iff.mp (resolved _ List.mem_cons_self).double)
  | case3 before last double single | case6 before last segments more double single ih =>
      exact absurd single (Bool.eq_false_iff.mp (resolved _ List.mem_cons_self).single)
  | case4 before last double single => rw [List.reverse_cons]
  | case7 before segment segments more double single ih =>
      rw [ih fun other member => resolved other (List.mem_cons_of_mem segment member),
        List.reverse_cons, List.append_assoc, List.singleton_append]

theorem parsePath_resolved (text : List Char) :
    ∃ segments, segments ≠ [] ∧ (∀ segment ∈ segments, Resolved segment) ∧
      parsePath text = joinPath segments := by
  refine ⟨_, resolveDots_ne_nil ?_, resolveDots_resolved
    (fun segment member => absurd member List.not_mem_nil) ?_, rfl⟩
  · exact mt List.map_eq_nil_iff.mp (splitPath_ne_nil _)
  · intro segment member character inside
    obtain ⟨raw, known, rfl⟩ := List.mem_map.mp member
    exact ⟨percentEncode_whole (splitPath_whole _ raw known) character inside,
      percentEncode_encoded raw character inside⟩

theorem removed_encodedInPath {character : Char} (plain : encodedInPath character = false) :
    removed character = false := by
  apply Bool.eq_false_iff.mpr
  intro gone
  simp only [removed, Bool.or_eq_true, decide_eq_true_eq] at gone
  rcases gone with (rfl | rfl) | rfl <;> exact absurd plain (by decide)

theorem parsePath_joinPath {segments : List (List Char)} (some : segments ≠ [])
    (resolved : ∀ segment ∈ segments, Resolved segment) :
    parsePath (joinPath segments) = joinPath segments := by
  have clean : cleaned (joinPath segments) = joinPath segments := by
    apply cleaned_of_clean
    intro character member
    obtain ⟨segment, known, inside⟩ := List.mem_flatMap.mp member
    rcases List.mem_cons.mp inside with rfl | inside
    · decide
    · exact removed_encodedInPath ((resolved segment known).encoded character inside)
  have body : splitPath (pathBody (joinPath segments)) = segments := by
    obtain ⟨first, rest, rfl⟩ := List.exists_cons_of_ne_nil some
    exact splitPath_joinPath fun segment member => (resolved segment member).whole
  have encoded : segments.map (percentEncode encodedInPath) = segments := by
    calc segments.map (percentEncode encodedInPath)
        = segments.map id := List.map_congr_left fun segment member =>
          percentEncode_of_plain (resolved segment member).encoded
      _ = segments := List.map_id segments
  rw [parsePath, clean, body, encoded, resolveDots_of_resolved resolved, List.reverse_nil,
    List.nil_append]

/-- A parsed path behind one more segment is parsed to itself. -/
theorem parsePath_append {segment : List Char} (resolves : Resolved segment) (text : List Char) :
    parsePath ('/' :: segment ++ parsePath text) = '/' :: segment ++ parsePath text := by
  obtain ⟨segments, -, resolved, parsed⟩ := parsePath_resolved text
  have joined : '/' :: segment ++ parsePath text = joinPath (segment :: segments) := by
    rw [parsed, joinPath, joinPath, List.flatMap_cons]
  rw [joined]
  apply parsePath_joinPath (List.cons_ne_nil segment segments)
  intro other member
  rcases List.mem_cons.mp member with rfl | member
  · exact resolves
  · exact resolved other member

end TennisAlerts.Text
