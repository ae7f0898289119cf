import TennisAlerts.Text.Json

/-!
# Base64 and UTF-8

Python's strict `base64.b64decode` with the characters `-` and `_`, and `bytes.decode` for
UTF-8.  Texts and bytes are lists of numbers.
-/

namespace TennisAlerts.Text

/-- The six bits of a character. -/
def sextet (code : Nat) : Option Nat :=
  if 65 ≤ code ∧ code ≤ 90 then some (code - 65)
  else if 97 ≤ code ∧ code ≤ 122 then some (code - 71)
  else if 48 ≤ code ∧ code ≤ 57 then some (code + 4)
  else if code = 45 ∨ code = 43 then some 62
  else if code = 95 ∨ code = 47 then some 63
  else none

/-- The bytes of four characters. -/
def threeBytes (first second third fourth : Nat) : List Nat :=
  [first * 4 + second / 16, second % 16 * 16 + third / 4, third % 4 * 64 + fourth]

/-- `base64.b64decode` with `altchars=b"-_"` and `validate=True`, or `none` where it raises. -/
def b64decode : CodePoints → Option (List Nat)
  | [] => some []
  | [first, second, 61, 61] => do
      let first ← sextet first
      let second ← sextet second
      some ((threeBytes first second 0 0).take 1)
  | [first, second, third, 61] => do
      let first ← sextet first
      let second ← sextet second
      let third ← sextet third
      some ((threeBytes first second third 0).take 2)
  | first :: second :: third :: fourth :: rest => do
      let first ← sextet first
      let second ← sextet second
      let third ← sextet third
      let fourth ← sextet fourth
      let bytes ← b64decode rest
      some (threeBytes first second third fourth ++ bytes)
  | _ => none

/-- `base64.urlsafe_b64decode`, which drops every other character first. -/
def urlsafeB64decode (text : CodePoints) : Option (List Nat) :=
  b64decode (text.filter fun code => (sextet code).isSome || code == 61)

/-- The segment with its padding. -/
def padded (segment : CodePoints) : CodePoints :=
  segment ++ List.replicate ((4 - segment.length % 4) % 4) 61

/-- The code points of bytes, when so many bytes are missing to the code point that was begun
and it may not be smaller than `least`. -/
def utf8decodeFrom (missing code least : Nat) : List Nat → Option CodePoints
  | [] => if missing = 0 then some [] else none
  | byte :: rest =>
      if missing = 0 then
        if byte < 0x80 then (utf8decodeFrom 0 0 0 rest).map (byte :: ·)
        else if 0xc2 ≤ byte ∧ byte ≤ 0xdf then utf8decodeFrom 1 (byte - 0xc0) 0x80 rest
        else if 0xe0 ≤ byte ∧ byte ≤ 0xef then utf8decodeFrom 2 (byte - 0xe0) 0x800 rest
        else if 0xf0 ≤ byte ∧ byte ≤ 0xf4 then utf8decodeFrom 3 (byte - 0xf0) 0x10000 rest
        else none
      else if 0x80 ≤ byte ∧ byte ≤ 0xbf then
        let code := code * 64 + (byte - 0x80)
        if missing = 1 then
          if least ≤ code ∧ code ≤ 0x10ffff ∧ ¬ (0xd800 ≤ code ∧ code ≤ 0xdfff) then
            (utf8decodeFrom 0 0 0 rest).map (code :: ·)
          else none
        else utf8decodeFrom (missing - 1) code least rest
      else none

/-- `bytes.decode("utf-8")`, or `none` where it raises. -/
def utf8decode (bytes : List Nat) : Option CodePoints :=
  utf8decodeFrom 0 0 0 bytes

/-! ## Groups of four characters -/

theorem b64decode_group {first second third fourth : Nat} {a b c d : Nat}
    (one : sextet first = some a) (two : sextet second = some b) (three : sextet third = some c)
    (four : sextet fourth = some d) (rest : CodePoints) :
    b64decode (first :: second :: third :: fourth :: rest) =
      (b64decode rest).map (threeBytes a b c d ++ ·) := by
  have unpadded : fourth ≠ 61 := by
    rintro rfl
    cases four
  rw [b64decode, one, two, three, four]
  · cases b64decode rest <;> rfl
  · simp [unpadded]
  · simp [unpadded]

/-- Whole groups in front of a text. -/
theorem b64decode_append {front : CodePoints} {bytes : List Nat} (rest : CodePoints)
    (bits : ∀ code ∈ front, (sextet code).isSome = true) (decoded : b64decode front = some bytes) :
    b64decode (front ++ rest) = (b64decode rest).map (bytes ++ ·) := by
  induction front using b64decode.induct generalizing bytes with
  | case1 =>
      cases decoded
      simp
  | case2 first second => simp [sextet] at bits
  | case3 first second third => simp [sextet] at bits
  | case4 first second third fourth front _ _ ih =>
      simp only [List.forall_mem_cons, Option.isSome_iff_exists] at bits
      obtain ⟨⟨a, one⟩, ⟨b, two⟩, ⟨c, three⟩, ⟨d, four⟩, others⟩ := bits
      rw [b64decode_group one two three four, Option.map_eq_some_iff] at decoded
      obtain ⟨more, tail, rfl⟩ := decoded
      have whole := ih (by simpa [Option.isSome_iff_exists] using others) tail
      simp only [List.cons_append]
      rw [b64decode_group one two three four, whole, Option.map_map]
      simp [Function.comp_def]
  | case5 text => simp [b64decode] at decoded

theorem utf8decode_ascii {bytes : List Nat} (ascii : ∀ byte ∈ bytes, byte < 0x80) :
    utf8decode bytes = some bytes := by
  induction bytes with
  | nil => rfl
  | cons byte bytes ih =>
      have others := ih fun other member => ascii other (List.mem_cons_of_mem byte member)
      rw [utf8decode] at others
      rw [utf8decode, utf8decodeFrom, if_pos rfl, if_pos (ascii byte List.mem_cons_self), others]
      rfl

end TennisAlerts.Text
