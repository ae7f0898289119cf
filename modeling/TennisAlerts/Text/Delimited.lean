import Mathlib.Data.List.Basic
import Mathlib.Logic.Function.Basic
import Mathlib.Tactic.SplitIfs

/-!
# Texts that mark their own end

An encoding is delimited when a text that starts with the code of a value
determines the value and what follows its code.  Delimited encodings compose,
so a canonical text built from them determines everything that was put into it.

The encodings of the compact JSON that Python's `json.dumps` writes with
`ensure_ascii=False` and the separators `,` and `:` are the instances below.
-/

namespace TennisAlerts.Text

variable {α β : Type}

/-- A code is recognised in front of any text. -/
def Delimited (encode : α → List Char) : Prop :=
  ∀ ⦃first second : α⦄ ⦃rest other : List Char⦄,
    encode first ++ rest = encode second ++ other → first = second ∧ rest = other

namespace Delimited

variable {encode : α → List Char} {encode' : β → List Char}

theorem injective (delimited : Delimited encode) : Function.Injective encode := by
  intro first second same
  have padded : encode first ++ [] = encode second ++ [] := by rw [same]
  exact (delimited padded).1

/-- Two codes one after the other. -/
theorem pair (left : Delimited encode) (right : Delimited encode') :
    Delimited fun values : α × β => encode values.1 ++ encode' values.2 := by
  rintro ⟨first, first'⟩ ⟨second, second'⟩ rest other same
  simp only [List.append_assoc] at same
  obtain ⟨rfl, remaining⟩ := left same
  obtain ⟨rfl, rest_eq⟩ := right remaining
  exact ⟨rfl, rest_eq⟩

/-- A fixed text before the code. -/
theorem after (text : List Char) (delimited : Delimited encode) :
    Delimited fun value => text ++ encode value := by
  intro first second rest other same
  simp only [List.append_assoc, List.append_cancel_left_eq] at same
  exact delimited same

/-- A fixed text behind the code. -/
theorem before (text : List Char) (delimited : Delimited encode) :
    Delimited fun value => encode value ++ text := by
  intro first second rest other same
  simp only [List.append_assoc] at same
  obtain ⟨rfl, remaining⟩ := delimited same
  exact ⟨rfl, List.append_cancel_left remaining⟩

end Delimited

/-! ## JSON -/

/-- A lower-case hexadecimal digit. -/
def hexDigit (value : Nat) : Char :=
  "0123456789abcdef".toList.getD value '0'

/-- A character inside a JSON string. -/
def jsonChar (character : Char) : List Char :=
  if character = '"' then ['\\', '"']
  else if character = '\\' then ['\\', '\\']
  else if character = '\n' then ['\\', 'n']
  else if character = '\r' then ['\\', 'r']
  else if character = '\t' then ['\\', 't']
  else if character.toNat = 8 then ['\\', 'b']
  else if character.toNat = 12 then ['\\', 'f']
  else if character.toNat < 32 then
    ['\\', 'u', '0', '0', hexDigit (character.toNat / 16), hexDigit (character.toNat % 16)]
  else [character]

/-- A JSON string. -/
def jsonString (text : String) : List Char :=
  '"' :: text.toList.flatMap jsonChar ++ ['"']

def jsonBool : Bool → List Char
  | true => "true".toList
  | false => "false".toList

/-- A JSON string or `null`. -/
def jsonOption : Option String → List Char
  | none => "null".toList
  | some text => jsonString text

/-- The elements of an array behind the first one, with the closing bracket. -/
def jsonTail (encode : α → List Char) : List α → List Char
  | [] => [']']
  | value :: values => ',' :: encode value ++ jsonTail encode values

/-- A JSON array. -/
def jsonArray (encode : α → List Char) : List α → List Char
  | [] => ['[', ']']
  | value :: values => '[' :: encode value ++ jsonTail encode values

theorem jsonTail_map (encode : β → List Char) (part : α → β) (values : List α) :
    jsonTail (fun value => encode (part value)) values = jsonTail encode (values.map part) := by
  induction values with
  | nil => rfl
  | cons value values ih => rw [List.map_cons, jsonTail, jsonTail, ih]

theorem jsonArray_map (encode : β → List Char) (part : α → β) (values : List α) :
    jsonArray (fun value => encode (part value)) values = jsonArray encode (values.map part) := by
  cases values with
  | nil => rfl
  | cons value values => rw [List.map_cons, jsonArray, jsonArray, jsonTail_map]

/-! ### Reading a string back -/

def hexValue (digit : Char) : Nat :=
  "0123456789abcdef".toList.idxOf digit

theorem hexValue_hexDigit {value : Nat} (small : value < 16) :
    hexValue (hexDigit value) = value := by
  have all : ∀ index : Fin 16, hexValue (hexDigit index) = index := by decide
  exact all ⟨value, small⟩

/-- The character that an escape letter stands for. -/
def unescape (letter : Char) : Char :=
  if letter = 'n' then '\n'
  else if letter = 'r' then '\r'
  else if letter = 't' then '\t'
  else if letter = 'b' then Char.ofNat 8
  else if letter = 'f' then Char.ofNat 12
  else letter

/-- Read one character of a JSON string. -/
def readChar : List Char → Option (Char × List Char)
  | [] => none
  | character :: rest =>
      if character = '\\' then
        match rest with
        | 'u' :: _ :: _ :: high :: low :: rest =>
            some (Char.ofNat (16 * hexValue high + hexValue low), rest)
        | letter :: rest => some (unescape letter, rest)
        | [] => none
      else some (character, rest)

theorem readChar_jsonChar (character : Char) (rest : List Char) :
    readChar (jsonChar character ++ rest) = some (character, rest) := by
  unfold jsonChar
  split_ifs with quote backslash newline carriage tab backspace formFeed control
  · subst quote
    rfl
  · subst backslash
    rfl
  · subst newline
    rfl
  · subst carriage
    rfl
  · subst tab
    rfl
  · rw [← Char.ofNat_toNat character, backspace]
    rfl
  · rw [← Char.ofNat_toNat character, formFeed]
    rfl
  · have high := hexValue_hexDigit (show character.toNat / 16 < 16 by omega)
    have low := hexValue_hexDigit (show character.toNat % 16 < 16 by omega)
    have whole : 16 * (character.toNat / 16) + character.toNat % 16 = character.toNat :=
      Nat.div_add_mod _ _
    simp [readChar, high, low, whole]
  · simp [readChar, backslash]

theorem delimited_jsonChar : Delimited jsonChar := by
  intro first second rest other same
  have read := congrArg readChar same
  rw [readChar_jsonChar, readChar_jsonChar] at read
  cases read
  exact ⟨rfl, rfl⟩

/-- No character is written as the closing quote. -/
theorem jsonChar_ne_quote (character : Char) (rest other : List Char) :
    jsonChar character ++ rest ≠ '"' :: other := by
  intro same
  unfold jsonChar at same
  split_ifs at same <;> simp_all

theorem delimited_jsonString : Delimited jsonString := by
  -- by induction on the first string, with the closing quote as its end
  have body : ∀ (first second : List Char) (rest other : List Char),
      first.flatMap jsonChar ++ '"' :: rest = second.flatMap jsonChar ++ '"' :: other →
      first = second ∧ rest = other := by
    intro first
    induction first with
    | nil =>
        intro second rest other same
        cases second with
        | nil => exact ⟨rfl, by simpa using same⟩
        | cons character second =>
            simp only [List.flatMap_nil, List.nil_append, List.flatMap_cons,
              List.append_assoc] at same
            exact absurd same.symm (jsonChar_ne_quote _ _ _)
    | cons character first ih =>
        intro second rest other same
        cases second with
        | nil =>
            simp only [List.flatMap_nil, List.nil_append, List.flatMap_cons,
              List.append_assoc] at same
            exact absurd same (jsonChar_ne_quote _ _ _)
        | cons character' second =>
            simp only [List.flatMap_cons, List.append_assoc] at same
            obtain ⟨rfl, remaining⟩ := delimited_jsonChar same
            obtain ⟨rfl, rest_eq⟩ := ih second rest other remaining
            exact ⟨rfl, rest_eq⟩
  intro first second rest other same
  simp only [jsonString, List.cons_append, List.append_assoc, List.cons.injEq, true_and,
    List.nil_append] at same
  obtain ⟨characters, rest_eq⟩ := body _ _ _ _ same
  exact ⟨String.toList_injective characters, rest_eq⟩

theorem delimited_jsonBool : Delimited jsonBool := by
  intro first second rest other same
  cases first <;> cases second <;> simp_all [jsonBool]

theorem delimited_jsonOption : Delimited jsonOption := by
  intro first second rest other same
  cases first with
  | none =>
      cases second with
      | none => exact ⟨rfl, by simpa [jsonOption] using same⟩
      | some text => simp [jsonOption, jsonString] at same
  | some text =>
      cases second with
      | none => simp [jsonOption, jsonString] at same
      | some text' =>
          obtain ⟨rfl, rest_eq⟩ := delimited_jsonString same
          exact ⟨rfl, rest_eq⟩

theorem delimited_jsonTail {encode : α → List Char} (delimited : Delimited encode) :
    Delimited (jsonTail encode) := by
  intro first
  induction first with
  | nil =>
      intro second rest other same
      cases second with
      | nil => exact ⟨rfl, by simpa [jsonTail] using same⟩
      | cons value values => simp [jsonTail] at same
  | cons value values ih =>
      intro second rest other same
      cases second with
      | nil => simp [jsonTail] at same
      | cons value' values' =>
          simp only [jsonTail, List.cons_append, List.append_assoc, List.cons.injEq,
            true_and] at same
          obtain ⟨rfl, remaining⟩ := delimited same
          obtain ⟨rfl, rest_eq⟩ := ih remaining
          exact ⟨rfl, rest_eq⟩

/-- Arrays are delimited when no element looks like the closing bracket. -/
theorem delimited_jsonArray {encode : α → List Char} (delimited : Delimited encode)
    (visible : ∀ value rest other, encode value ++ rest ≠ ']' :: other) :
    Delimited (jsonArray encode) := by
  intro first second rest other same
  cases first with
  | nil =>
      cases second with
      | nil => exact ⟨rfl, by simpa [jsonArray] using same⟩
      | cons value values =>
          simp only [jsonArray, List.cons_append, List.append_assoc, List.cons.injEq,
            true_and, List.nil_append] at same
          exact absurd same.symm (visible _ _ _)
  | cons value values =>
      cases second with
      | nil =>
          simp only [jsonArray, List.cons_append, List.append_assoc, List.cons.injEq,
            true_and, List.nil_append] at same
          exact absurd same (visible _ _ _)
      | cons value' values' =>
          simp only [jsonArray, List.cons_append, List.append_assoc, List.cons.injEq,
            true_and] at same
          obtain ⟨rfl, remaining⟩ := delimited same
          obtain ⟨rfl, rest_eq⟩ := delimited_jsonTail delimited remaining
          exact ⟨rfl, rest_eq⟩

/-- A text does not look like the closing bracket when its first part does not. -/
theorem append_visible {front : List Char} (filled : front ≠ []) (visible : front.head? ≠ some ']')
    (back rest other : List Char) : (front ++ back) ++ rest ≠ ']' :: other := by
  intro same
  have first := congrArg List.head? same
  rw [List.append_assoc, List.head?_append_of_ne_nil _ filled] at first
  exact visible first

theorem jsonString_visible (text : String) (rest other : List Char) :
    jsonString text ++ rest ≠ ']' :: other := by
  simp [jsonString]

end TennisAlerts.Text
