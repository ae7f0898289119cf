import TennisAlerts.HostCore.WechatQueue
import TennisAlerts.Text.Delimited
import Mathlib.Data.List.Infix

/-!
# The sanitizer of function sources

`_sanitize_function_source` of the scraper service scans a source from left to right.  The
functions below work on the rest of the source in place of an index into it.
-/

namespace TennisAlerts.PiHost.Sanitizer

open TennisAlerts.HostCore TennisAlerts.Text

/-! ## Comments and regular expressions -/

/-- The flags of a regular expression. -/
def flag (character : Char) : Bool :=
  "dgimsuvy".toList.contains character

/-- `_regexp_end`, behind the first slash. -/
def regexpEnd (inClass : Bool) : List Char → Option (List Char)
  | [] => none
  | character :: rest =>
      if character = '\r' ∨ character = '\n' then none
      else if character = '\\' then
        match rest with
        | [] => none
        | _ :: rest => regexpEnd inClass rest
      else if character = '[' then regexpEnd true rest
      else if character = ']' then regexpEnd false rest
      else if character = '/' ∧ inClass = false then some (rest.dropWhile flag)
      else regexpEnd inClass rest

/-- Behind the next line feed. -/
def afterLine : List Char → List Char
  | [] => []
  | character :: rest => if character = '\n' then rest else afterLine rest

/-- Behind the next end of a block comment. -/
def afterBlock : List Char → List Char
  | '*' :: '/' :: rest => rest
  | _ :: rest => afterBlock rest
  | [] => []

theorem regexpEnd_length {inClass : Bool} {input after : List Char}
    (found : regexpEnd inClass input = some after) : after.length ≤ input.length := by
  fun_induction regexpEnd inClass input with
  | case1 | case2 | case3 => exact nomatch found
  | case4 _ _ _ _ ih => exact (ih found).trans (by simp only [List.length_cons]; omega)
  | case5 _ _ _ _ ih | case6 _ _ _ _ _ ih | case8 _ _ _ _ _ _ _ _ ih =>
      exact (ih found).trans (Nat.le_succ _)
  | case7 =>
      cases found
      exact (List.dropWhile_sublist _).length_le.trans (Nat.le_succ _)

/-- The end of a regular expression, if the character may open one. -/
def slashEnd (character : Char) (rest : List Char) : Option (List Char) :=
  if character = '/' then regexpEnd false rest else none

theorem slashEnd_length {character : Char} {rest after : List Char}
    (found : slashEnd character rest = some after) : after.length ≤ rest.length := by
  unfold slashEnd at found
  split at found
  · exact regexpEnd_length found
  · exact nomatch found

theorem afterLine_length (input : List Char) : (afterLine input).length ≤ input.length := by
  fun_induction afterLine input with
  | case1 => exact Nat.le_refl _
  | case2 => exact Nat.le_succ _
  | case3 _ _ _ ih => exact ih.trans (Nat.le_succ _)

theorem afterBlock_length (input : List Char) : (afterBlock input).length ≤ input.length := by
  fun_induction afterBlock input with
  | case1 => simp only [List.length_cons]; omega
  | case2 _ _ _ ih => exact ih.trans (Nat.le_succ _)
  | case3 => exact Nat.le_refl _

/-! ## Literals -/

/-- A quote that opens a string or a template. -/
def quoteMark (character : Char) : Bool :=
  character = '"' || character = '\'' || character = '`'

theorem tail_length (character : Char) (rest : List Char) :
    rest.tail.length < (character :: rest).length := by
  rw [List.length_tail, List.length_cons]
  omega

/-- The rest of a text is the rest of a longer one. -/
def widen {input longer : List Char} (rest : {rest : List Char // rest.length ≤ input.length})
    (shorter : input.length ≤ longer.length) : {rest : List Char // rest.length ≤ longer.length} :=
  ⟨rest.1, rest.2.trans shorter⟩

/-- `_literal_end`, behind the quote; `template` holds for a backtick. -/
def literalEnd (depth : Nat) (quote : Char) (braces : Nat) (input : List Char) :
    {rest : List Char // rest.length ≤ input.length} :=
  if 16 < depth then ⟨[], Nat.zero_le _⟩
  else
    match input with
    | [] => ⟨[], Nat.le_refl _⟩
    | character :: rest =>
        if character = '\\' then
          widen (literalEnd depth quote braces rest.tail) (tail_length character rest).le
        else if quote = '`' ∧ braces = 0 ∧ character = '$' ∧ rest.head? = some '{' then
          widen (literalEnd depth quote 1 rest.tail) (tail_length character rest).le
        else if quote = '`' ∧ braces ≠ 0 then
          if quoteMark character then
            let inner := literalEnd (depth + 1) character 0 rest
            widen (literalEnd depth quote braces inner.1) (inner.2.trans (Nat.le_succ _))
          else if character = '/' ∧ rest.head? = some '/' then
            widen (literalEnd depth quote braces (afterLine rest.tail))
              ((afterLine_length _).trans (tail_length character rest).le)
          else if character = '/' ∧ rest.head? = some '*' then
            widen (literalEnd depth quote braces (afterBlock rest.tail))
              ((afterBlock_length _).trans (tail_length character rest).le)
          else
            match found : slashEnd character rest with
            | some after =>
                widen (literalEnd depth quote braces after)
                  ((slashEnd_length found).trans (Nat.le_succ _))
            | none =>
                widen (literalEnd depth quote
                  (if character = '{' then braces + 1 else if character = '}' then braces - 1
                    else braces) rest) (Nat.le_succ _)
        else if character = quote then ⟨rest, Nat.le_succ _⟩
        else widen (literalEnd depth quote braces rest) (Nat.le_succ _)
termination_by input.length
decreasing_by
  · exact tail_length _ _
  · exact tail_length _ _
  · exact Nat.lt_succ_self _
  · exact Nat.lt_succ_of_le inner.2
  · exact (afterLine_length _).trans_lt (tail_length _ _)
  · exact (afterBlock_length _).trans_lt (tail_length _ _)
  · exact Nat.lt_succ_of_le (slashEnd_length found)
  · exact Nat.lt_succ_self _
  · exact Nat.lt_succ_self _

/-- `SOURCE_CLASSES`. -/
def sourceClasses : List String :=
  ["col-inprocess", "col-completed", "col-locked", "col-scheduled", "orderNoBook", "expired",
    "noOpen", "disabled", "not-open", "col-fight-ing", "col-fight-request", "col-fight-respond",
    "fight-request", "fight-request-ing", "fight-respond", "col-max-ball", "col-ball", "selected"]

/-- `SOURCE_LITERAL_ALLOWLIST`. -/
def sourceLiteralAllowlist : List String :=
  sourceClasses ++
    ["", " ", "/", "-", ":", "(", ")", "元", "分钟", "免费", "预订中", "已预订", "已过期", "已占用",
      "约战中", "已约战", "已应战", "未开放", "不可预约", "已售罄", "剩余", "可约", "undefined", "object",
      "function", "string", "number", "boolean", "length", "row", "price", "platformInfo",
      "venueName", "orderInfo", "className", "onlineBooking", "salesItemId", "open", "closed",
      "enabled", "disabled"]

/-- The contents of a string that are kept. -/
def allowed (raw : List Char) : Bool :=
  !raw.contains '\\' &&
    (sourceLiteralAllowlist.contains (String.ofList raw) ||
      (raw != [] && raw.length ≤ 3 && raw.all unicodeDigit))

/-! ## Words and numbers -/

/-- `[A-Za-z_$]`. -/
def wordStart (character : Char) : Bool :=
  character.isAlpha || character = '_' || character = '$'

/-- `[A-Za-z0-9_$]`. -/
def wordPart (character : Char) : Bool :=
  wordStart character || character.isDigit

/-- `[0-9a-fA-F]`. -/
def hexadecimal (character : Char) : Bool :=
  character.isDigit || "abcdefABCDEF".toList.contains character

/-- Behind `(?:\.\d+)?`. -/
def afterFraction (input : List Char) : List Char :=
  match input with
  | '.' :: rest => if rest.takeWhile unicodeDigit = [] then input else rest.dropWhile unicodeDigit
  | _ => input

/-- Behind `[+-]?`. -/
def afterSign : List Char → List Char
  | '+' :: rest | '-' :: rest => rest
  | input => input

/-- Behind `(?:[eE][+-]?\d+)?`. -/
def afterExponent (input : List Char) : List Char :=
  match input with
  | 'e' :: rest | 'E' :: rest =>
      if (afterSign rest).takeWhile unicodeDigit = [] then input
      else (afterSign rest).dropWhile unicodeDigit
  | _ => input

/-- Behind a decimal number whose first digit was read. -/
def afterDecimal (input : List Char) : List Char :=
  afterExponent (afterFraction (input.dropWhile unicodeDigit))

/-- Behind a number that starts with the digit. -/
def afterNumber (digit : Char) (input : List Char) : List Char :=
  match input with
  | 'x' :: rest | 'X' :: rest =>
      if digit = '0' ∧ rest.takeWhile hexadecimal ≠ [] then rest.dropWhile hexadecimal
      else afterDecimal input
  | _ => afterDecimal input

theorem afterFraction_suffix (input : List Char) : afterFraction input <:+ input := by
  unfold afterFraction
  split
  · split
    · exact List.suffix_refl _
    · exact (List.dropWhile_suffix _).trans (List.suffix_cons _ _)
  · exact List.suffix_refl _

theorem afterSign_suffix (input : List Char) : afterSign input <:+ input := by
  unfold afterSign
  split
  · exact List.suffix_cons _ _
  · exact List.suffix_cons _ _
  · exact List.suffix_refl _

theorem afterExponent_suffix (input : List Char) : afterExponent input <:+ input := by
  have behind (mark : Char) (rest : List Char) :
      (afterSign rest).dropWhile unicodeDigit <:+ mark :: rest :=
    ((List.dropWhile_suffix _).trans (afterSign_suffix rest)).trans (List.suffix_cons _ _)
  unfold afterExponent
  split
  · split
    · exact List.suffix_refl _
    · exact behind _ _
  · split
    · exact List.suffix_refl _
    · exact behind _ _
  · exact List.suffix_refl _

theorem afterDecimal_suffix (input : List Char) : afterDecimal input <:+ input :=
  ((afterExponent_suffix _).trans (afterFraction_suffix _)).trans (List.dropWhile_suffix _)

theorem afterNumber_suffix (digit : Char) (input : List Char) :
    afterNumber digit input <:+ input := by
  unfold afterNumber
  split
  · split
    · exact (List.dropWhile_suffix _).trans (List.suffix_cons _ _)
    · exact afterDecimal_suffix _
  · split
    · exact (List.dropWhile_suffix _).trans (List.suffix_cons _ _)
    · exact afterDecimal_suffix _
  · exact afterDecimal_suffix _

/-! ## Sources -/

/-- The text, `redacted` and `incomplete`. -/
structure Sanitized where
  output : List Char
  redacted : Bool
  incomplete : Bool
  deriving DecidableEq

/-- What comes of a part of the source, in front of the rest. -/
def Sanitized.before (rest : Sanitized) (output : List Char) (redacted incomplete : Bool) :
    Sanitized :=
  ⟨output ++ rest.output, redacted || rest.redacted, incomplete || rest.incomplete⟩

/-- What is read of a literal. -/
def consumed (rest after : List Char) : List Char :=
  rest.take (rest.length - after.length)

/-- The literal ends with its quote. -/
def closes (quote : Char) (read : List Char) : Bool :=
  read.getLast? = some quote

/-- The contents of the literal are kept. -/
def keeps (quote : Char) (read : List Char) : Bool :=
  quote != '`' && closes quote read && allowed read.dropLast

/-- What is printed for a literal. -/
def literalText (quote : Char) (read : List Char) : List Char :=
  jsonString (if keeps quote read then String.ofList read.dropLast
    else if quote = '`' then "[redacted template]" else "[redacted]")

/-- The word, unless it is long. -/
def wordText (word : List Char) : List Char :=
  if word.length ≤ 64 then word else "redactedIdentifier".toList

/-- The number, unless it is long. -/
def numberText (number : List Char) : List Char :=
  if number.length ≤ 6 then number else ['0']

/-- `_sanitize_function_source`. -/
def sanitizeFunctionSource (source : List Char) : Sanitized :=
  match source with
  | [] => ⟨[], false, false⟩
  | character :: rest =>
      if character = '/' ∧ rest.head? = some '/' then
        (sanitizeFunctionSource (afterLine rest.tail)).before [' '] true false
      else if character = '/' ∧ rest.head? = some '*' then
        (sanitizeFunctionSource (afterBlock rest.tail)).before [' '] true false
      else if quoteMark character then
        let after := literalEnd 0 character 0 rest
        let read := consumed rest after.1
        (sanitizeFunctionSource after.1).before (literalText character read)
          (!keeps character read) (!closes character read)
      else if character = '/' then
        match _found : regexpEnd false rest with
        | some after =>
            (sanitizeFunctionSource after).before "\"[redacted regex]\"".toList true false
        | none => ⟨"\"[redacted regex]\"".toList, true, true⟩
      else if wordStart character then
        let word := character :: rest.takeWhile wordPart
        (sanitizeFunctionSource (rest.dropWhile wordPart)).before (wordText word)
          (64 < word.length) false
      else if character.isDigit then
        let after := afterNumber character rest
        let number := character :: consumed rest after
        (sanitizeFunctionSource after).before (numberText number) (6 < number.length) false
      else if 32 ≤ character.toNat ∨ character = '\n' ∨ character = '\r' ∨ character = '\t' then
        (sanitizeFunctionSource rest).before [character] false false
      else (sanitizeFunctionSource rest).before [] true false
termination_by source.length
decreasing_by
  · exact (afterLine_length _).trans_lt (tail_length _ _)
  · exact (afterBlock_length _).trans_lt (tail_length _ _)
  · exact Nat.lt_succ_of_le after.2
  · exact Nat.lt_succ_of_le (regexpEnd_length _found)
  · exact Nat.lt_succ_of_le (List.dropWhile_sublist _).length_le
  · exact Nat.lt_succ_of_le (afterNumber_suffix _ _).length_le
  · exact Nat.lt_succ_self _
  · exact Nat.lt_succ_self _

end TennisAlerts.PiHost.Sanitizer
