import Mathlib.Data.List.Basic

/-!
# JSON texts

The values that Python's `json.loads` makes of a text.  A text is a list of code points, since
an escape can leave a surrogate alone.  The reader is a machine that takes one code point at a
time and keeps the lists and dictionaries around the place where it stands on a stack; what it
makes of a text from two parts is what it makes of the second part from where the first one
leaves it.

The numbers themselves are a parameter: `int` and `float` read their literals.
-/

namespace TennisAlerts.Text

/-- A text of Python. -/
abbrev CodePoints :=
  List Nat

def codePoints (text : String) : CodePoints :=
  text.toList.map Char.toNat

inductive Json (Number : Type)
  | null
  | bool (value : Bool)
  | number (value : Number)
  | str (value : CodePoints)
  | list (items : List (Json Number))
  | dict (members : List (CodePoints × Json Number))

/-- How number literals are read; a literal can be too long for `int`. -/
structure Numerals (Number : Type) where
  literal : CodePoints → Option Number
  nan : Number
  infinity : Number
  minusInfinity : Number

namespace Json

variable {Number : Type}

/-- `dict.get`: of two members with one name the later one counts. -/
def get (key : CodePoints) : Json Number → Option (Json Number)
  | dict members => (members.reverse.find? (·.1 == key)).map (·.2)
  | _ => none

/-! ## Number literals -/

def isDigit (code : Nat) : Bool :=
  48 ≤ code && code ≤ 57

/-- The rest behind digits, of which there must be one. -/
def afterDigits (text : CodePoints) : Option CodePoints :=
  if text.takeWhile isDigit = [] then none else some (text.dropWhile isDigit)

/-- The rest behind `0` or digits that do not begin with it. -/
def afterWhole : CodePoints → Option CodePoints
  | 48 :: rest => some rest
  | text => afterDigits text

def afterFraction : CodePoints → Option CodePoints
  | 46 :: rest => afterDigits rest
  | text => some text

def afterExponent : CodePoints → Option CodePoints
  | code :: rest =>
      if code = 101 ∨ code = 69 then
        match rest with
        | sign :: digits =>
            if sign = 43 ∨ sign = 45 then afterDigits digits else afterDigits rest
        | [] => none
      else some (code :: rest)
  | [] => some []

/-- The whole text is a number literal. -/
def isNumeral (text : CodePoints) : Bool :=
  let unsigned := if text.head? = some 45 then text.tail else text
  (((afterWhole unsigned).bind afterFraction).bind afterExponent) == some []

/-- The code points of number literals. -/
def inNumeral (code : Nat) : Bool :=
  isDigit code || [43, 45, 46, 69, 101].contains code

/-! ## The machine -/

/-- What surrounds the value that is read. -/
inductive Frame (Number : Type)
  | list (items : List (Json Number))
  | dict (members : List (CodePoints × Json Number))
  | member (members : List (CodePoints × Json Number)) (key : CodePoints)

/-- What the machine reads next. -/
inductive Mode (Number : Type)
  /-- A value, or the end of a list that has no items yet. -/
  | value (closable : Bool)
  /-- The name of a member, or the end of a dictionary that has none yet. -/
  | name (closable : Bool)
  | colon (key : CodePoints)
  /-- A string, whose last code point may be the first half of an escaped pair. -/
  | string (isName : Bool) (read : CodePoints) (half : Bool)
  | escape (isName : Bool) (read : CodePoints) (half : Bool)
  | unicode (isName : Bool) (read : CodePoints) (half : Bool) (digits : List Nat)
  /-- The rest of a word. -/
  | word (rest : CodePoints) (value : Json Number)
  | numeral (read : CodePoints)
  /-- A comma, or the end of the list or dictionary. -/
  | after
  | done (value : Json Number)

structure Machine (Number : Type) where
  stack : List (Frame Number)
  mode : Mode Number

def start : Machine Number where
  stack := []
  mode := .value false

def isBlank (code : Nat) : Bool :=
  [32, 9, 10, 13].contains code

/-- A value is complete. -/
def complete (stack : List (Frame Number)) (value : Json Number) : Option (Machine Number) :=
  match stack with
  | [] => some ⟨[], .done value⟩
  | .list items :: rest => some ⟨.list (items ++ [value]) :: rest, .after⟩
  | .member members key :: rest => some ⟨.dict (members ++ [(key, value)]) :: rest, .after⟩
  | .dict _ :: _ => none

/-- The first code point of a value. -/
def openValue (numerals : Numerals Number) (stack : List (Frame Number)) (code : Nat) :
    Option (Machine Number) :=
  if code = 34 then some ⟨stack, .string false [] false⟩
  else if code = 91 then some ⟨.list [] :: stack, .value true⟩
  else if code = 123 then some ⟨.dict [] :: stack, .name true⟩
  else if code = 110 then some ⟨stack, .word (codePoints "ull") .null⟩
  else if code = 116 then some ⟨stack, .word (codePoints "rue") (.bool true)⟩
  else if code = 102 then some ⟨stack, .word (codePoints "alse") (.bool false)⟩
  else if code = 78 then some ⟨stack, .word (codePoints "aN") (.number numerals.nan)⟩
  else if code = 73 then some ⟨stack, .word (codePoints "nfinity") (.number numerals.infinity)⟩
  else if code = 45 ∨ isDigit code = true then some ⟨stack, .numeral [code]⟩
  else none

/-- A code point behind a value. -/
def behind (machine : Machine Number) (code : Nat) : Option (Machine Number) :=
  if isBlank code = true then some machine
  else
    match machine.stack with
    | .list items :: rest =>
        if code = 44 then some ⟨.list items :: rest, .value false⟩
        else if code = 93 then complete rest (.list items)
        else none
    | .dict members :: rest =>
        if code = 44 then some ⟨.dict members :: rest, .name false⟩
        else if code = 125 then complete rest (.dict members)
        else none
    | _ => none

/-- A string has ended. -/
def closeString (stack : List (Frame Number)) (isName : Bool) (read : CodePoints) :
    Option (Machine Number) :=
  if isName = true then some ⟨stack, .colon read⟩ else complete stack (.str read)

/-- The code point of an escape letter. -/
def unescaped : Nat → Option Nat
  | 34 => some 34
  | 92 => some 92
  | 47 => some 47
  | 98 => some 8
  | 102 => some 12
  | 110 => some 10
  | 114 => some 13
  | 116 => some 9
  | _ => none

def hexDigitValue (code : Nat) : Option Nat :=
  if isDigit code = true then some (code - 48)
  else if 97 ≤ code ∧ code ≤ 102 then some (code - 87)
  else if 65 ≤ code ∧ code ≤ 70 then some (code - 55)
  else none

/-- The code of four digits joins the first half before it, if it is a second half. -/
def joinEscaped (isName : Bool) (read : CodePoints) (half : Bool) (code : Nat) : Mode Number :=
  if half = true ∧ 0xdc00 ≤ code ∧ code ≤ 0xdfff then
    .string isName
      (read.dropLast ++ [0x10000 + (read.getLastD 0 - 0xd800) * 0x400 + (code - 0xdc00)]) false
  else .string isName (read ++ [code]) (decide (0xd800 ≤ code ∧ code ≤ 0xdbff))

/-- A number has ended. -/
def closeNumeral (numerals : Numerals Number) (stack : List (Frame Number)) (read : CodePoints) :
    Option (Machine Number) :=
  if isNumeral read = true then
    (numerals.literal read).bind fun value => complete stack (.number value)
  else none

/-- One code point. -/
def step (numerals : Numerals Number) (machine : Machine Number) (code : Nat) :
    Option (Machine Number) :=
  match machine.mode with
  | .value closable =>
      if isBlank code = true then some machine
      else if closable = true ∧ code = 93 then
        match machine.stack with
        | .list items :: rest => complete rest (.list items)
        | _ => none
      else openValue numerals machine.stack code
  | .name closable =>
      if isBlank code = true then some machine
      else if closable = true ∧ code = 125 then
        match machine.stack with
        | .dict members :: rest => complete rest (.dict members)
        | _ => none
      else if code = 34 then some { machine with mode := .string true [] false }
      else none
  | .colon key =>
      if isBlank code = true then some machine
      else if code = 58 then
        match machine.stack with
        | .dict members :: rest => some ⟨.member members key :: rest, .value false⟩
        | _ => none
      else none
  | .string isName read half =>
      if code = 34 then closeString machine.stack isName read
      else if code = 92 then some { machine with mode := .escape isName read half }
      else if code < 32 then none
      else some { machine with mode := .string isName (read ++ [code]) false }
  | .escape isName read half =>
      if code = 117 then some { machine with mode := .unicode isName read half [] }
      else (unescaped code).map fun code =>
        { machine with mode := .string isName (read ++ [code]) false }
  | .unicode isName read half digits =>
      (hexDigitValue code).map fun digit =>
        match digits with
        | [first, second, third] =>
            { machine with
              mode := joinEscaped isName read half
                (((first * 16 + second) * 16 + third) * 16 + digit) }
        | digits => { machine with mode := .unicode isName read half (digits ++ [digit]) }
  | .word rest value =>
      match rest with
      | [] => none
      | [last] => if code = last then complete machine.stack value else none
      | next :: rest =>
          if code = next then some { machine with mode := .word rest value } else none
  | .numeral read =>
      if read = [45] ∧ code = 73 then
        some { machine with
          mode := .word (codePoints "nfinity") (.number numerals.minusInfinity) }
      else if inNumeral code = true then some { machine with mode := .numeral (read ++ [code]) }
      else (closeNumeral numerals machine.stack read).bind fun machine => behind machine code
  | .after => behind machine code
  | .done _ => behind machine code

/-- The machine behind a text. -/
def runFrom (numerals : Numerals Number) (machine : Machine Number) (text : CodePoints) :
    Option (Machine Number) :=
  text.foldlM (step numerals) machine

/-- The value at the end of a text. -/
def finish (numerals : Numerals Number) (machine : Machine Number) : Option (Json Number) :=
  match machine.mode with
  | .done value => some value
  | .numeral read =>
      (closeNumeral numerals machine.stack read).bind fun machine =>
        match machine.mode with
        | .done value => some value
        | _ => none
  | _ => none

/-- `json.loads`, or `none` where it raises. -/
def loads (numerals : Numerals Number) (text : CodePoints) : Option (Json Number) :=
  (runFrom numerals start text).bind (finish numerals)

/-! ## Writing strings -/

def hexDigitCode (value : Nat) : Nat :=
  if value < 10 then 48 + value else 87 + value

/-- An escape of four hexadecimal digits. -/
def unicodeEscape (code : Nat) : CodePoints :=
  [92, 117, hexDigitCode (code / 4096), hexDigitCode (code / 256 % 16),
    hexDigitCode (code / 16 % 16), hexDigitCode (code % 16)]

/-- One code point of a string that is written with `ensure_ascii`. -/
def dumpsCode (code : Nat) : CodePoints :=
  if code = 34 then [92, 34]
  else if code = 92 then [92, 92]
  else if code = 10 then [92, 110]
  else if code = 13 then [92, 114]
  else if code = 9 then [92, 116]
  else if code = 8 then [92, 98]
  else if code = 12 then [92, 102]
  else if 32 ≤ code ∧ code ≤ 126 then [code]
  else if code < 0x10000 then unicodeEscape code
  else unicodeEscape (0xd800 + (code - 0x10000) / 0x400) ++
    unicodeEscape (0xdc00 + (code - 0x10000) % 0x400)

def dumpsString (text : CodePoints) : CodePoints :=
  34 :: text.flatMap dumpsCode ++ [34]

/-- The items of a list behind the first one, with the closing bracket. -/
def dumpsRest : List CodePoints → CodePoints
  | [] => [93]
  | text :: texts => 44 :: dumpsString text ++ dumpsRest texts

/-- `json.dumps` of a list of strings with the separators `,` and `:`. -/
def dumps : List CodePoints → CodePoints
  | [] => [91, 93]
  | text :: texts => 91 :: dumpsString text ++ dumpsRest texts

/-! ## Reading what was written -/

/-- A printable ASCII character that is written as it is. -/
def Plain (code : Nat) : Prop :=
  32 ≤ code ∧ code ≤ 126 ∧ code ≠ 34 ∧ code ≠ 92

instance (code : Nat) : Decidable (Plain code) :=
  inferInstanceAs (Decidable (_ ∧ _))

variable {numerals : Numerals Number}

theorem runFrom_append (machine : Machine Number) (first second : CodePoints) :
    runFrom numerals machine (first ++ second) =
      (runFrom numerals machine first).bind fun machine => runFrom numerals machine second := by
  simp [runFrom, List.foldlM_append]

theorem runFrom_cons (machine : Machine Number) (code : Nat) (rest : CodePoints) :
    runFrom numerals machine (code :: rest) =
      (step numerals machine code).bind fun machine => runFrom numerals machine rest := by
  simp [runFrom]

theorem dumpsCode_plain {code : Nat} (plain : Plain code) : dumpsCode code = [code] := by
  obtain ⟨low, high, quote, backslash⟩ := plain
  have others : code ≠ 10 ∧ code ≠ 13 ∧ code ≠ 9 ∧ code ≠ 8 ∧ code ≠ 12 := by omega
  simp [dumpsCode, quote, backslash, others, low, high]

theorem dumpsString_plain {text : CodePoints} (plain : ∀ code ∈ text, Plain code) :
    dumpsString text = 34 :: text ++ [34] := by
  have same : text.flatMap dumpsCode = text := by
    induction text with
    | nil => rfl
    | cons code text ih =>
        have others := ih fun other member => plain other (List.mem_cons_of_mem code member)
        rw [List.flatMap_cons, others, dumpsCode_plain (plain code List.mem_cons_self)]
        rfl
  rw [dumpsString, same]

/-- Plain characters are read as they are. -/
theorem runFrom_plain {text : CodePoints} (plain : ∀ code ∈ text, Plain code)
    (stack : List (Frame Number)) (isName : Bool) (read : CodePoints) :
    runFrom numerals ⟨stack, .string isName read false⟩ text =
      some ⟨stack, .string isName (read ++ text) false⟩ := by
  induction text generalizing read with
  | nil => simp [runFrom]
  | cons code text ih =>
      obtain ⟨low, high, quote, backslash⟩ := plain code List.mem_cons_self
      have others := ih fun other member => plain other (List.mem_cons_of_mem code member)
      have large : ¬ code < 32 := by omega
      have first : step numerals ⟨stack, .string isName read false⟩ code =
          some ⟨stack, .string isName (read ++ [code]) false⟩ := by
        simp [step, quote, backslash, large]
      rw [runFrom_cons, first, Option.bind_some, others]
      simp

/-- A string is read as an item of the list around it. -/
theorem runFrom_dumpsString {text : CodePoints} (plain : ∀ code ∈ text, Plain code)
    (items : List (Json Number)) (closable : Bool) :
    runFrom numerals ⟨[.list items], .value closable⟩ (dumpsString text) =
      some ⟨[.list (items ++ [.str text])], .after⟩ := by
  have quote : step numerals ⟨[.list items], .value closable⟩ 34 =
      some ⟨[.list items], .string false [] false⟩ := by
    simp [step, isBlank, openValue]
  have whole := @runFrom_plain Number numerals text plain [.list items] false []
  rw [dumpsString_plain plain, List.cons_append, runFrom_cons, quote, Option.bind_some,
    runFrom_append, whole]
  simp [runFrom, step, closeString, complete]

theorem runFrom_dumpsRest {texts : List CodePoints}
    (plain : ∀ text ∈ texts, ∀ code ∈ text, Plain code) (items : List (Json Number)) :
    runFrom numerals ⟨[.list items], .after⟩ (dumpsRest texts) =
      some ⟨[], .done (.list (items ++ texts.map .str))⟩ := by
  induction texts generalizing items with
  | nil => simp [dumpsRest, runFrom, step, behind, isBlank, complete]
  | cons text texts ih =>
      have comma : step numerals ⟨[.list items], .after⟩ 44 =
          some ⟨[.list items], .value false⟩ := by
        simp [step, behind, isBlank]
      have others := ih fun other member => plain other (List.mem_cons_of_mem text member)
      rw [dumpsRest, List.cons_append, runFrom_cons, comma, Option.bind_some, runFrom_append,
        runFrom_dumpsString (plain text List.mem_cons_self), Option.bind_some, others]
      simp

/-- A list of plain strings is read back. -/
theorem loads_dumps {texts : List CodePoints}
    (plain : ∀ text ∈ texts, ∀ code ∈ text, Plain code) :
    loads numerals (dumps texts) = some (.list (texts.map .str)) := by
  have bracket : step numerals start 91 = some ⟨[.list []], .value true⟩ := by
    simp [step, start, isBlank, openValue]
  cases texts with
  | nil => simp [loads, dumps, runFrom, start, step, isBlank, openValue, complete, finish]
  | cons text texts =>
      have others := @runFrom_dumpsRest Number numerals texts
        (fun other member => plain other (List.mem_cons_of_mem text member)) [.str text]
      rw [loads, dumps, List.cons_append, runFrom_cons, bracket, Option.bind_some,
        runFrom_append, runFrom_dumpsString (plain text List.mem_cons_self), Option.bind_some]
      rw [List.nil_append, others]
      rfl

/-- Blanks behind a value change nothing. -/
theorem loads_blanks {text blanks : CodePoints} {value : Json Number}
    (read : runFrom numerals start text = some ⟨[], .done value⟩)
    (blank : ∀ code ∈ blanks, isBlank code = true) :
    loads numerals (text ++ blanks) = some value := by
  have rest : runFrom numerals ⟨[], .done value⟩ blanks = some ⟨[], .done value⟩ := by
    clear read
    induction blanks with
    | nil => rfl
    | cons code blanks ih =>
        have others := ih fun other member => blank other (List.mem_cons_of_mem code member)
        rw [runFrom_cons]
        simp only [step, behind, blank code List.mem_cons_self, if_true, Option.bind_some]
        exact others
  rw [loads, runFrom_append, read, Option.bind_some, rest]
  rfl

theorem length_dumpsString_plain {text : CodePoints} (plain : ∀ code ∈ text, Plain code) :
    (dumpsString text).length = text.length + 2 := by
  simp [dumpsString_plain plain]

end Json

end TennisAlerts.Text
