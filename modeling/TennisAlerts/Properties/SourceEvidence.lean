import TennisAlerts.PiHost.SourceSanitizer
import TennisAlerts.Text.Script

/-!
# Function sources without their literals

The sanitizer stays with the tokens of a source as long as it takes no division for a
regular expression.  Then its text does not depend on comments and on the contents of
literals.
-/

namespace TennisAlerts.PiHost.Sanitizer

open TennisAlerts.HostCore (unicodeDigit)
open TennisAlerts.Text TennisAlerts.Text.Script

/-! ## Statements -/

/-- The tokens differ at most in a comment, or inside a literal that is not kept. -/
def Alike : Token → Token → Prop
  | .code text, .code text' => text = text'
  | .division, .division => True
  | .lineComment _ lineEnd, .lineComment _ lineEnd' => lineEnd = lineEnd'
  | .htmlComment opening _ lineEnd, .htmlComment opening' _ lineEnd' =>
      opening = opening' ∧ lineEnd = lineEnd'
  | .blockComment _, .blockComment _ => True
  | .string quote content, .string quote' content' =>
      quote = quote' ∧ (content = content' ∨
        (allowed (contentText content) = false ∧ allowed (contentText content') = false))
  | .pattern _ _, .pattern _ _ => True
  | .template _, .template _ => True
  | .templateHead _, .templateHead _ => True
  | .templateMiddle _, .templateMiddle _ => True
  | .templateTail _, .templateTail _ => True
  | _, _ => False

/-- The token is a literal of its own, for which `_literal_end` is called. -/
def literalToken : Token → Bool
  | .string _ _ | .template _ => true
  | _ => false

/-- The token stands below the sixteenth level of nested literals, where `_literal_end`
gives up: neither it nor what follows is read. -/
def unread (stack : List Nat) (token : Token) : Bool :=
  17 < stack.length || (16 < stack.length && literalToken token)

/-- The sanitizer cannot mistake a token that it reads: comments of one line end with a line
feed or the source, and behind a division no regular expression ends on its line.  Behind a
division outside of templates nothing is read. -/
def Clear : List Nat → List Token → Prop
  | _, [] => True
  | stack, token :: rest =>
      unread stack token = false →
        match token with
        | .division => regexpEnd false (sourceText rest) = none ∧ (stack ≠ [] → Clear stack rest)
        | .lineComment _ lineEnd =>
            (lineEnd = .lineFeed ∨ lineEnd = .both ∨ lineEnd = .sourceEnd) ∧ Clear stack rest
        | .htmlComment _ _ _ => False
        | token => ∀ stack', token.step stack = some stack' → Clear stack' rest

/-! ## Comments and regular expressions -/

theorem afterLine_append {content rest : List Char}
    (inside : content.all (fun character => !lineTerminator character) = true)
    {lineEnd : LineEnd} (clear : lineEnd = .lineFeed ∨ lineEnd = .both) :
    afterLine (content ++ lineEnd.text ++ rest) = rest := by
  induction content with
  | nil =>
      rcases clear with rfl | rfl
      · rfl
      · rfl
  | cons character content ih =>
      obtain ⟨first, inside⟩ := Bool.and_eq_true_iff.mp inside
      have different : character ≠ '\n' := by
        rintro rfl
        exact absurd first (by decide)
      change (if character = '\n' then _ else afterLine (content ++ lineEnd.text ++ rest)) = rest
      rw [if_neg different, ih inside]

theorem afterLine_end {content : List Char}
    (inside : content.all (fun character => !lineTerminator character) = true) :
    afterLine content = [] := by
  induction content with
  | nil => rfl
  | cons character content ih =>
      obtain ⟨first, inside⟩ := Bool.and_eq_true_iff.mp inside
      have different : character ≠ '\n' := by
        rintro rfl
        exact absurd first (by decide)
      rw [afterLine, if_neg different, ih inside]

theorem afterBlock_cons {character : Char} {rest : List Char}
    (inside : ¬(character = '*' ∧ rest.head? = some '/')) :
    afterBlock (character :: rest) = afterBlock rest := by
  rw [afterBlock]
  rintro after rfl rfl
  exact inside ⟨rfl, rfl⟩

theorem afterBlock_append {content rest : List Char} (inside : ¬['*', '/'] <:+: content) :
    afterBlock (content ++ '*' :: '/' :: rest) = rest := by
  induction content with
  | nil => rfl
  | cons character content ih =>
      rw [List.cons_append, afterBlock_cons, ih fun within => inside (List.infix_cons within)]
      rintro ⟨rfl, next⟩
      cases content with
      | nil => exact nomatch next
      | cons other content =>
          cases next
          exact inside (List.prefix_append ['*', '/'] content).isInfix

theorem not_contains_cons {character other : Char} {others : List Char}
    (avoided : (!(other :: others).contains character) = true) :
    character ≠ other ∧ (!others.contains character) = true := by
  rw [Bool.not_eq_true', List.contains_cons, Bool.or_eq_false_iff] at avoided
  exact ⟨beq_eq_false_iff_ne.mp avoided.1, Bool.not_eq_true' _ |>.mpr avoided.2⟩

theorem line_of_not_terminator {character : Char}
    (inside : (!lineTerminator character) = true) : ¬(character = '\r' ∨ character = '\n') := by
  obtain ⟨lineFeed, inside⟩ := not_contains_cons inside
  obtain ⟨carriageReturn, -⟩ := not_contains_cons inside
  exact fun either => either.elim carriageReturn lineFeed

theorem regexpEnd_plain {inClass : Bool} {character : Char} {rest : List Char}
    (line : (!lineTerminator character) = true) (noEscape : character ≠ '\\')
    (noClass : character ≠ '[' ∨ inClass = true) (noEnd : character ≠ ']' ∨ inClass = false)
    (noSlash : character ≠ '/' ∨ inClass = true) :
    regexpEnd inClass (character :: rest) = regexpEnd inClass rest := by
  rw [regexpEnd.eq_def]
  dsimp only
  rw [if_neg (line_of_not_terminator line), if_neg noEscape]
  split
  · rw [noClass.resolve_left fun other => other ‹_›]
  · split
    · rw [noEnd.resolve_left fun other => other ‹_›]
    · rw [if_neg]
      rintro ⟨slash, outside⟩
      rw [noSlash.resolve_left fun other => other slash] at outside
      exact Bool.noConfusion outside

theorem regexpEnd_escape {inClass : Bool} {character : Char} {rest : List Char} :
    regexpEnd inClass ('\\' :: character :: rest) = regexpEnd inClass rest := by
  rw [regexpEnd]
  rfl

theorem regexpEnd_open {rest : List Char} :
    regexpEnd false ('[' :: rest) = regexpEnd true rest := by
  rw [regexpEnd.eq_def]
  rfl

theorem regexpEnd_close {rest : List Char} :
    regexpEnd true (']' :: rest) = regexpEnd false rest := by
  rw [regexpEnd.eq_def]
  rfl

theorem regexpEnd_slash {rest : List Char} :
    regexpEnd false ('/' :: rest) = some (rest.dropWhile flag) := by
  rw [regexpEnd.eq_def]
  rfl

/-- The class of a regular expression. -/
theorem regexpEnd_class {content : List Piece} {rest : List Char}
    (inside : (PatternPiece.charClass content).wellFormed = true) :
    regexpEnd true (contentText content ++ ']' :: rest) = regexpEnd false rest := by
  unfold PatternPiece.wellFormed at inside
  induction content with
  | nil => exact regexpEnd_close
  | cons piece content ih =>
      obtain ⟨first, others⟩ := Bool.and_eq_true_iff.mp inside
      cases piece with
      | plain character =>
          obtain ⟨avoided, line⟩ := Bool.and_eq_true_iff.mp first
          obtain ⟨noEnd, avoided⟩ := not_contains_cons avoided
          obtain ⟨noEscape, -⟩ := not_contains_cons avoided
          change regexpEnd true (character :: (contentText content ++ ']' :: rest)) = _
          rw [regexpEnd_plain line noEscape (.inr rfl) (.inl noEnd) (.inr rfl), ih others]
      | escape character =>
          change regexpEnd true ('\\' :: character :: (contentText content ++ ']' :: rest)) = _
          rw [regexpEnd_escape, ih others]

/-- The end of a regular expression is found. -/
theorem regexpEnd_append {body : List PatternPiece} {flags rest : List Char}
    (inside : body.all PatternPiece.wellFormed = true) (flagged : flags.all Script.flag = true)
    (unflagged : rest.head?.any flag = false) :
    regexpEnd false (body.flatMap PatternPiece.text ++ '/' :: (flags ++ rest)) = some rest := by
  induction body with
  | nil =>
      change regexpEnd false ('/' :: (flags ++ rest)) = _
      rw [regexpEnd_slash, List.dropWhile_append_of_pos]
      · cases rest with
        | nil => rfl
        | cons next rest => rw [List.dropWhile_cons_of_neg (Bool.not_eq_true _ ▸ unflagged)]
      · exact List.all_eq_true.mp flagged
  | cons piece body ih =>
      obtain ⟨first, others⟩ := Bool.and_eq_true_iff.mp inside
      rw [List.flatMap_cons, List.append_assoc]
      cases piece with
      | plain character =>
          obtain ⟨avoided, line⟩ := Bool.and_eq_true_iff.mp first
          obtain ⟨noSlash, avoided⟩ := not_contains_cons avoided
          obtain ⟨noEscape, avoided⟩ := not_contains_cons avoided
          obtain ⟨noClass, -⟩ := not_contains_cons avoided
          change regexpEnd false (character :: _) = _
          rw [regexpEnd_plain line noEscape (.inl noClass) (.inr rfl) (.inl noSlash)]
          exact ih others
      | escape character =>
          change regexpEnd false ('\\' :: character :: _) = _
          rw [regexpEnd_escape]
          exact ih others
      | charClass content =>
          change regexpEnd false ('[' :: (contentText content ++ [']']) ++ _) = _
          rw [List.cons_append, List.append_assoc, regexpEnd_open]
          exact (regexpEnd_class first).trans (ih others)

/-! ## Literals -/

/-- The rest of the source behind a literal, as `_literal_end` finds it. -/
def literalRest (depth : Nat) (quote : Char) (braces : Nat) (input : List Char) : List Char :=
  (literalEnd depth quote braces input).1

theorem literalRest_deep {depth : Nat} (deep : 16 < depth) (quote : Char) (braces : Nat)
    (input : List Char) : literalRest depth quote braces input = [] := by
  rw [literalRest, literalEnd.eq_def, if_pos deep]

theorem literalRest_nil (depth : Nat) (quote : Char) (braces : Nat) :
    literalRest depth quote braces [] = [] := by
  rw [literalRest, literalEnd.eq_def]
  split
  · rfl
  · rfl

/-- One round of the loop of `_literal_end`. -/
theorem literalRest_cons {depth : Nat} (shallow : depth ≤ 16) (quote : Char) (braces : Nat)
    (character : Char) (rest : List Char) :
    literalRest depth quote braces (character :: rest) =
      if character = '\\' then literalRest depth quote braces rest.tail
      else if quote = '`' ∧ braces = 0 ∧ character = '$' ∧ rest.head? = some '{' then
        literalRest depth quote 1 rest.tail
      else if quote = '`' ∧ braces ≠ 0 then
        if quoteMark character then
          literalRest depth quote braces (literalRest (depth + 1) character 0 rest)
        else if character = '/' ∧ rest.head? = some '/' then
          literalRest depth quote braces (afterLine rest.tail)
        else if character = '/' ∧ rest.head? = some '*' then
          literalRest depth quote braces (afterBlock rest.tail)
        else
          match slashEnd character rest with
          | some after => literalRest depth quote braces after
          | none =>
              literalRest depth quote
                (if character = '{' then braces + 1 else if character = '}' then braces - 1
                  else braces) rest
      else if character = quote then rest
      else literalRest depth quote braces rest := by
  unfold literalRest
  conv_lhs => rw [literalEnd.eq_def, if_neg (Nat.not_lt_of_le shallow)]
  dsimp only
  split
  · rfl
  split
  · rfl
  split
  · split
    · rfl
    split
    · rfl
    split
    · rfl
    split
    · rename_i found
      conv_rhs => rw [found]
      rfl
    · rename_i found
      conv_rhs => rw [found]
      rfl
  split
  · rfl
  · rfl

theorem quoteMark_of_string {quote : Char} (mark : ['"', '\''].contains quote = true) :
    quoteMark quote = true := by
  rcases List.mem_cons.mp (List.contains_iff_mem.mp mark) with rfl | other
  · rfl
  · rw [List.mem_singleton.mp other]
    rfl

section

variable {depth : Nat} (shallow : depth ≤ 16)
include shallow

theorem literalRest_escape (quote : Char) (braces : Nat) (character : Char) (rest : List Char) :
    literalRest depth quote braces ('\\' :: character :: rest) =
      literalRest depth quote braces rest := by
  rw [literalRest_cons shallow, if_pos rfl]
  rfl

theorem literalRest_plain {quote character : Char} {rest : List Char} (noEscape : character ≠ '\\')
    (noEnd : character ≠ quote)
    (noExpression : ¬(quote = '`' ∧ character = '$' ∧ rest.head? = some '{')) :
    literalRest depth quote 0 (character :: rest) = literalRest depth quote 0 rest := by
  rw [literalRest_cons shallow, if_neg noEscape,
    if_neg fun opens => noExpression ⟨opens.1, opens.2.2⟩,
    if_neg fun inside => inside.2 rfl, if_neg noEnd]

theorem literalRest_close {quote : Char} (mark : quoteMark quote = true) (rest : List Char) :
    literalRest depth quote 0 (quote :: rest) = rest := by
  have noEscape : quote ≠ '\\' := by
    rintro rfl
    exact absurd mark (by decide)
  have noExpression : quote ≠ '$' := by
    rintro rfl
    exact absurd mark (by decide)
  rw [literalRest_cons shallow, if_neg noEscape, if_neg fun opens => noExpression opens.2.2.1,
    if_neg fun inside => inside.2 rfl, if_pos rfl]

theorem literalRest_expression (rest : List Char) :
    literalRest depth '`' 0 ('$' :: '{' :: rest) = literalRest depth '`' 1 rest := by
  rw [literalRest_cons shallow, if_neg (by decide), if_pos ⟨rfl, rfl, rfl, rfl⟩]
  rfl

/-- A string ends at its quote. -/
theorem literalRest_string {quote : Char} (mark : ['"', '\''].contains quote = true)
    {content : List Piece} (inside : content.all (Piece.avoids [quote, '\\']) = true)
    (rest : List Char) :
    literalRest depth quote 0 (contentText content ++ quote :: rest) = rest := by
  have noTemplate : quote ≠ '`' := by
    rintro rfl
    exact absurd mark (by decide)
  have opens := quoteMark_of_string mark
  induction content with
  | nil => exact literalRest_close shallow opens rest
  | cons piece content ih =>
      obtain ⟨first, others⟩ := Bool.and_eq_true_iff.mp inside
      cases piece with
      | plain character =>
          obtain ⟨noEnd, avoided⟩ := not_contains_cons first
          obtain ⟨noEscape, -⟩ := not_contains_cons avoided
          change literalRest depth quote 0 (character :: (contentText content ++ quote :: rest)) = _
          rw [literalRest_plain shallow noEscape noEnd fun opens => noTemplate opens.1, ih others]
      | escape character =>
          change literalRest depth quote 0 ('\\' :: character :: (contentText content ++ _)) = _
          rw [literalRest_escape shallow, ih others]

omit shallow in
theorem templateText_cons {piece : Piece} {content : List Piece}
    (inside : templateText (piece :: content) = true) :
    piece.avoids ['`', '\\'] = true ∧ templateText content = true ∧
      (piece = .plain '$' → content.head? ≠ some (.plain '{')) := by
  unfold templateText at inside
  split at inside
  · rename_i same
    exact nomatch same
  · exact nomatch inside
  · rename_i other same
    obtain ⟨rfl, rfl⟩ := List.cons.inj same
    obtain ⟨first, others⟩ := Bool.and_eq_true_iff.mp inside
    refine ⟨first, others, ?_⟩
    rintro rfl opens
    cases content with
    | nil => exact nomatch opens
    | cons next content =>
        cases opens
        exact other content rfl rfl

/-- The characters of a template are skipped. -/
theorem literalRest_template {content : List Piece} (inside : templateText content = true)
    {rest : List Char} (ends : rest.head? ≠ some '{') :
    literalRest depth '`' 0 (contentText content ++ rest) = literalRest depth '`' 0 rest := by
  induction content with
  | nil => rfl
  | cons piece content ih =>
      obtain ⟨first, others, noExpression⟩ := templateText_cons inside
      cases piece with
      | plain character =>
          obtain ⟨noEnd, avoided⟩ := not_contains_cons first
          obtain ⟨noEscape, -⟩ := not_contains_cons avoided
          change literalRest depth '`' 0 (character :: (contentText content ++ rest)) = _
          rw [literalRest_plain shallow noEscape noEnd, ih others]
          rintro ⟨-, rfl, opens⟩
          cases content with
          | nil => exact ends opens
          | cons next content =>
              cases next with
              | plain character =>
                  cases opens
                  exact noExpression rfl rfl
              | escape character => exact absurd (Option.some.inj opens) (by decide)
      | escape character =>
          change literalRest depth '`' 0 ('\\' :: character :: (contentText content ++ rest)) = _
          rw [literalRest_escape shallow, ih others]

omit shallow in
theorem bracesAfter_cons (braces : Nat) (character : Char) (rest : List Char) :
    bracesAfter braces (character :: rest) =
      if character = '{' then bracesAfter (braces + 1) rest
      else if character = '}' then if braces ≤ 1 then none else bracesAfter (braces - 1) rest
      else bracesAfter braces rest := by
  by_cases opens : character = '{'
  · rw [if_pos opens, opens]
    rfl
  · by_cases closes : character = '}'
    · rw [if_neg opens, if_pos closes, closes]
      rfl
    · rw [if_neg opens, if_neg closes, bracesAfter]
      · exact opens
      · exact closes

/-- Code in an expression moves its braces. -/
theorem literalRest_code {text : List Char} (inside : codeText text = true) {braces braces' : Nat}
    (opened : braces ≠ 0) (moved : bracesAfter braces text = some braces') (rest : List Char) :
    literalRest depth '`' braces (text ++ rest) = literalRest depth '`' braces' rest := by
  induction text using codeText.induct generalizing braces with
  | case1 =>
      cases moved
      rfl
  | case2 text ih =>
      change literalRest depth '`' braces ('\\' :: 'u' :: (text ++ rest)) = _
      rw [literalRest_escape shallow]
      exact ih inside opened moved
  | case3 character text other ih =>
      have split : (!(['"', '\'', '`', '/', '\\'].contains character)) = true ∧
          codeText text = true := by
        rw [codeText] at inside
        · exact Bool.and_eq_true_iff.mp inside
        · exact other
      obtain ⟨avoided, others⟩ := split
      obtain ⟨noDouble, avoided⟩ := not_contains_cons avoided
      obtain ⟨noSingle, avoided⟩ := not_contains_cons avoided
      obtain ⟨noTemplate, avoided⟩ := not_contains_cons avoided
      obtain ⟨noSlash, avoided⟩ := not_contains_cons avoided
      obtain ⟨noEscape, -⟩ := not_contains_cons avoided
      have noQuote : ¬quoteMark character = true := by
        intro quote
        simp only [quoteMark, Bool.or_eq_true, decide_eq_true_eq] at quote
        exact quote.elim (fun quote => quote.elim noDouble noSingle) noTemplate
      rw [List.cons_append, literalRest_cons shallow, if_neg noEscape,
        if_neg fun opens => opened opens.2.1, if_pos ⟨rfl, opened⟩, if_neg noQuote,
        if_neg fun comment => noSlash comment.1, if_neg fun comment => noSlash comment.1,
        slashEnd, if_neg noSlash]
      rw [bracesAfter_cons] at moved
      dsimp only
      split
      · rename_i opens
        rw [if_pos opens] at moved
        exact ih others (Nat.succ_ne_zero _) moved
      · rename_i opens
        rw [if_neg opens] at moved
        split
        · rename_i closes
          rw [if_pos closes] at moved
          split at moved
          · exact nomatch moved
          · exact ih others (by omega) moved
        · rename_i closes
          rw [if_neg closes] at moved
          exact ih others opened moved

end

/-! ## Templates -/

/-- The rest of the source behind nested templates with the given open braces. -/
def resume : List Nat → List Char → List Char
  | [], input => input
  | braces :: stack, input => resume stack (literalRest stack.length '`' braces input)

/-- The tokens behind nested templates. -/
def skip : List Nat → List Token → List Token
  | [], tokens => tokens
  | _ :: _, [] => []
  | braces :: stack, token :: rest =>
      if unread (braces :: stack) token then []
      else
        match token.step (braces :: stack) with
        | none => []
        | some stack => skip stack rest

theorem resume_nil (stack : List Nat) : resume stack [] = [] := by
  induction stack with
  | nil => rfl
  | cons braces stack ih => rw [resume, literalRest_nil, ih]

theorem resume_deep {stack : List Nat} (deep : 16 < stack.length) (braces : Nat)
    (input : List Char) : resume (braces :: stack) input = [] := by
  rw [resume, literalRest_deep deep, resume_nil]

/-- A step of the innermost template. -/
theorem resume_congr {braces braces' : Nat} {stack : List Nat} {input input' : List Char}
    (step : stack.length ≤ 16 → literalRest stack.length '`' braces input =
      literalRest stack.length '`' braces' input') :
    resume (braces :: stack) input = resume (braces' :: stack) input' := by
  rcases Nat.lt_or_ge 16 stack.length with deep | shallow
  · rw [resume_deep deep, resume_deep deep]
  · rw [resume, resume, step shallow]

theorem resume_quote {braces : Nat} (opened : braces ≠ 0) {stack : List Nat}
    (shallow : stack.length ≤ 16) {quote : Char} (mark : quoteMark quote = true)
    (rest : List Char) :
    resume (braces :: stack) (quote :: rest) =
      resume (braces :: stack) (literalRest (stack.length + 1) quote 0 rest) := by
  have noEscape : quote ≠ '\\' := by
    rintro rfl
    exact absurd mark (by decide)
  refine resume_congr fun _ => ?_
  rw [literalRest_cons shallow, if_neg noEscape, if_neg fun opens => opened opens.2.1,
    if_pos ⟨rfl, opened⟩, if_pos mark]

theorem bracesAfter_ne_zero {text : List Char} {braces braces' : Nat} (opened : braces ≠ 0)
    (moved : bracesAfter braces text = some braces') : braces' ≠ 0 := by
  induction text generalizing braces with
  | nil =>
      cases moved
      exact opened
  | cons character text ih =>
      rw [bracesAfter_cons] at moved
      split at moved
      · exact ih (Nat.succ_ne_zero _) moved
      · split at moved
        · split at moved
          · exact nomatch moved
          · exact ih (by omega) moved
        · exact ih opened moved

section

variable {depth : Nat} (shallow : depth ≤ 16) {braces : Nat}
include shallow

/-- A slash in an expression. -/
theorem literalRest_slash (opened : braces ≠ 0) (rest : List Char) :
    literalRest depth '`' braces ('/' :: rest) =
      if rest.head? = some '/' then literalRest depth '`' braces (afterLine rest.tail)
      else if rest.head? = some '*' then literalRest depth '`' braces (afterBlock rest.tail)
      else
        match regexpEnd false rest with
        | some after => literalRest depth '`' braces after
        | none => literalRest depth '`' braces rest := by
  rw [literalRest_cons shallow, if_neg (by decide), if_neg fun opens => opened opens.2.1,
    if_pos ⟨rfl, opened⟩, if_neg (by decide), slashEnd, if_pos rfl]
  simp only [true_and]
  rfl

theorem literalRest_brace (rest : List Char) :
    literalRest depth '`' 1 ('}' :: rest) = literalRest depth '`' 0 rest := by
  rw [literalRest_cons shallow]
  rfl

theorem literalRest_lineComment (opened : braces ≠ 0) {content : List Char}
    (inside : content.all (fun character => !lineTerminator character) = true)
    {lineEnd : LineEnd} (clear : lineEnd = .lineFeed ∨ lineEnd = .both) (rest : List Char) :
    literalRest depth '`' braces (((Token.lineComment content lineEnd).text) ++ rest) =
      literalRest depth '`' braces rest := by
  change literalRest depth '`' braces ('/' :: '/' :: (content ++ lineEnd.text ++ rest)) = _
  rw [literalRest_slash shallow opened, List.head?_cons, if_pos rfl, List.tail_cons,
    afterLine_append inside clear]

theorem literalRest_blockComment (opened : braces ≠ 0) {content : List Char}
    (inside : ¬['*', '/'] <:+: content) (rest : List Char) :
    literalRest depth '`' braces ((Token.blockComment content).text ++ rest) =
      literalRest depth '`' braces rest := by
  change literalRest depth '`' braces ('/' :: '*' :: (content ++ ['*', '/'] ++ rest)) = _
  rw [literalRest_slash shallow opened, List.head?_cons, if_neg (by decide), if_pos rfl,
    List.tail_cons, List.append_assoc]
  exact congrArg _ (afterBlock_append inside)

end

/-- A regular expression does not start like a comment. -/
theorem pattern_head {body : List PatternPiece} (nonempty : body ≠ [])
    (noComment : body.head? ≠ some (.plain '*'))
    (inside : body.all PatternPiece.wellFormed = true) (rest : List Char) :
    (body.flatMap PatternPiece.text ++ rest).head? ≠ some '/' ∧
      (body.flatMap PatternPiece.text ++ rest).head? ≠ some '*' := by
  cases body with
  | nil => exact absurd rfl nonempty
  | cons piece body =>
      obtain ⟨first, -⟩ := Bool.and_eq_true_iff.mp inside
      cases piece with
      | plain character =>
          obtain ⟨avoided, -⟩ := Bool.and_eq_true_iff.mp first
          obtain ⟨noSlash, -⟩ := not_contains_cons avoided
          refine ⟨fun same => noSlash (Option.some.inj same), fun same => noComment ?_⟩
          rw [Option.some.inj same]
          rfl
      | escape character => exact ⟨by simp [PatternPiece.text], by simp [PatternPiece.text]⟩
      | charClass content => exact ⟨by simp [PatternPiece.text], by simp [PatternPiece.text]⟩

/-- The parts of a well-formed regular expression. -/
theorem pattern_parts {body : List PatternPiece} {flags : List Char}
    (formed : (Token.pattern body flags).wellFormed = true) :
    (body ≠ [] ∧ body.head? ≠ some (.plain '*')) ∧
      body.all PatternPiece.wellFormed = true ∧ flags.all Script.flag = true := by
  obtain ⟨formed, flagged⟩ := Bool.and_eq_true_iff.mp formed
  obtain ⟨formed, inside⟩ := Bool.and_eq_true_iff.mp formed
  obtain ⟨nonempty, noComment⟩ := Bool.and_eq_true_iff.mp formed
  exact ⟨⟨bne_iff_ne.mp nonempty, bne_iff_ne.mp noComment⟩, inside, flagged⟩

theorem pattern_text (body : List PatternPiece) (flags rest : List Char) :
    (Token.pattern body flags).text ++ rest =
      '/' :: (body.flatMap PatternPiece.text ++ '/' :: (flags ++ rest)) := by
  simp only [Token.text, List.cons_append, List.append_assoc]

theorem string_text (quote : Char) (content : List Piece) (rest : List Char) :
    (Token.string quote content).text ++ rest =
      quote :: (contentText content ++ quote :: rest) := by
  simp only [Token.text, List.cons_append, List.append_assoc, List.nil_append]

theorem template_text (content : List Piece) (rest : List Char) :
    (Token.template content).text ++ rest = '`' :: (contentText content ++ '`' :: rest) := by
  simp only [Token.text, List.cons_append, List.append_assoc, List.nil_append]

theorem templateHead_text (content : List Piece) (rest : List Char) :
    (Token.templateHead content).text ++ rest =
      '`' :: (contentText content ++ '$' :: '{' :: rest) := by
  simp only [Token.text, List.cons_append, List.append_assoc, List.nil_append]

theorem sourceText_cons (token : Token) (rest : List Token) :
    sourceText (token :: rest) = token.text ++ sourceText rest :=
  List.flatMap_cons

/-- The first character of a token that is no code. -/
def tokenMark (character : Char) : Bool :=
  ['/', '<', '-', '"', '\'', '`', '}'].contains character

theorem token_head {token : Token} (formed : token.wellFormed = true) :
    (∃ character text, token = .code (character :: text)) ∨
      ∃ character text, token.text = character :: text ∧ tokenMark character = true := by
  cases token with
  | code text =>
      cases text with
      | nil => exact absurd formed (by decide)
      | cons character text => exact .inl ⟨character, text, rfl⟩
  | string quote content =>
      refine .inr ⟨quote, _, rfl, ?_⟩
      have mark := (Bool.and_eq_true_iff.mp formed).1
      rcases List.mem_cons.mp (List.contains_iff_mem.mp mark) with rfl | other
      · rfl
      · rw [List.mem_singleton.mp other]
        rfl
  | htmlComment opening content lineEnd =>
      cases opening
      · exact .inr ⟨'-', _, rfl, rfl⟩
      · exact .inr ⟨'<', _, rfl, rfl⟩
  | division | lineComment | blockComment | pattern => exact .inr ⟨'/', _, rfl, rfl⟩
  | template | templateHead => exact .inr ⟨'`', _, rfl, rfl⟩
  | templateMiddle | templateTail => exact .inr ⟨'}', _, rfl, rfl⟩

theorem lexed_cons {stack : List Nat} {token : Token} {rest : List Token}
    (source : lexed stack (token :: rest) = true) :
    token.wellFormed = true ∧ token.followedBy rest = true ∧
      ∃ stack', token.step stack = some stack' ∧ lexed stack' rest = true := by
  obtain ⟨both, source⟩ := Bool.and_eq_true_iff.mp source
  obtain ⟨formed, followed⟩ := Bool.and_eq_true_iff.mp both
  refine ⟨formed, followed, ?_⟩
  split at source
  · exact nomatch source
  · exact ⟨_, ‹_›, source⟩

/-- No flag stands behind a regular expression. -/
theorem unflagged_of_followedBy {body : List PatternPiece} {flags : List Char}
    {stack : List Nat} {rest : List Token} (source : lexed stack rest = true)
    (followed : (Token.pattern body flags).followedBy rest = true) :
    (sourceText rest).head?.any flag = false := by
  cases rest with
  | nil => rfl
  | cons next rest =>
      rw [sourceText_cons]
      rcases token_head (lexed_cons source).1 with
        ⟨character, text, rfl⟩ | ⟨character, text, same, mark⟩
      · exact Bool.not_eq_true' _ |>.mp followed
      · rw [same]
        change flag character = false
        revert mark
        simp only [tokenMark, List.contains_cons, Bool.or_eq_true, beq_iff_eq]
        rintro (rfl | rfl | rfl | rfl | rfl | rfl | rfl | empty)
        all_goals first | rfl | exact nomatch empty

/-- What stands behind a division does not make it a comment. -/
theorem head_of_division {rest : List Token}
    (followed : Token.division.followedBy rest = true) {stack : List Nat}
    (source : lexed stack rest = true) :
    (sourceText rest).head? ≠ some '/' ∧ (sourceText rest).head? ≠ some '*' := by
  cases rest with
  | nil => exact ⟨nofun, nofun⟩
  | cons next rest =>
      have nonempty : next.text ≠ [] := by
        rcases token_head (lexed_cons source).1 with
          ⟨character, text, rfl⟩ | ⟨character, text, same, -⟩
        · exact List.cons_ne_nil _ _
        · rw [same]
          exact List.cons_ne_nil _ _
      rw [sourceText_cons, List.head?_append_of_ne_nil _ nonempty]
      simpa [Token.followedBy] using followed

theorem templateMiddle_step {braces : Nat} {stack stack' : List Nat} {content : List Piece}
    (step : (Token.templateMiddle content).step (braces :: stack) = some stack') :
    braces = 1 ∧ stack' = 1 :: stack := by
  unfold Token.step at step
  split at step
  all_goals simp_all

theorem templateTail_step {braces : Nat} {stack stack' : List Nat} {content : List Piece}
    (step : (Token.templateTail content).step (braces :: stack) = some stack') :
    braces = 1 ∧ stack' = stack := by
  unfold Token.step at step
  split at step
  all_goals simp_all

/-- The levels of a token that is read. -/
theorem levels_of_read {braces : Nat} {stack : List Nat} {token : Token}
    (read : unread (braces :: stack) token = false) :
    stack.length ≤ 16 ∧ (literalToken token = true → stack.length + 1 ≤ 16) := by
  obtain ⟨shallow, inner⟩ := Bool.or_eq_false_iff.mp read
  refine ⟨Nat.le_of_succ_le_succ (Nat.le_of_not_lt (of_decide_eq_false shallow)), fun literal => ?_⟩
  rw [literal, Bool.and_true] at inner
  exact Nat.le_of_not_lt (of_decide_eq_false inner)

/-- A token that is read in an expression. -/
theorem resume_token {braces : Nat} {stack stack' : List Nat} {token : Token} {rest : List Token}
    (opened : braces ≠ 0) (read : unread (braces :: stack) token = false)
    (source : lexed (braces :: stack) (token :: rest) = true)
    (clear : Clear (braces :: stack) (token :: rest))
    (step : token.step (braces :: stack) = some stack') :
    resume (braces :: stack) (token.text ++ sourceText rest) = resume stack' (sourceText rest) := by
  obtain ⟨formed, followed, _, same, later⟩ := lexed_cons source
  obtain ⟨shallow, inner⟩ := levels_of_read read
  replace clear := clear read
  rw [step] at same
  cases same
  cases token with
  | code text =>
      obtain ⟨braces', moved, rfl⟩ := Option.map_eq_some_iff.mp step
      exact resume_congr fun _ =>
        literalRest_code shallow (Bool.and_eq_true_iff.mp formed).2 opened moved _
  | division =>
      cases step
      refine resume_congr fun _ => ?_
      obtain ⟨noLine, noBlock⟩ := head_of_division followed later
      change literalRest stack.length '`' braces ('/' :: sourceText rest) = _
      rw [literalRest_slash shallow opened, if_neg noLine, if_neg noBlock, clear.1]
  | lineComment content lineEnd =>
      cases step
      refine resume_congr fun _ => ?_
      rcases clear.1 with clear | clear | rfl
      · exact literalRest_lineComment shallow opened formed (.inl clear) _
      · exact literalRest_lineComment shallow opened formed (.inr clear) _
      · cases rest with
        | nil => exact absurd (of_decide_eq_true later) (List.cons_ne_nil _ _)
        | cons next rest => exact nomatch followed
  | htmlComment opening content lineEnd => exact clear.elim
  | blockComment content =>
      cases step
      refine resume_congr fun _ => ?_
      exact literalRest_blockComment shallow opened
        (of_decide_eq_false (Bool.not_eq_true' _ |>.mp formed)) _
  | string quote content =>
      cases step
      obtain ⟨mark, inside⟩ := Bool.and_eq_true_iff.mp formed
      rw [string_text, resume_quote opened shallow (quoteMark_of_string mark),
        literalRest_string (inner rfl) mark inside]
  | pattern body flags =>
      cases step
      refine resume_congr fun _ => ?_
      obtain ⟨⟨nonempty, noComment⟩, inside, flagged⟩ := pattern_parts formed
      obtain ⟨noLine, noBlock⟩ :=
        pattern_head nonempty noComment inside ('/' :: (flags ++ sourceText rest))
      rw [pattern_text, literalRest_slash shallow opened, if_neg noLine, if_neg noBlock,
        regexpEnd_append inside flagged (unflagged_of_followedBy later followed)]
  | template content =>
      cases step
      rw [template_text, resume_quote opened shallow rfl,
        literalRest_template (inner rfl) formed (by simp),
        literalRest_close (inner rfl) rfl]
  | templateHead content =>
      cases step
      rw [templateHead_text, resume_quote opened shallow rfl]
      change resume (0 :: braces :: stack) (contentText content ++ '$' :: '{' :: _) = _
      exact resume_congr fun within => by
        rw [literalRest_template within formed (by simp), literalRest_expression within]
  | templateMiddle content =>
      obtain ⟨rfl, rfl⟩ := templateMiddle_step step
      have text : (Token.templateMiddle content).text ++ sourceText rest =
          '}' :: (contentText content ++ '$' :: '{' :: sourceText rest) := by
        simp only [Token.text, List.cons_append, List.append_assoc, List.nil_append]
      refine resume_congr fun _ => ?_
      rw [text, literalRest_brace shallow, literalRest_template shallow formed (by simp),
        literalRest_expression shallow]
  | templateTail content =>
      obtain ⟨rfl, rfl⟩ := templateTail_step step
      have text : (Token.templateTail content).text ++ sourceText rest =
          '}' :: (contentText content ++ '`' :: sourceText rest) := by
        simp only [Token.text, List.cons_append, List.append_assoc, List.nil_append]
      rw [text, resume, literalRest_brace shallow, literalRest_template shallow formed (by simp),
        literalRest_close shallow rfl]

theorem step_opened {stack stack' : List Nat} {token : Token}
    (opened : ∀ braces ∈ stack, braces ≠ 0) (step : token.step stack = some stack') :
    ∀ braces ∈ stack', braces ≠ 0 := by
  unfold Token.step at step
  split at step
  · obtain ⟨braces', moved, rfl⟩ := Option.map_eq_some_iff.mp step
    obtain ⟨first, others⟩ := List.forall_mem_cons.mp opened
    exact List.forall_mem_cons.mpr ⟨bracesAfter_ne_zero first moved, others⟩
  · cases step
    exact List.forall_mem_cons.mpr ⟨Nat.one_ne_zero, opened⟩
  · cases step
    exact opened
  · cases step
    exact (List.forall_mem_cons.mp opened).2
  · exact nomatch step
  · exact nomatch step
  · cases step
    exact opened

theorem Clear.step {stack stack' : List Nat} {token : Token} {rest : List Token}
    (clear : Clear stack (token :: rest)) (read : unread stack token = false)
    (step : token.step stack = some stack') (inside : stack ≠ []) : Clear stack' rest := by
  replace clear := clear read
  cases token with
  | division =>
      obtain rfl : stack = stack' := by
        cases stack <;> exact Option.some.inj step
      exact clear.2 inside
  | lineComment content lineEnd =>
      obtain rfl : stack = stack' := by
        cases stack <;> exact Option.some.inj step
      exact clear.2
  | htmlComment opening content lineEnd => exact clear.elim
  | code | blockComment | string | pattern | template | templateHead | templateMiddle
  | templateTail => exact clear stack' step

/-- A literal whose own level is not read. -/
theorem resume_literal {braces : Nat} {stack : List Nat} {token : Token} (opened : braces ≠ 0)
    (shallow : stack.length ≤ 16) (formed : token.wellFormed = true)
    (literal : literalToken token = true) (below : 16 < stack.length + 1) (rest : List Char) :
    resume (braces :: stack) (token.text ++ rest) = [] := by
  obtain ⟨quote, text, same, mark⟩ : ∃ quote text, token.text = quote :: text ∧
      quoteMark quote = true := by
    cases token with
    | string quote content =>
        exact ⟨quote, _, rfl, quoteMark_of_string (Bool.and_eq_true_iff.mp formed).1⟩
    | template content => exact ⟨'`', _, rfl, rfl⟩
    | _ => exact nomatch literal
  rw [same, List.cons_append, resume_quote opened shallow mark, literalRest_deep below, resume_nil]

/-- Nothing is read from a token below the sixteenth level on. -/
theorem resume_unread {braces : Nat} {stack : List Nat} {token : Token} (opened : braces ≠ 0)
    (formed : token.wellFormed = true) (below : unread (braces :: stack) token = true)
    (rest : List Char) : resume (braces :: stack) (token.text ++ rest) = [] := by
  rcases Nat.lt_or_ge 16 stack.length with deep | shallow
  · exact resume_deep deep _ _
  · have notDeep : decide (17 < (braces :: stack).length) = false :=
      decide_eq_false (Nat.not_lt_of_le (Nat.succ_le_succ shallow))
    rw [unread, notDeep, Bool.false_or, Bool.and_eq_true] at below
    exact resume_literal opened shallow formed below.2 (of_decide_eq_true below.1) rest

/-- The sanitizer finds the tokens behind templates. -/
theorem resume_skip {stack : List Nat} {tokens : List Token}
    (opened : ∀ braces ∈ stack, braces ≠ 0) (source : lexed stack tokens = true)
    (clear : Clear stack tokens) :
    resume stack (sourceText tokens) = sourceText (skip stack tokens) := by
  induction tokens generalizing stack with
  | nil =>
      cases stack with
      | nil => rfl
      | cons braces stack => exact absurd (of_decide_eq_true source) (List.cons_ne_nil _ _)
  | cons token rest ih =>
      cases stack with
      | nil => rfl
      | cons braces stack =>
          obtain ⟨formed, followed, stack', step, later⟩ := lexed_cons source
          have first := opened braces (List.mem_cons_self ..)
          rw [skip, sourceText_cons, step]
          split
          · rename_i below
            exact resume_unread first formed below _
          · rename_i read
            have read := Bool.eq_false_iff.mpr read
            rw [resume_token first read source clear step]
            exact ih (step_opened opened step) later (clear.step read step (List.cons_ne_nil _ _))

theorem skip_nil (tokens : List Token) : skip [] tokens = tokens := by
  cases tokens <;> rfl

/-- What is left behind templates is a source that is clear. -/
theorem source_skip {stack : List Nat} {tokens : List Token} (source : lexed stack tokens = true)
    (clear : Clear stack tokens) :
    lexed [] (skip stack tokens) = true ∧ Clear [] (skip stack tokens) := by
  induction tokens generalizing stack with
  | nil =>
      cases stack with
      | nil => exact ⟨rfl, trivial⟩
      | cons braces stack => exact ⟨rfl, trivial⟩
  | cons token rest ih =>
      cases stack with
      | nil => exact ⟨source, clear⟩
      | cons braces stack =>
          obtain ⟨-, -, stack', step, later⟩ := lexed_cons source
          rw [skip, step]
          split
          · exact ⟨rfl, trivial⟩
          · rename_i read
            exact ih later (clear.step (Bool.eq_false_iff.mpr read) step (List.cons_ne_nil _ _))

theorem skip_length (stack : List Nat) (tokens : List Token) :
    (skip stack tokens).length ≤ tokens.length := by
  induction tokens generalizing stack with
  | nil =>
      cases stack with
      | nil => exact Nat.le_refl _
      | cons braces stack => exact Nat.le_refl _
  | cons token rest ih =>
      cases stack with
      | nil => exact Nat.le_refl _
      | cons braces stack =>
          rw [skip]
          split
          · exact Nat.zero_le _
          · split
            · exact Nat.zero_le _
            · exact (ih _).trans (Nat.le_succ _)

theorem Alike.step {token token' : Token} (alike : Alike token token') (stack : List Nat) :
    token.step stack = token'.step stack := by
  cases token <;> cases token' <;> try exact alike.elim
  case code.code text text' =>
    cases alike
    rfl
  all_goals
    cases stack with
    | nil => rfl
    | cons braces stack => rcases braces with _ | _ | braces <;> rfl

theorem Alike.unread {token token' : Token} (alike : Alike token token') (stack : List Nat) :
    unread stack token = unread stack token' := by
  cases token <;> cases token' <;> first | exact alike.elim | rfl

theorem alike_skip {tokens tokens' : List Token} (alike : List.Forall₂ Alike tokens tokens')
    (stack : List Nat) : List.Forall₂ Alike (skip stack tokens) (skip stack tokens') := by
  induction alike generalizing stack with
  | nil =>
      cases stack with
      | nil => exact .nil
      | cons braces stack => exact .nil
  | cons first others ih =>
      cases stack with
      | nil => exact .cons first others
      | cons braces stack =>
          rw [skip, skip, first.step, first.unread]
          split
          · exact .nil
          · split
            · exact .nil
            · exact ih _

/-! ## Code -/

/-- A character that stands in no code. -/
def codeEnd (character : Char) : Bool :=
  character = '/' || quoteMark character

/-- No code stands in front. -/
def Bounded (rest : List Char) : Prop :=
  ∀ character ∈ rest.head?, codeEnd character = true

theorem codeEnd_cases {character : Char} (ends : codeEnd character = true) :
    character = '/' ∨ character = '"' ∨ character = '\'' ∨ character = '`' := by
  simpa only [codeEnd, quoteMark, Bool.or_eq_true, decide_eq_true_eq, or_assoc] using ends

theorem afterFraction_other {input : List Char} (other : input.head? ≠ some '.') :
    afterFraction input = input := by
  unfold afterFraction
  split
  · exact absurd rfl other
  · rfl

theorem afterSign_other {input : List Char} (noPlus : input.head? ≠ some '+')
    (noMinus : input.head? ≠ some '-') : afterSign input = input := by
  unfold afterSign
  split
  · exact absurd rfl noPlus
  · exact absurd rfl noMinus
  · rfl

theorem afterExponent_other {input : List Char} (noLower : input.head? ≠ some 'e')
    (noUpper : input.head? ≠ some 'E') : afterExponent input = input := by
  unfold afterExponent
  split
  · exact absurd rfl noLower
  · exact absurd rfl noUpper
  · rfl

theorem afterNumber_other {digit : Char} {input : List Char} (noLower : input.head? ≠ some 'x')
    (noUpper : input.head? ≠ some 'X') : afterNumber digit input = afterDecimal input := by
  unfold afterNumber
  split
  · exact absurd rfl noLower
  · exact absurd rfl noUpper
  · rfl

section

variable {rest : List Char} (bounded : Bounded rest)
include bounded

theorem takeWhile_bounded {part : Char → Bool}
    (stops : ∀ character, codeEnd character = true → part character = false) (text : List Char) :
    (text ++ rest).takeWhile part = text.takeWhile part ∧
      (text ++ rest).dropWhile part = text.dropWhile part ++ rest := by
  induction text with
  | nil =>
      cases rest with
      | nil => exact ⟨rfl, rfl⟩
      | cons character rest =>
          have none := stops character (bounded character rfl)
          simp only [List.nil_append, List.takeWhile, List.dropWhile, none, and_self]
  | cons character text ih =>
      simp only [List.cons_append, List.takeWhile_cons, List.dropWhile_cons]
      split
      · exact ⟨congrArg _ ih.1, ih.2⟩
      · exact ⟨rfl, rfl⟩

theorem digits_bounded (text : List Char) :
    (text ++ rest).takeWhile unicodeDigit = text.takeWhile unicodeDigit ∧
      (text ++ rest).dropWhile unicodeDigit = text.dropWhile unicodeDigit ++ rest := by
  refine takeWhile_bounded bounded (fun character ends => ?_) text
  rcases codeEnd_cases ends with rfl | rfl | rfl | rfl <;> rfl

/-- What does not start with code is left alone by functions that look for a code character. -/
theorem bounded_head {character : Char} (code : codeEnd character = false) :
    rest.head? ≠ some character := by
  intro same
  rw [bounded character same] at code
  exact Bool.noConfusion code

theorem afterFraction_append (text : List Char) :
    afterFraction (text ++ rest) = afterFraction text ++ rest := by
  cases text with
  | nil => exact afterFraction_other (bounded_head bounded rfl)
  | cons character text =>
      by_cases dot : character = '.'
      · subst dot
        change (if (text ++ rest).takeWhile unicodeDigit = [] then '.' :: (text ++ rest)
            else (text ++ rest).dropWhile unicodeDigit) =
          (if text.takeWhile unicodeDigit = [] then '.' :: text
            else text.dropWhile unicodeDigit) ++ rest
        rw [(digits_bounded bounded text).1, (digits_bounded bounded text).2]
        split
        · rfl
        · rfl
      · have other (text : List Char) : (character :: text).head? ≠ some '.' :=
          fun same => dot (Option.some.inj same)
        rw [List.cons_append, afterFraction_other (other _), afterFraction_other (other _)]
        rfl

theorem afterSign_append (text : List Char) :
    afterSign (text ++ rest) = afterSign text ++ rest := by
  cases text with
  | nil => exact afterSign_other (bounded_head bounded rfl) (bounded_head bounded rfl)
  | cons character text =>
      by_cases plus : character = '+'
      · subst plus
        rfl
      by_cases minus : character = '-'
      · subst minus
        rfl
      have other (text : List Char) : (character :: text).head? ≠ some '+' ∧
          (character :: text).head? ≠ some '-' :=
        ⟨fun same => plus (Option.some.inj same), fun same => minus (Option.some.inj same)⟩
      rw [List.cons_append, afterSign_other (other _).1 (other _).2,
        afterSign_other (other _).1 (other _).2]
      rfl

theorem afterExponent_append (text : List Char) :
    afterExponent (text ++ rest) = afterExponent text ++ rest := by
  have behind (text : List Char) (mark : Char) :
      (if (afterSign (text ++ rest)).takeWhile unicodeDigit = [] then mark :: (text ++ rest)
        else (afterSign (text ++ rest)).dropWhile unicodeDigit) =
      (if (afterSign text).takeWhile unicodeDigit = [] then mark :: text
        else (afterSign text).dropWhile unicodeDigit) ++ rest := by
    rw [afterSign_append bounded, (digits_bounded bounded _).1, (digits_bounded bounded _).2]
    split
    · rfl
    · rfl
  cases text with
  | nil => exact afterExponent_other (bounded_head bounded rfl) (bounded_head bounded rfl)
  | cons character text =>
      by_cases lower : character = 'e'
      · subst lower
        exact behind text 'e'
      by_cases upper : character = 'E'
      · subst upper
        exact behind text 'E'
      have other (text : List Char) : (character :: text).head? ≠ some 'e' ∧
          (character :: text).head? ≠ some 'E' :=
        ⟨fun same => lower (Option.some.inj same), fun same => upper (Option.some.inj same)⟩
      rw [List.cons_append, afterExponent_other (other _).1 (other _).2,
        afterExponent_other (other _).1 (other _).2]
      rfl

theorem afterDecimal_append (text : List Char) :
    afterDecimal (text ++ rest) = afterDecimal text ++ rest := by
  rw [afterDecimal, (digits_bounded bounded text).2, afterFraction_append bounded,
    afterExponent_append bounded]
  rfl

theorem afterNumber_append (digit : Char) (text : List Char) :
    afterNumber digit (text ++ rest) = afterNumber digit text ++ rest := by
  have behind (text : List Char) (mark : Char) :
      (if digit = '0' ∧ (text ++ rest).takeWhile hexadecimal ≠ [] then
          (text ++ rest).dropWhile hexadecimal
        else afterDecimal (mark :: (text ++ rest))) =
      (if digit = '0' ∧ text.takeWhile hexadecimal ≠ [] then text.dropWhile hexadecimal
        else afterDecimal (mark :: text)) ++ rest := by
    have digits := takeWhile_bounded bounded (fun character ends => by
      rcases codeEnd_cases ends with rfl | rfl | rfl | rfl <;> rfl : ∀ character,
        codeEnd character = true → hexadecimal character = false) text
    rw [digits.1, digits.2]
    split
    · rfl
    · exact afterDecimal_append bounded (mark :: text)
  cases text with
  | nil =>
      rw [List.nil_append, afterNumber_other (bounded_head bounded rfl) (bounded_head bounded rfl)]
      exact afterDecimal_append bounded []
  | cons character text =>
      by_cases lower : character = 'x'
      · subst lower
        exact behind text 'x'
      by_cases upper : character = 'X'
      · subst upper
        exact behind text 'X'
      have other (text : List Char) : (character :: text).head? ≠ some 'x' ∧
          (character :: text).head? ≠ some 'X' :=
        ⟨fun same => lower (Option.some.inj same), fun same => upper (Option.some.inj same)⟩
      rw [List.cons_append, afterNumber_other (other _).1 (other _).2,
        afterNumber_other (other _).1 (other _).2]
      exact afterDecimal_append bounded (character :: text)

end

theorem consumed_append (text after rest : List Char) :
    consumed (text ++ rest) (after ++ rest) = consumed text after := by
  unfold consumed
  rw [List.length_append, List.length_append, Nat.add_sub_add_right,
    List.take_append_of_le_length (Nat.sub_le _ _)]

/-! ## The text of a source -/

/-- The text of the evidence. -/
def evidence (source : List Char) : List Char :=
  (sanitizeFunctionSource source).output

theorem evidence_nil : evidence [] = [] := by
  rw [evidence, sanitizeFunctionSource.eq_def]

theorem evidence_line (rest : List Char) :
    evidence ('/' :: '/' :: rest) = ' ' :: evidence (afterLine rest) := by
  rw [evidence, sanitizeFunctionSource.eq_def]
  rfl

theorem evidence_block (rest : List Char) :
    evidence ('/' :: '*' :: rest) = ' ' :: evidence (afterBlock rest) := by
  rw [evidence, sanitizeFunctionSource.eq_def]
  rfl

theorem evidence_quote {quote : Char} (mark : quoteMark quote = true) (rest : List Char) :
    evidence (quote :: rest) =
      literalText quote (consumed rest (literalRest 0 quote 0 rest)) ++
        evidence (literalRest 0 quote 0 rest) := by
  have noSlash : quote ≠ '/' := by
    rintro rfl
    exact absurd mark (by decide)
  rw [evidence, sanitizeFunctionSource.eq_def]
  dsimp only
  rw [if_neg fun comment => noSlash comment.1, if_neg fun comment => noSlash comment.1,
    if_pos mark]
  rfl

theorem evidence_slash {rest : List Char} (noLine : rest.head? ≠ some '/')
    (noBlock : rest.head? ≠ some '*') :
    evidence ('/' :: rest) =
      "\"[redacted regex]\"".toList ++ ((regexpEnd false rest).map evidence).getD [] := by
  rw [evidence, sanitizeFunctionSource.eq_def]
  dsimp only
  rw [if_neg fun comment => noLine comment.2, if_neg fun comment => noBlock comment.2,
    if_neg (by decide), if_pos rfl]
  split
  · rename_i found
    rw [found]
    rfl
  · rename_i found
    rw [found]
    rfl

theorem evidence_other {character : Char} (code : codeEnd character = false) (rest : List Char) :
    evidence (character :: rest) =
      if wordStart character then
        wordText (character :: rest.takeWhile wordPart) ++ evidence (rest.dropWhile wordPart)
      else if character.isDigit then
        numberText (character :: consumed rest (afterNumber character rest)) ++
          evidence (afterNumber character rest)
      else if 32 ≤ character.toNat ∨ character = '\n' ∨ character = '\r' ∨ character = '\t' then
        character :: evidence rest
      else evidence rest := by
  obtain ⟨noSlash, noQuote⟩ := Bool.or_eq_false_iff.mp code
  have noSlash : character ≠ '/' := of_decide_eq_false noSlash
  conv_lhs => rw [evidence, sanitizeFunctionSource.eq_def]
  dsimp only
  rw [if_neg fun comment => noSlash comment.1, if_neg fun comment => noSlash comment.1,
    if_neg (Bool.eq_false_iff.mp noQuote), if_neg noSlash]
  split
  · rfl
  split
  · rfl
  split
  · rfl
  · rfl

/-- Code does not change what is read behind it. -/
theorem evidence_code {text rest : List Char} (code : ∀ character ∈ text, codeEnd character = false)
    (bounded : Bounded rest) : evidence (text ++ rest) = evidence text ++ evidence rest := by
  induction length : text.length using Nat.strong_induction_on generalizing text with
  | _ size ih =>
      cases text with
      | nil => rw [evidence_nil]; rfl
      | cons character text =>
          obtain ⟨first, others⟩ := List.forall_mem_cons.mp code
          have words := takeWhile_bounded bounded (fun character ends => by
            rcases codeEnd_cases ends with rfl | rfl | rfl | rfl <;> rfl : ∀ character,
              codeEnd character = true → wordPart character = false) text
          have further (after : List Char) (suffix : after <:+ text) :
              evidence (after ++ rest) = evidence after ++ evidence rest := by
            refine ih after.length ?_ (fun other member => others other (suffix.subset member)) rfl
            rw [← length]
            exact Nat.lt_succ_of_le suffix.length_le
          rw [List.cons_append, evidence_other first, evidence_other first, words.1, words.2,
            afterNumber_append bounded, consumed_append, further _ (List.dropWhile_suffix _),
            further _ (afterNumber_suffix _ _), further _ (List.suffix_refl _)]
          split
          · rw [List.append_assoc]
          split
          · rw [List.append_assoc]
          split
          · rfl
          · rfl

/-! ## Sources with the same tokens -/

theorem consumed_literal (content : List Piece) (quote : Char) (rest : List Char) :
    consumed (contentText content ++ quote :: rest) rest = contentText content ++ [quote] := by
  have split : contentText content ++ quote :: rest = (contentText content ++ [quote]) ++ rest := by
    rw [List.append_assoc]
    rfl
  rw [consumed, split, List.length_append, Nat.add_sub_cancel, List.take_left]

theorem literalText_template (read : List Char) :
    literalText '`' read = jsonString "[redacted template]" := by
  unfold literalText keeps
  rfl

/-- Contents that are not kept. -/
theorem literalText_hidden {quote : Char} (string : quote ≠ '`') {content : List Char}
    (hidden : allowed content = false) :
    literalText quote (content ++ [quote]) = jsonString "[redacted]" := by
  unfold literalText keeps
  rw [List.dropLast_concat, hidden, Bool.and_false, if_neg Bool.false_ne_true, if_neg string]

theorem literalText_alike {quote : Char} (string : quote ≠ '`') {content content' : List Piece}
    (alike : content = content' ∨
      (allowed (contentText content) = false ∧ allowed (contentText content') = false)) :
    literalText quote (contentText content ++ [quote]) =
      literalText quote (contentText content' ++ [quote]) := by
  rcases alike with rfl | ⟨hidden, hidden'⟩
  · rfl
  · rw [literalText_hidden string hidden, literalText_hidden string hidden']

/-- What stands behind code outside of templates. -/
theorem bounded_of_code {text : List Char} {rest : List Token} (source : lexed [] rest = true)
    (clear : Clear [] rest) (followed : (Token.code text).followedBy rest = true) :
    Bounded (sourceText rest) := by
  cases rest with
  | nil => exact fun _ member => nomatch member
  | cons next rest =>
      obtain ⟨formed, -, stack, step, -⟩ := lexed_cons source
      cases next with
      | code text => exact nomatch followed
      | htmlComment opening content lineEnd => exact (clear rfl).elim
      | templateMiddle content => exact nomatch step
      | templateTail content => exact nomatch step
      | string quote content =>
          rintro _ ⟨⟩
          rw [codeEnd, quoteMark_of_string (Bool.and_eq_true_iff.mp formed).1, Bool.or_true]
      | division | lineComment | blockComment | pattern | template | templateHead =>
          rintro _ ⟨⟩
          rfl

theorem codeText_plain {text : List Char} (inside : codeText text = true) :
    ∀ character ∈ text, codeEnd character = false := by
  induction text using codeText.induct with
  | case1 => exact fun _ member => absurd member List.not_mem_nil
  | case2 text ih =>
      exact List.forall_mem_cons.mpr ⟨rfl, List.forall_mem_cons.mpr ⟨rfl, ih inside⟩⟩
  | case3 character text other ih =>
      rw [codeText] at inside
      · obtain ⟨avoided, others⟩ := Bool.and_eq_true_iff.mp inside
        refine List.forall_mem_cons.mpr ⟨?_, ih others⟩
        rw [Bool.eq_false_iff]
        intro ends
        rcases codeEnd_cases ends with rfl | rfl | rfl | rfl <;> exact absurd avoided (by decide)
      · exact other

section

variable {rest : List Token}

theorem evidence_division (source : lexed [] rest = true)
    (followed : Token.division.followedBy rest = true)
    (clear : regexpEnd false (sourceText rest) = none) :
    evidence (Token.division.text ++ sourceText rest) = "\"[redacted regex]\"".toList := by
  obtain ⟨noLine, noBlock⟩ := head_of_division followed source
  change evidence ('/' :: sourceText rest) = _
  rw [evidence_slash noLine noBlock, clear]
  exact List.append_nil _

theorem evidence_lineComment {content : List Char} {lineEnd : LineEnd}
    (formed : (Token.lineComment content lineEnd).wellFormed = true)
    (followed : (Token.lineComment content lineEnd).followedBy rest = true)
    (clear : lineEnd = .lineFeed ∨ lineEnd = .both ∨ lineEnd = .sourceEnd) :
    evidence ((Token.lineComment content lineEnd).text ++ sourceText rest) =
      ' ' :: evidence (sourceText rest) := by
  change evidence ('/' :: '/' :: (content ++ lineEnd.text ++ sourceText rest)) = _
  rw [evidence_line]
  rcases clear with ends | ends | rfl
  · rw [afterLine_append formed (.inl ends)]
  · rw [afterLine_append formed (.inr ends)]
  · cases rest with
    | nil =>
        change ' ' :: evidence (afterLine ((content ++ []) ++ [])) = _
        rw [List.append_nil, List.append_nil, afterLine_end formed]
        rfl
    | cons next rest => exact nomatch followed

theorem evidence_blockComment {content : List Char}
    (formed : (Token.blockComment content).wellFormed = true) :
    evidence ((Token.blockComment content).text ++ sourceText rest) =
      ' ' :: evidence (sourceText rest) := by
  change evidence ('/' :: '*' :: (content ++ ['*', '/'] ++ sourceText rest)) = _
  rw [evidence_block, List.append_assoc]
  exact congrArg (fun after => ' ' :: evidence after)
    (afterBlock_append (of_decide_eq_false (Bool.not_eq_true' _ |>.mp formed)))

theorem evidence_string {quote : Char} {content : List Piece}
    (formed : (Token.string quote content).wellFormed = true) :
    evidence ((Token.string quote content).text ++ sourceText rest) =
      literalText quote (contentText content ++ [quote]) ++ evidence (sourceText rest) := by
  obtain ⟨mark, inside⟩ := Bool.and_eq_true_iff.mp formed
  rw [string_text, evidence_quote (quoteMark_of_string mark),
    literalRest_string (Nat.zero_le _) mark inside, consumed_literal]

theorem evidence_pattern {body : List PatternPiece} {flags : List Char}
    (formed : (Token.pattern body flags).wellFormed = true)
    (followed : (Token.pattern body flags).followedBy rest = true)
    (source : lexed [] rest = true) :
    evidence ((Token.pattern body flags).text ++ sourceText rest) =
      "\"[redacted regex]\"".toList ++ evidence (sourceText rest) := by
  obtain ⟨⟨nonempty, noComment⟩, inside, flagged⟩ := pattern_parts formed
  obtain ⟨noLine, noBlock⟩ :=
    pattern_head nonempty noComment inside ('/' :: (flags ++ sourceText rest))
  rw [pattern_text, evidence_slash noLine noBlock,
    regexpEnd_append inside flagged (unflagged_of_followedBy source followed)]
  rfl

theorem evidence_template {content : List Piece}
    (formed : (Token.template content).wellFormed = true) :
    evidence ((Token.template content).text ++ sourceText rest) =
      jsonString "[redacted template]" ++ evidence (sourceText rest) := by
  rw [template_text, evidence_quote rfl, literalText_template,
    literalRest_template (Nat.zero_le _) formed (by simp), literalRest_close (Nat.zero_le _) rfl]

theorem evidence_templateHead {content : List Piece}
    (formed : (Token.templateHead content).wellFormed = true) (source : lexed [1] rest = true)
    (clear : Clear [1] rest) :
    evidence ((Token.templateHead content).text ++ sourceText rest) =
      jsonString "[redacted template]" ++ evidence (sourceText (skip [1] rest)) := by
  have opened : ∀ braces ∈ [1], braces ≠ 0 := by simp
  rw [templateHead_text, evidence_quote rfl, literalText_template,
    literalRest_template (Nat.zero_le _) formed (by simp),
    literalRest_expression (Nat.zero_le _), ← resume_skip opened source clear]
  rfl

end

/-- The evidence of a source is that of any source with the same tokens. -/
theorem evidence_alike {tokens tokens' : List Token} (alike : List.Forall₂ Alike tokens tokens')
    (source : lexed [] tokens = true) (source' : lexed [] tokens' = true)
    (clear : Clear [] tokens) (clear' : Clear [] tokens') :
    evidence (sourceText tokens) = evidence (sourceText tokens') := by
  induction length : tokens.length using Nat.strong_induction_on generalizing tokens tokens' with
  | _ size ih =>
      cases alike with
      | nil => rfl
      | @cons token token' rest rest' first others =>
          obtain ⟨formed, followed, stack, step, later⟩ := lexed_cons source
          obtain ⟨formed', followed', stack', step', later'⟩ := lexed_cons source'
          replace clear := clear rfl
          replace clear' := clear' rfl
          have same : stack = stack' := by
            rw [first.step, step'] at step
            exact (Option.some.inj step).symm
          subst same
          have behind (stack : List Nat) (source : lexed stack rest = true)
              (source' : lexed stack rest' = true) (clear : Clear stack rest)
              (clear' : Clear stack rest') : evidence (sourceText (skip stack rest)) =
                evidence (sourceText (skip stack rest')) := by
            obtain ⟨source, clear⟩ := source_skip source clear
            obtain ⟨source', clear'⟩ := source_skip source' clear'
            refine ih _ ?_ (alike_skip others stack) source source' clear clear' rfl
            rw [← length]
            exact Nat.lt_succ_of_le (skip_length stack rest)
          have outside (source : lexed [] rest = true) (source' : lexed [] rest' = true)
              (clear : Clear [] rest) (clear' : Clear [] rest') :
              evidence (sourceText rest) = evidence (sourceText rest') := by
            have same := behind [] source source' clear clear'
            rwa [skip_nil, skip_nil] at same
          rw [sourceText_cons, sourceText_cons]
          cases token <;> cases token' <;> try exact first.elim
          case code.code text text' =>
            cases first
            cases step
            have ended := bounded_of_code later (clear _ rfl) followed
            have ended' := bounded_of_code later' (clear' _ rfl) followed'
            have plain := codeText_plain (Bool.and_eq_true_iff.mp formed).2
            change evidence (text ++ _) = evidence (text ++ _)
            rw [evidence_code plain ended, evidence_code plain ended']
            exact congrArg _ (outside later later' (clear _ rfl) (clear' _ rfl))
          case division.division =>
            cases step
            rw [evidence_division later followed clear.1,
              evidence_division later' followed' clear'.1]
          case lineComment.lineComment content lineEnd content' lineEnd' =>
            cases step
            rw [evidence_lineComment formed followed clear.1,
              evidence_lineComment formed' followed' clear'.1]
            exact congrArg _ (outside later later' clear.2 clear'.2)
          case htmlComment.htmlComment => exact clear.elim
          case blockComment.blockComment content content' =>
            cases step
            rw [evidence_blockComment formed, evidence_blockComment formed']
            exact congrArg _ (outside later later' (clear _ rfl) (clear' _ rfl))
          case string.string quote content quote' content' =>
            cases step
            obtain ⟨rfl, alike⟩ := first
            have mark := (Bool.and_eq_true_iff.mp formed).1
            have string : quote ≠ '`' := by
              rintro rfl
              exact absurd mark (by decide)
            rw [evidence_string formed, evidence_string formed', literalText_alike string alike]
            exact congrArg _ (outside later later' (clear _ rfl) (clear' _ rfl))
          case pattern.pattern body flags body' flags' =>
            cases step
            rw [evidence_pattern formed followed later, evidence_pattern formed' followed' later']
            exact congrArg _ (outside later later' (clear _ rfl) (clear' _ rfl))
          case template.template content content' =>
            cases step
            rw [evidence_template formed, evidence_template formed']
            exact congrArg _ (outside later later' (clear _ rfl) (clear' _ rfl))
          case templateHead.templateHead content content' =>
            cases step
            rw [evidence_templateHead formed later (clear _ rfl),
              evidence_templateHead formed' later' (clear' _ rfl)]
            exact congrArg _ (behind [1] later later' (clear _ rfl) (clear' _ rfl))
          case templateMiddle.templateMiddle => exact nomatch step
          case templateTail.templateTail => exact nomatch step

/-! ## Two functions -/

def plainContent (text : String) : List Piece :=
  text.toList.map Piece.plain

/-- A function with a comment, a regular expression and nested templates around a secret. -/
def labelFunction (secret : String) : List Token :=
  [.lineComment secret.toList .lineFeed, .code "return ".toList,
    .pattern (secret.toList.map PatternPiece.plain) ['g'], .code ".test(e) ? ".toList,
    .templateHead (plainContent secret), .code "a ".toList, .division, .code " 2 + \x7bx: ".toList,
    .templateHead (plainContent secret), .code "\n e".toList, .templateTail [],
      .code "\x7d.x".toList,
    .templateTail (plainContent secret), .code " : ".toList, .string '"' (plainContent "免费")]

theorem alike_label (secret secret' : String) :
    List.Forall₂ Alike (labelFunction secret) (labelFunction secret') := by
  simp [labelFunction, Alike]

theorem clear_label {secret : String}
    (slash : regexpEnd false (sourceText ((labelFunction secret).drop 7)) = none) :
    Clear [] (labelFunction secret) := by
  simpa [labelFunction, Clear, unread, literalToken, Token.step, bracesAfter] using slash

theorem evidence_alike_label :
    evidence (sourceText (labelFunction "first-secret")) =
      evidence (sourceText (labelFunction "other")) :=
  evidence_alike (alike_label _ _) (by decide) (by decide)
    (clear_label (by decide +kernel)) (clear_label (by decide +kernel))

/-- A function that divides before a secret. -/
def quotientFunction (secret : String) : List Token :=
  [.code "return a ".toList, .division, .code " ".toList, .string '"' (plainContent secret)]

/-- The division is taken for a regular expression that ends inside the secret. -/
theorem quotient_leaks :
    ¬∀ tokens tokens', List.Forall₂ Alike tokens tokens' → lexed [] tokens = true →
      lexed [] tokens' = true → evidence (sourceText tokens) = evidence (sourceText tokens') := by
  intro claimed
  have same := claimed (quotientFunction "se/cret") (quotientFunction "se/hush")
    (by simp [quotientFunction, Alike]; decide) (by decide) (by decide)
  revert same
  decide +kernel

end TennisAlerts.PiHost.Sanitizer
