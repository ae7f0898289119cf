import Mathlib.Data.List.Basic
import Mathlib.Data.List.Infix

/-!
# The lexical structure of JavaScript

A source as the list of its tokens.  Code between literals, comments and divisions is one
token; a template with expressions is several, with the tokens of the expressions between
them.
-/

namespace TennisAlerts.Text.Script

/-- A character of a literal, or an escape. -/
inductive Piece
  | plain (character : Char)
  | escape (character : Char)
  deriving DecidableEq

/-- A character of a regular expression, an escape, or a class. -/
inductive PatternPiece
  | plain (character : Char)
  | escape (character : Char)
  | charClass (content : List Piece)
  deriving DecidableEq

/-- What ends a comment of one line. -/
inductive LineEnd
  | lineFeed
  | carriageReturn
  | both
  | lineSeparator
  | paragraphSeparator
  | sourceEnd
  deriving DecidableEq

/-- A token.  `htmlComment` is a comment behind `<!--` or `-->`. -/
inductive Token
  | code (text : List Char)
  | division
  | lineComment (content : List Char) (lineEnd : LineEnd)
  | htmlComment (opening : Bool) (content : List Char) (lineEnd : LineEnd)
  | blockComment (content : List Char)
  | string (quote : Char) (content : List Piece)
  | pattern (body : List PatternPiece) (flags : List Char)
  | template (content : List Piece)
  | templateHead (content : List Piece)
  | templateMiddle (content : List Piece)
  | templateTail (content : List Piece)
  deriving DecidableEq

/-! ## Texts -/

def Piece.text : Piece → List Char
  | .plain character => [character]
  | .escape character => ['\\', character]

def contentText (content : List Piece) : List Char :=
  content.flatMap Piece.text

def PatternPiece.text : PatternPiece → List Char
  | .plain character => [character]
  | .escape character => ['\\', character]
  | .charClass content => '[' :: contentText content ++ [']']

def LineEnd.text : LineEnd → List Char
  | .lineFeed => ['\n']
  | .carriageReturn => ['\r']
  | .both => ['\r', '\n']
  | .lineSeparator => ['\u2028']
  | .paragraphSeparator => ['\u2029']
  | .sourceEnd => []

def Token.text : Token → List Char
  | .code text => text
  | .division => ['/']
  | .lineComment content lineEnd => '/' :: '/' :: content ++ lineEnd.text
  | .htmlComment opening content lineEnd =>
      (if opening then "<!--" else "-->").toList ++ content ++ lineEnd.text
  | .blockComment content => '/' :: '*' :: content ++ ['*', '/']
  | .string quote content => quote :: contentText content ++ [quote]
  | .pattern body flags => '/' :: body.flatMap PatternPiece.text ++ '/' :: flags
  | .template content => '`' :: contentText content ++ ['`']
  | .templateHead content => '`' :: contentText content ++ ['$', '{']
  | .templateMiddle content => '}' :: contentText content ++ ['$', '{']
  | .templateTail content => '}' :: contentText content ++ ['`']

/-- The source of the tokens. -/
def sourceText (tokens : List Token) : List Char :=
  tokens.flatMap Token.text

/-! ## Well-formed tokens -/

/-- The characters that end a line. -/
def lineTerminator (character : Char) : Bool :=
  ['\n', '\r', '\u2028', '\u2029'].contains character

/-- No quote and no slash stands in code, and a backslash only in `\u`. -/
def codeText : List Char → Bool
  | [] => true
  | '\\' :: 'u' :: rest => codeText rest
  | character :: rest => !(['"', '\'', '`', '/', '\\'].contains character) && codeText rest

/-- The piece does not hold a character as it is. -/
def Piece.avoids (excluded : List Char) : Piece → Bool
  | .plain character => !excluded.contains character
  | .escape _ => true

/-- No expression starts among the characters of a template. -/
def templateText : List Piece → Bool
  | [] => true
  | .plain '$' :: .plain '{' :: _ => false
  | piece :: rest => piece.avoids ['`', '\\'] && templateText rest

/-- A piece of a regular expression stays on its line. -/
def PatternPiece.wellFormed : PatternPiece → Bool
  | .plain character => !(['/', '\\', '['].contains character) && !lineTerminator character
  | .escape character => !lineTerminator character
  | .charClass content => content.all fun piece =>
      match piece with
      | .plain character => !([']', '\\'].contains character) && !lineTerminator character
      | .escape character => !lineTerminator character

/-- The flags of a regular expression. -/
def flag (character : Char) : Bool :=
  "dgimsuvy".toList.contains character

def Token.wellFormed : Token → Bool
  | .code text => text != [] && codeText text
  | .division => true
  | .lineComment content _ | .htmlComment _ content _ => content.all fun character =>
      !lineTerminator character
  | .blockComment content => !decide (['*', '/'] <:+: content)
  | .string quote content => ['"', '\''].contains quote && content.all (Piece.avoids [quote, '\\'])
  | .pattern body flags =>
      body != [] && body.head? != some (.plain '*') && body.all PatternPiece.wellFormed &&
        flags.all flag
  | .template content | .templateHead content | .templateMiddle content
  | .templateTail content => templateText content

/-- The token that comes next does not belong to the token. -/
def Token.followedBy (token : Token) (rest : List Token) : Bool :=
  match token, rest with
  | .code _, .code _ :: _ => false
  | .division, next :: _ => !(['/', '*'].any fun character => next.text.head? = some character)
  | .lineComment _ .sourceEnd, _ :: _ | .htmlComment _ _ .sourceEnd, _ :: _ => false
  | .pattern _ _, .code text :: _ => !text.head?.any flag
  | _, _ => true

/-! ## Expressions of templates -/

/-- The open braces of an expression behind some code of it; the brace that closes the
expression is no code. -/
def bracesAfter (braces : Nat) : List Char → Option Nat
  | [] => some braces
  | '{' :: rest => bracesAfter (braces + 1) rest
  | '}' :: rest => if braces ≤ 1 then none else bracesAfter (braces - 1) rest
  | _ :: rest => bracesAfter braces rest

/-- The open braces of the expressions that a token stands in, the innermost first. -/
def Token.step : List Nat → Token → Option (List Nat)
  | braces :: stack, .code text => (bracesAfter braces text).map (· :: stack)
  | stack, .templateHead _ => some (1 :: stack)
  | 1 :: stack, .templateMiddle _ => some (1 :: stack)
  | 1 :: stack, .templateTail _ => some stack
  | _, .templateMiddle _ | _, .templateTail _ => none
  | stack, _ => some stack

/-- The tokens are those of a source, from inside the given expressions on. -/
def lexed : List Nat → List Token → Bool
  | stack, [] => stack = []
  | stack, token :: rest =>
      token.wellFormed && token.followedBy rest &&
        match token.step stack with
        | none => false
        | some stack => lexed stack rest

end TennisAlerts.Text.Script
