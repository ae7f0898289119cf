import TennisAlerts.HostCore.WechatQueue
import Mathlib.Data.Rat.Defs

/-!
# Visual text

How `appium_text_sender.py` compares a text on the screen with the name of a receiver.
Scores are rational numbers.  The Unicode tables of `isalnum` and `lower` are parameters.
-/

namespace TennisAlerts.Sender

open TennisAlerts.HostCore (unicodeDigit)

/-- The tables behind `str.isalnum` and `str.lower` of one character. -/
structure UnicodeTables where
  isAlnum : Char → Bool
  lower : Char → List Char

/-- The tables on the ASCII characters. -/
def asciiTables : UnicodeTables :=
  ⟨Char.isAlphanum, fun character => [character.toLower]⟩

/-- `_normalize_visual_text`. -/
def normalizeVisualText (tables : UnicodeTables) (value : String) : List Char :=
  (value.toList.filter tables.isAlnum).flatMap tables.lower

/-- `re.findall(r"\d+", text)`. -/
def digitRuns (text : List Char) : List (List Char) :=
  (text.splitOnP fun character => !unicodeDigit character).filter (· ≠ [])

example : digitRuns "a12b3".toList = ["12".toList, "3".toList] := by decide

/-! ## `difflib.SequenceMatcher` -/

/-- Positions where both texts agree, and for how long. -/
structure Match where
  a : Nat
  b : Nat
  size : Nat
  deriving DecidableEq

/-- How far both texts agree on characters that are accepted. -/
def agreement (accept : Char → Bool) : List Char → List Char → Nat
  | x :: a, y :: b => if x = y ∧ accept y then agreement accept a b + 1 else 0
  | _, _ => 0

/-- The popular characters of a long second text, which start no match. -/
def popular (b : List Char) (character : Char) : Bool :=
  200 ≤ b.length && b.length / 100 + 1 < b.count character

/-- `find_longest_match`: the first of the longest matches, extended at both ends. -/
def findLongestMatch (rare : Char → Bool) (a b : List Char) : Match :=
  let starts : List Match := (List.range a.length).flatMap fun i =>
    (List.range b.length).map fun j => ⟨i, j, agreement rare (a.drop i) (b.drop j)⟩
  let best := starts.foldl (fun best next => if best.size < next.size then next else best) ⟨0, 0, 0⟩
  let before := agreement (fun _ => true) (a.take best.a).reverse (b.take best.b).reverse
  let after := agreement (fun _ => true) (a.drop (best.a + best.size)) (b.drop (best.b + best.size))
  ⟨best.a - before, best.b - before, before + best.size + after⟩

/-- The sizes of `get_matching_blocks` together.  Every block shortens `a`, so its length is
fuel enough. -/
def matchedCharacters (rare : Char → Bool) : Nat → List Char → List Char → Nat
  | 0, _, _ => 0
  | fuel + 1, a, b =>
      let block := findLongestMatch rare a b
      if block.size = 0 then 0
      else
        matchedCharacters rare fuel (a.take block.a) (b.take block.b) + block.size +
          matchedCharacters rare fuel (a.drop (block.a + block.size))
            (b.drop (block.b + block.size))

/-- `SequenceMatcher(None, a, b).ratio()`. -/
def sequenceRatio (a b : List Char) : ℚ :=
  if a.length + b.length = 0 then 1
  else
    2 * matchedCharacters (fun character => !popular b character) a.length a b /
      (a.length + b.length : ℕ)

/-! ## Scores -/

/-- `round(length * 0.6)`. -/
def sixTenths (length : Nat) : Nat :=
  (6 * length + 5) / 10

/-- `0.9 + 0.08 * len(candidate) / len(expected)`. -/
def truncatedScore (candidate expected : List Char) : ℚ :=
  9 / 10 + 8 / 100 * candidate.length / expected.length

/-- `_visual_text_match_score`, after the normalisation. -/
def normalizedScore (candidate expected : List Char) (allowTruncatedNumericSuffix : Bool) : ℚ :=
  if candidate = [] ∨ expected = [] then 0
  else if candidate = expected then 1
  else if expected <:+: candidate then 99 / 100
  else if digitRuns expected ≠ [] ∧ digitRuns candidate ≠ digitRuns expected then
    if allowTruncatedNumericSuffix ∧ digitRuns candidate = [] ∧
        max 8 (sixTenths expected.length) ≤ candidate.length ∧ candidate <+: expected then
      truncatedScore candidate expected
    else 0
  else if max 8 (expected.length - 2) ≤ candidate.length ∧ candidate <+: expected then
    truncatedScore candidate expected
  else if candidate.length < max 8 (sixTenths expected.length) then 0
  else if 72 / 100 ≤ sequenceRatio candidate expected then sequenceRatio candidate expected
  else 0

/-- `_visual_text_match_score`. -/
def visualTextMatchScore (tables : UnicodeTables) (candidate expected : String)
    (allowTruncatedNumericSuffix : Bool) : ℚ :=
  normalizedScore (normalizeVisualText tables candidate) (normalizeVisualText tables expected)
    allowTruncatedNumericSuffix

/-- `_is_unambiguous_recent_chat_match`. -/
def isUnambiguousRecentChatMatch (tables : UnicodeTables) (candidate expected : String) : Bool :=
  let candidateDigits := digitRuns (normalizeVisualText tables candidate)
  let expectedDigits := digitRuns (normalizeVisualText tables expected)
  if expectedDigits ≠ [] ∧ candidateDigits ≠ expectedDigits then false
  else 95 / 100 ≤ visualTextMatchScore tables candidate expected true

/-! ## The chat page -/

/-- What is read of a text on the screen: an accessible element, with twice the height of its
centre, or a recognised line with its top. -/
structure ScreenText where
  text : String
  vertical : Int
  left : Int
  deriving DecidableEq

/-- What `_is_visual_chat_page` reads of the phone.  The lines are those recognised in the
region of the title. -/
structure Screen where
  chattingActivity : Bool
  launcherActivity : Bool
  mainPage : Bool
  height : Int
  elements : List ScreenText
  titleLines : List ScreenText

/-- The texts that reach the minimum score, the best first, then from the top left. -/
def bestTexts (tables : UnicodeTables) (expected : String) (minimumScore : ℚ)
    (allowTruncatedNumericSuffix : Bool) (texts : List ScreenText) : List ScreenText :=
  let score (item : ScreenText) :=
    visualTextMatchScore tables item.text expected allowTruncatedNumericSuffix
  (texts.filter fun item => minimumScore ≤ score item).mergeSort fun item other =>
    score other < score item ∨ score item = score other ∧
      (item.vertical < other.vertical ∨ item.vertical = other.vertical ∧ item.left ≤ other.left)

/-- `_find_accessible_text_candidates`, between two heights in hundredths of the screen. -/
def findAccessibleTextCandidates (tables : UnicodeTables) (screen : Screen) (receiver : String)
    (top bottom : Int) (minimumScore : ℚ) (allowTruncatedNumericSuffix : Bool) : List ScreenText :=
  bestTexts tables receiver minimumScore allowTruncatedNumericSuffix
    (screen.elements.filter fun element =>
      2 * screen.height * top ≤ 100 * element.vertical ∧
        100 * element.vertical ≤ 2 * screen.height * bottom)

/-- `_has_accessible_title`. -/
def hasAccessibleTitle (tables : UnicodeTables) (screen : Screen) (receiver : String) : Bool :=
  !(findAccessibleTextCandidates tables screen receiver 0 18 (86 / 100) false).isEmpty

/-- `_find_visual_line` in the region of the title. -/
def findTitleLine (tables : UnicodeTables) (screen : Screen) (receiver : String) :
    Option ScreenText :=
  (bestTexts tables receiver (86 / 100) false screen.titleLines).head?

/-- `_is_visual_chat_page`. -/
def isVisualChatPage (tables : UnicodeTables) (screen : Screen) (receiver : String) : Bool :=
  if ¬(screen.chattingActivity ∨ screen.launcherActivity) then false
  else if screen.launcherActivity ∧ screen.mainPage then false
  else if hasAccessibleTitle tables screen receiver then true
  else (findTitleLine tables screen receiver).isSome

end TennisAlerts.Sender
