import TennisAlerts.HostCore.Service
import Mathlib.Data.Char
import Mathlib.Data.List.Lex

/-!
# The WeChat queue

`wechat_queue.py`: the lines of a group message, the check that every advertised
interval is covered by current slots, and the insertion of one row for each
receiver.  `\d` matches every Unicode decimal digit and `\s` every character for
which `str.isspace` holds; times are compared as texts.
-/

namespace TennisAlerts.HostCore

open TennisAlerts.Concurrent TennisAlerts.Database Script

/-! ## Lines -/

/-- Line boundaries of `str.splitlines`. -/
def lineBreak (character : Char) : Bool :=
  let code := character.toNat
  (10 ≤ code && code ≤ 13) || (28 ≤ code && code ≤ 30) || code = 0x85 || code = 0x2028 ||
    code = 0x2029

/-- `str.splitlines`, with the characters of the current line in reverse. -/
def splitLinesFrom (current : List Char) : List Char → List (List Char)
  | [] => if current = [] then [] else [current.reverse]
  | '\r' :: '\n' :: rest => current.reverse :: splitLinesFrom [] rest
  | character :: rest =>
      if lineBreak character then current.reverse :: splitLinesFrom [] rest
      else splitLinesFrom (character :: current) rest

/-- `str.splitlines`. -/
def splitLines (text : String) : List String :=
  (splitLinesFrom [] text.toList).map String.ofList

/-- The zeros of the Unicode decimal digits; each is followed by its other nine. -/
def digitZeros : List Nat :=
  [0x30, 0x660, 0x6f0, 0x7c0, 0x966, 0x9e6, 0xa66, 0xae6, 0xb66, 0xbe6, 0xc66, 0xce6, 0xd66,
    0xde6, 0xe50, 0xed0, 0xf20, 0x1040, 0x1090, 0x17e0, 0x1810, 0x1946, 0x19d0, 0x1a80, 0x1a90,
    0x1b50, 0x1bb0, 0x1c40, 0x1c50, 0xa620, 0xa8d0, 0xa900, 0xa9d0, 0xa9f0, 0xaa50, 0xabf0,
    0xff10, 0x104a0, 0x10d30, 0x11066, 0x110f0, 0x11136, 0x111d0, 0x112f0, 0x11450, 0x114d0,
    0x11650, 0x116c0, 0x11730, 0x118e0, 0x11950, 0x11c50, 0x11d50, 0x11da0, 0x11f50, 0x16a60,
    0x16ac0, 0x16b50, 0x1d7ce, 0x1d7d8, 0x1d7e2, 0x1d7ec, 0x1d7f6, 0x1e140, 0x1e2f0, 0x1e4f0,
    0x1e950, 0x1fbf0]

/-- `\d` of a text pattern. -/
def unicodeDigit (character : Char) : Bool :=
  digitZeros.any fun first => first ≤ character.toNat && character.toNat ≤ first + 9

/-- The characters of the text are accepted one by one. -/
def fits (pattern : List (Char → Bool)) (text : List Char) : Bool :=
  pattern.length = text.length &&
    (pattern.zip text).all fun pair => pair.1 pair.2

/-- One literal character. -/
def literal (wanted : Char) (character : Char) : Bool :=
  character = wanted

/-- `\d{2}:\d{2}-\d{2}:\d{2}`. -/
def intervalPattern : List (Char → Bool) :=
  [unicodeDigit, unicodeDigit, literal ':', unicodeDigit, unicodeDigit, literal '-',
    unicodeDigit, unicodeDigit, literal ':', unicodeDigit, unicodeDigit]

/-- `】星期[一二三四五六日]\((\d{2}-\d{2})\)空场[:：]`. -/
def framePattern : List (Char → Bool) :=
  [literal '】', literal '星', literal '期',
    fun character => ['一', '二', '三', '四', '五', '六', '日'].contains character, literal '(',
    unicodeDigit, unicodeDigit, literal '-', unicodeDigit, unicodeDigit, literal ')',
    literal '空', literal '场', fun character => character = ':' || character = '：']

/-- The groups of `LINE`. -/
structure Line where
  court : List Char
  day : List Char
  start : List Char
  finish : List Char
  deriving DecidableEq

/-- `LINE.fullmatch`.  The interval and the frame have fixed lengths and the frame
ends in a character that is no space, so the match is determined from the right. -/
def parseLine (text : List Char) : Option Line :=
  let interval := text.drop (text.length - 11)
  let head := ((text.take (text.length - 11)).reverse.dropWhile pythonSpace).reverse
  let frame := head.drop (head.length - 14)
  match head.take (head.length - 14) with
  | '【' :: court =>
      if fits intervalPattern interval && fits framePattern frame && court != [] &&
          !court.contains '\n' then
        some ⟨court, (frame.drop 5).take 5, interval.take 5, interval.drop 6⟩
      else none
  | _ => none

example : parseLine "【1号场】星期日(11-01)空场: 18:00-19:00".toList =
    some ⟨"1号场".toList, "11-01".toList, "18:00".toList, "19:00".toList⟩ := by decide

/-! ## Coverage -/

/-- A current slot, with the texts of its columns. -/
structure CurrentSlot where
  eventKey : String
  bookingDate : Int
  courtName : List Char
  startTime : List Char
  endTime : List Char
  deriving DecidableEq

/-- Why a message is refused: a line is malformed, or its interval is no longer
covered (`AvailabilityChanged`). -/
inductive CoverError
  | invalid
  | availabilityChanged
  deriving DecidableEq

/-- The slots that may cover a line, by start time. -/
def candidates (line : Line) (finish : List Char) (slots : List CurrentSlot) :
    List CurrentSlot :=
  (slots.filter fun slot =>
    decide ((monthDay slot.bookingDate).toList = line.day) &&
      (slot.courtName.isSuffixOf line.court || line.court.isSuffixOf slot.courtName) &&
      decide (slot.startTime < finish) && decide (line.start < slot.endTime)).insertionSort
    fun first second => first.startTime ≤ second.startTime

/-- The sweep over the candidates: how far they cover, and with which keys. -/
def sweep (finish : List Char) : List Char → List String → List CurrentSlot →
    List Char × List String
  | cursor, keys, [] => (cursor, keys)
  | cursor, keys, slot :: rest =>
      if cursor < slot.startTime then (cursor, keys)
      else
        let next := if cursor < slot.endTime then slot.endTime else cursor
        if finish ≤ next then (next, keys ++ [slot.eventKey])
        else sweep finish next (keys ++ [slot.eventKey]) rest

/-- One line of `covered_events`. -/
def coverLine (text : String) (slots : List CurrentSlot) : Except CoverError (List String) :=
  match parseLine (strip text).toList with
  | none => .error .invalid
  | some line =>
      if ¬("00:00".toList ≤ line.start ∧ line.start < line.finish ∧
            line.finish ≤ "24:00".toList) ∨
          "59".toList < line.start.drop 3 ∨ "59".toList < line.finish.drop 3 then
        .error .invalid
      else
        let finish := if line.finish = "24:00".toList then "23:59".toList else line.finish
        let swept := sweep finish line.start [] (candidates line finish slots)
        if swept.1 < finish then .error .availabilityChanged else .ok swept.2

/-- The union of the keys of the lines. -/
def coverLines (slots : List CurrentSlot) : List String → Except CoverError (List String)
  | [] => .ok []
  | line :: rest => do
      let keys ← coverLine line slots
      let more ← coverLines slots rest
      return keys ++ more

/-- `sorted` of a set of texts. -/
def sortedSet (texts : List String) : List String :=
  texts.dedup.insertionSort (· ≤ ·)

/-- `covered_events`. -/
def coveredEvents (message : String) (slots : List CurrentSlot) :
    Except CoverError (List String) := do
  let keys ← coverLines slots (splitLines message)
  if keys = [] then .error .invalid else .ok (sortedSet keys)

/-- What `current_message` returns. -/
structure CurrentMessage where
  message : String
  keys : List String
  rejected : List String
  deriving DecidableEq

/-- The loop of `current_message` over the stripped lines. -/
def currentLines (slots : List CurrentSlot) :
    List String → Except CoverError (List String × List String × List String)
  | [] => .ok ([], [], [])
  | line :: rest =>
      match coveredEvents (strip line) slots with
      | .error .invalid => .error .invalid
      | .error .availabilityChanged => do
          let (retained, keys, rejected) ← currentLines slots rest
          return (retained, keys, strip line :: rejected)
      | .ok covered => do
          let (retained, keys, rejected) ← currentLines slots rest
          return (strip line :: retained, covered ++ keys, rejected)

/-- `current_message`. -/
def currentMessage (message : String) (slots : List CurrentSlot) :
    Except CoverError CurrentMessage := do
  let (retained, keys, rejected) ← currentLines slots (sortedSet (splitLines message))
  return ⟨"\n".intercalate retained, sortedSet keys, rejected⟩

/-! ## Enqueue -/

/-- A slot row as the queries return it. -/
def currentSlot (eventKey : String) (slot : SlotRow) : CurrentSlot where
  eventKey := eventKey
  bookingDate := slot.bookingDate
  courtName := slot.courtName.toList
  startTime := (clockText slot.startTime).toList
  endTime := (clockText slot.endTime).toList

/-- The slots among the selected ones that have not started and were seen within
the last 15 minutes. -/
def freshSlots (selects : String → SlotRow → Bool) (now : Int) (snapshot : Snapshot) :
    List CurrentSlot :=
  (snapshot.slots.rows.filter fun entry =>
    selects entry.1 entry.2 && decide (now < Snapshot.slotStart entry.2) &&
      snapshot.seenRecently entry.1 now).map fun entry => currentSlot entry.1 entry.2

/-- The query of `active_subscription_for_venue`. -/
def venueSubscribed (venueId : String) (now : Int) (snapshot : Snapshot) : Bool :=
  snapshot.subscriptionVenues.rows.any fun entry =>
    entry.1.2 = venueId &&
      (snapshot.subscriptions.row entry.1.1).any fun row => snapshot.eligible row now

/-- `active_subscription_for_venue`. -/
def activeSubscriptionForVenue (actor : Actor) (venueId : String) : Script Bool := do
  if venueId ∈ venueIds then
    let now ← utcNow
    let found ← select (.work actor) (venueSubscribed venueId now)
    commit (.work actor)
    return found
  else
    return false

/-- A validated enqueue request. -/
structure EnqueueInput where
  venueId : String
  message : String
  deviceName : String
  receivers : List String

/-- The row that `_enqueue` inserts for a receiver. -/
def newWechat (input : EnqueueInput) (receiver : String) (current : CurrentMessage)
    (expiresAt now : Int) : WechatRow where
  venueId := input.venueId
  receiver := receiver
  deviceName := input.deviceName
  message := current.message
  eventKeys := current.keys
  status := .pending
  attemptCount := 0
  nextAttemptAt := now
  expiresAt := expiresAt
  leaseOwner := none
  leaseUntil := none
  outboundMessage := none
  programId := none
  sentAt := none
  lastError := none
  createdAt := now
  updatedAt := now

/-- The identity of a queued message. -/
def Digests.wechatId (digests : Digests) (input : EnqueueInput) (receiver : String)
    (current : CurrentMessage) : String :=
  digests.sha256 ("\x00".intercalate
    ([input.venueId, receiver, input.deviceName, current.message] ++ current.keys))

/-- The latest start of the slots a message is about. -/
def latestStart (keys : List String) (snapshot : Snapshot) : Int :=
  (snapshot.slots.rows.filterMap fun entry =>
    if entry.1 ∈ keys then some (Snapshot.slotStart entry.2) else none).foldl max 0

/-- The validation of the payload in `_enqueue`. -/
def validEnqueue (input : EnqueueInput) : Bool :=
  decide (input.venueId ∈ venueIds) && input.deviceName != "" &&
    decide (input.deviceName.length ≤ 128) && input.message != "" &&
    decide (input.message.length ≤ 20000) && decide (1 ≤ input.receivers.length) &&
    decide (input.receivers.length ≤ 20) &&
    input.receivers.all fun receiver =>
      strip receiver != "" && decide ((strip receiver).length ≤ 256)

/-- `_enqueue`. -/
def enqueue (actor : Actor) (digests : Digests) (input : EnqueueInput) : Script Unit := do
  if validEnqueue input then
    if ← activeSubscriptionForVenue actor input.venueId then
      let now ← utcNow
      let begun ← utcNow
      let slots ← select (.work actor)
        (freshSlots (fun _ slot => decide (slot.venueId = input.venueId)) begun)
      match currentMessage input.message slots with
      | .error _ => raise ()
      | .ok current =>
          if current.keys = [] then
            commit (.work actor)
          else
            let startAt ← select (.work actor) (latestStart current.keys)
            ((input.receivers.map strip).eraseDups).forM fun receiver => do
              let _ ← insertIfAbsent .wechat (.work actor)
                (digests.wechatId input receiver current)
                (newWechat input receiver current (min (now + minutes 5) startAt) begun)
            commit (.work actor)
    else
      pure ()
  else
    raise ()

end TennisAlerts.HostCore
