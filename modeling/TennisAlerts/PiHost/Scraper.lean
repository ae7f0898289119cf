import TennisAlerts.Concurrent.Failing
import TennisAlerts.Watchers.Calendar
import Mathlib.Data.List.Sort

/-!
# The schedule scraper

`dsh_ydmap/server.py`: what a page of the booking site must show before its courts
count, the walk over the groups and dates of a venue, and the `/inspect` requests,
which the lock `SCRAPE_LOCK` keeps apart.

A page is what the script in the browser returns; a field that is missing or has
another type than the page script writes is `none`.  What the browser answers, its
exceptions and the clock are inputs.
-/

namespace TennisAlerts.PiHost.Scraper

open TennisAlerts.Concurrent TennisAlerts.HostCore

/-! ## Pages -/

/-- The identities of the two data arrays. -/
structure Version where
  platforms : Option Int
  orders : Option Int
  deriving DecidableEq

/-- Start and end texts of the bookable cells of a court. -/
abbrev Ranges :=
  List (String × String)

/-- What `EXTRACT_DAY_JS` returns. -/
structure Page where
  captcha : Bool
  accessError : Option String
  ready : Bool
  cellCount : Option Int
  pageHost : Option String
  selectedSalesId : Option String
  sourceSalesId : Option String
  selectedProduct : Option String
  sourceProduct : Option String
  productName : Option String
  productNameField : Option String
  productInCatalog : Bool
  selectedDate : Option String
  queryDate : Option String
  availableDates : List String
  loadingCounter : Option Int
  loadGeneration : Option Int
  dataVersion : Option Version
  courtNames : Option (List (Option String))
  courts : Option (List (String × Ranges))
  hasEvidence : Bool
  deriving DecidableEq

/-- The empty dictionary, which stands for an answer that is no dictionary. -/
def Page.empty : Page :=
  ⟨false, none, false, none, none, none, none, none, none, none, none, false, none, none, [],
    none, none, none, none, none, false⟩

/-- `VenueIdentity` with the key of its group. -/
structure Group where
  key : String
  label : String
  host : String
  salesId : String
  salesItemId : String
  deriving DecidableEq

/-- `VENUE_GROUPS`, with the parts of their URLs. -/
def venueGroups : String → List Group
  | "dsh" => [⟨"", "", "wxsports.ydmap.cn", "100220", "100000"⟩]
  | _ => []

/-- `VENUE_NAMES.get(venue, venue)`. -/
def venueName (venue : String) : String :=
  if venue = "dsh" then "大沙河国际网球交流中心" else venue

/-- `part in text`. -/
def contains (part text : String) : Bool :=
  decide (part.toList <:+: text.toList)

/-- A text that counts as true. -/
def filled (text : Option String) : Bool :=
  text.any (· ≠ "")

/-- An integer of at least one. -/
def positive (number : Option Int) : Bool :=
  number.any (1 ≤ ·)

/-- Load generation and array identities are there. -/
def Page.identified (page : Page) : Bool :=
  positive page.loadGeneration &&
    page.dataVersion.any fun version => positive version.platforms && positive version.orders

/-- The page's data was loaded after that of `previous`. -/
def Page.refreshed (previous page : Page) : Bool :=
  let productChanged := previous.sourceProduct.isSome && page.sourceProduct ≠ previous.sourceProduct
  let old := previous.dataVersion.getD ⟨none, none⟩
  (productChanged || previous.loadGeneration.getD 0 < page.loadGeneration.getD 0) &&
    page.dataVersion.all fun version =>
      version.platforms ≠ old.platforms && version.orders ≠ old.orders

/-- The courts are named, and each bookable court is one of the named ones. -/
def Page.courtsIdentified (page : Page) : Bool :=
  match page.courtNames, page.courts with
  | some names, some courts =>
      !names.isEmpty && names.all (fun name => name.any fun text => strip text ≠ "") &&
        courts.all fun court => names.contains (some court.1)
  | _, _ => false

/-- A court is named after another group. -/
def Page.foreignCourt (label : String) (page : Page) : Bool :=
  (page.courtNames.getD []).any fun name =>
    ["室外", "室内", "风雨"].any fun other => other ≠ label && name.any (contains other)

/-- `_snapshot_issue`. -/
def snapshotIssue (group : Group) (expectedDate : Option String) (previous : Option Page)
    (page : Page) : Option String :=
  if page.captcha then some "captcha"
  else if filled page.accessError then page.accessError
  else if !page.ready || !positive page.cellCount then some "schedule_not_ready"
  else if page.pageHost ≠ some group.host then some "venue_host_mismatch"
  else if page.selectedSalesId ≠ some group.salesId ∨ page.sourceSalesId ≠ some group.salesId then
    some "venue_id_mismatch"
  else if page.selectedProduct ≠ some group.salesItemId ∨
      page.sourceProduct ≠ some group.salesItemId then
    some "product_id_mismatch"
  else if !filled page.productName || !page.productInCatalog then some "product_name_unverified"
  else if group.label ≠ "" ∧ ¬page.productName.any (contains group.label) then
    some "product_name_mismatch"
  else if !filled page.selectedDate ∨ page.selectedDate ≠ page.queryDate then
    some "date_identity_mismatch"
  else if expectedDate.any (fun date => page.selectedDate ≠ some date) then some "date_not_selected"
  else if page.loadingCounter ≠ some 0 then some "schedule_loading"
  else if !page.identified then some "source_identity_unavailable"
  else if previous.any (fun previous => !previous.refreshed page) then some "source_not_refreshed"
  else if !page.courtsIdentified then some "court_identity_unavailable"
  else if group.label ≠ "" ∧ page.foreignCourt group.label then some "court_group_mismatch"
  else none

/-! ## Results -/

/-- `_prefixed_court_name`. -/
def prefixedCourtName (label court : String) : String :=
  let name := strip court
  if label = "" ∨ name = "" ∨ contains label name then name else label ++ name

/-- The evidence of a group for a date. -/
structure Evidence where
  key : String
  salesItemId : Option String
  sourceSalesId : Option String
  sourceHost : Option String
  productName : Option String
  productNameField : Option String
  sourceDate : Option String
  selectedDate : Option String
  courtNames : List String
  cellCount : Option Int
  loadGeneration : Option Int
  dataVersion : Option Version
  deriving DecidableEq

/-- What was collected for a date. -/
structure Day where
  date : String
  courts : List (String × Ranges)
  courtNames : List String
  groups : List Evidence
  deriving DecidableEq

def Day.empty (date : String) : Day :=
  ⟨date, [], [], []⟩

/-- `bucket[name] = ranges`. -/
def assign (name : String) (ranges : Ranges) : List (String × Ranges) → List (String × Ranges)
  | [] => [(name, ranges)]
  | (other, old) :: rest =>
      if other = name then (name, ranges) :: rest else (other, old) :: assign name ranges rest

/-- The names of the page's courts, under the label of the group. -/
def groupNames (group : Group) (page : Page) : List String :=
  ((page.courtNames.getD []).filterMap id).map (prefixedCourtName group.label)

/-- The entry of `groups`. -/
def groupEvidence (group : Group) (page : Page) : Evidence where
  key := group.key
  salesItemId := page.sourceProduct
  sourceSalesId := page.sourceSalesId
  sourceHost := page.pageHost
  productName := page.productName
  productNameField := page.productNameField
  sourceDate := page.queryDate
  selectedDate := page.selectedDate
  courtNames := groupNames group page
  cellCount := page.cellCount
  loadGeneration := page.loadGeneration
  dataVersion := page.dataVersion

/-- A page of a group is added to its date. -/
def Day.add (day : Day) (group : Group) (page : Page) : Day where
  date := day.date
  courts := (page.courts.getD []).foldl
    (fun bucket court => assign (prefixedCourtName group.label court.1) court.2 bucket) day.courts
  courtNames := (groupNames group page).foldl
    (fun known name => if name ∈ known then known else known ++ [name]) day.courtNames
  groups := day.groups ++ [groupEvidence group page]

/-- `setdefault` of the date, and the page added to it. -/
def collect (group : Group) (date : String) (page : Page) : List Day → List Day
  | [] => [(Day.empty date).add group page]
  | day :: rest =>
      if day.date = date then day.add group page :: rest
      else day :: collect group date page rest

/-- A failed scrape: its error, the page that showed it and the phase. -/
structure Stop where
  error : String
  captcha : Bool
  observed : Option Page
  failurePhase : Option String
  deriving DecidableEq, Inhabited

/-- The result of `_scrape_available_slots`. -/
inductive Result
  | complete (venue venueName : String) (days : List Day)
  | stopped (venue : String) (stop : Stop)
  deriving DecidableEq

def Result.venue : Result → String
  | .complete venue _ _ => venue
  | .stopped venue _ => venue

def Result.ok : Result → Bool
  | .complete _ _ _ => true
  | .stopped _ _ => false

/-- The field `days`: a failed scrape has none. -/
def Result.days : Result → List Day
  | .complete _ _ days => days
  | .stopped _ _ => []

/-- `sorted(days)`. -/
def daysPayload (collected : List Day) : List Day :=
  List.insertionSort (fun first later => first.date ≤ later.date) collected

/-! ## The service -/

inductive Event
  | acquired
  | opened (group : Group)
  | read (page : Page)
  | clicked (date : String)
  | answered (today : Int) (days : Int) (evidence : Bool) (status : Nat) (result : Result)
  | released
  deriving DecidableEq

/-- The lock, and the history of the requests, whose newest entry comes first. -/
structure Service where
  holder : Option Nat
  log : List (Nat × Event)

def Service.idle : Service :=
  ⟨none, []⟩

def Service.record (service : Service) (request : Nat) (event : Event) : Service :=
  { service with log := (request, event) :: service.log }

inductive Input
  | done
  | raised (name message : String)
  | late
  | page (page : Page)
  | tab (found : Bool)

inductive Label
  | browse
  | lock
  deriving DecidableEq

abbrev Scrape (α : Type) := Failing Service Input Label Stop α

/-- The sentinel codes of the page script. -/
def sentinelCodes : List String :=
  ["bookability_predicate_unavailable", "bookability_predicate_invalid",
    "bookability_product_type_unverified"]

/-- The `except Exception` of the scrape. -/
def caught (phase name message : String) : Stop where
  error :=
    if name = "JavascriptException" then
      (sentinelCodes.find? (contains · message)).getD name
    else name
  captcha := false
  observed := none
  failurePhase := some phase

section

variable (request : Nat)

/-- A command of the browser without an answer. -/
def command (phase : String) (event : Option Event) : Scrape Unit :=
  Failing.action .browse fun service input =>
    match input with
    | .done =>
        match event with
        | some event => some (service.record request event, .ok ())
        | none => some (service, .ok ())
    | .raised name message => some (service, .error (caught phase name message))
    | _ => none

/-- `_remaining`. -/
def remaining (phase : String) : Scrape Unit :=
  Failing.action .browse fun service input =>
    match input with
    | .done => some (service, .ok ())
    | .late => some (service, .error (caught phase "TimeoutError" "scrape_deadline_exceeded"))
    | _ => none

/-- The test of the polling loop and its `_extract_day`. -/
def poll (phase : String) : Scrape (Option Page) :=
  Failing.action .browse fun service input =>
    match input with
    | .late => some (service, .ok none)
    | .page page => some (service.record request (.read page), .ok (some page))
    | .raised name message => some (service, .error (caught phase name message))
    | _ => none

/-- `_extract_day` with `source_evidence`. -/
def readEvidence (phase : String) : Scrape Page :=
  Failing.action .browse fun service input =>
    match input with
    | .page page => some (service.record request (.read page), .ok page)
    | .raised name message => some (service, .error (caught phase name message))
    | _ => none

/-- `FIND_DATE_JS`. -/
def findDate (phase : String) : Scrape Bool :=
  Failing.action .browse fun service input =>
    match input with
    | .tab found => some (service, .ok found)
    | .raised name message => some (service, .error (caught phase name message))
    | _ => none

/-! ## The scrape -/

/-- The issues that end the polling. -/
def terminalIssues : List String :=
  ["captcha", "rate_limited", "login_required"]

/-- `_wait_for_schedule`: an accepted page, or the last page with its issue.  The
time is over at the latest after so many polls. -/
def waitForSchedule (phase : String) (group : Group) (expectedDate : Option String)
    (previous : Option Page) (last : Page) (issue : String) :
    Nat → Scrape (Except (Page × String) Page)
  | 0 => return .error (last, issue)
  | polls + 1 => do
      match ← poll request phase with
      | none => return .error (last, issue)
      | some page =>
          match snapshotIssue group expectedDate previous page with
          | none => return .ok page
          | some found =>
              if found ∈ terminalIssues then return .error (page, found)
              else waitForSchedule phase group expectedDate previous page found polls

/-- `_wait_for_schedule` and the tests of its result. -/
def awaitSchedule (phase : String) (group : Group) (expectedDate : Option String)
    (previous : Option Page) (polls : Nat) : Scrape Page := do
  match ← waitForSchedule request phase group expectedDate previous .empty "schedule_not_ready"
      polls with
  | .error (last, issue) => throw ⟨issue, last.captcha, some last, some phase⟩
  | .ok page =>
      match snapshotIssue group expectedDate previous page with
      | some issue => throw ⟨issue, false, some page, none⟩
      | none => return page

/-- The order of the visits: the first click must leave the selected date. -/
def visitingOrder (requested : List String) (page : Page) : Option (List String) :=
  match requested with
  | [] => some []
  | first :: rest =>
      if page.selectedDate = some first then
        match rest with
        | second :: later => some (second :: first :: later)
        | [] => (page.availableDates.find? (· ≠ first)).map fun other => [other, first]
      else some (first :: rest)

/-- The page of a requested date, read again for the source evidence. -/
def readDay (group : Group) (evidence : Bool) (date : String) (previous page : Page) :
    Scrape Page := do
  if evidence then
    remaining "source_evidence"
    let again ← readEvidence request "source_evidence"
    match snapshotIssue group (some date) (some previous) again with
    | some issue => throw ⟨issue, again.captcha, some again, none⟩
    | none =>
        if !again.hasEvidence then
          throw ⟨"source_identity_unavailable", false, some again, none⟩
        return again
  else return page

/-- A check whose failure returns the stop. -/
def refuseIf (condition : Prop) [Decidable condition] (stop : Stop) : Except Stop Unit :=
  if condition then .error stop else .ok ()

/-- `_source_evidence`, which may raise. -/
def exportEvidence (evidence : Bool) : Scrape Unit :=
  if evidence then command request "source_evidence" none else return ()

/-- The visit of a date: its page, and what is collected with it. -/
def visitDate (group : Group) (evidence : Bool) (polls : Nat) (requested : List String)
    (date : String) (previous : Page) (collected : List Day) : Scrape (Page × List Day) := do
  remaining "date_selection"
  Failing.ofExcept (refuseIf (date ∉ previous.availableDates)
    ⟨"requested_date_unavailable", false, some previous, none⟩)
  let found ← findDate "date_selection"
  Failing.ofExcept (refuseIf (!found) ⟨"date_tab_not_found:" ++ date, false, none, none⟩)
  command request "date_selection" (some (.clicked date))
  let page ← awaitSchedule request "refreshed_schedule" group (some date) (some previous) polls
  if date ∉ requested then
    return (page, collected)
  let shown ← readDay request group evidence date previous page
  exportEvidence request evidence
  return (shown, collect group date shown collected)

/-- The visits of a group's dates. -/
def visitDates (group : Group) (evidence : Bool) (polls : Nat) (requested : List String) :
    List String → Page → List Day → Scrape (List Day)
  | [], _, collected => return collected
  | date :: rest, previous, collected => do
      let visited ← visitDate request group evidence polls requested date previous collected
      visitDates group evidence polls requested rest visited.1 visited.2

/-- The visits of a venue's groups, each in a browser of its own. -/
def visitGroups (evidence : Bool) (polls : Nat) (requested : List String) (phase : String) :
    List Group → List Day → Scrape (List Day)
  | [], collected => return collected
  | group :: rest, collected => do
      remaining "browser_start"
      command request "browser_start" (some (.opened group))
      command request "browser_attach" none
      let page ← awaitSchedule request phase group none none polls
      match visitingOrder requested page with
      | none => throw ⟨"refresh_date_unavailable", false, some page, none⟩
      | some order => do
          let collected ← visitDates request group evidence polls requested order page collected
          visitGroups evidence polls requested "product_navigation" rest collected

/-- The requested dates. -/
def requestedDates (today days : Int) : List String :=
  (List.range (min (max days 1) 7).toNat).map fun (offset : Nat) => isoDate (today + offset)

/-- `_scrape_available_slots`. -/
def scrapeAvailableSlots (groups : List Group) (venue : String) (today days : Int)
    (evidence : Bool) (polls : Nat) : Scrape Result := do
  if groups.isEmpty then
    return .stopped venue ⟨"unknown_venue:" ++ venue, false, none, none⟩
  let ended ← tryCatch (do
    let collected ← visitGroups request evidence polls (requestedDates today days)
      "initial_schedule" groups []
    return Result.complete venue (venueName venue) (daysPayload collected))
    fun stop => return .stopped venue stop
  -- the `finally` stops the browser; what it raises leaves the function
  command request "" none
  return ended

/-! ## Requests -/

/-- `SCRAPE_LOCK.acquire(blocking=False)`. -/
def acquire : Scrape Bool :=
  Failing.action .lock fun service input =>
    match input with
    | .done =>
        if service.holder = none then
          some ({ service.record request .acquired with holder := some request }, .ok true)
        else some (service, .ok false)
    | _ => none

def answer (today days : Int) (evidence : Bool) (status : Nat) (result : Result) : Scrape Unit :=
  Failing.action .lock fun service input =>
    match input with
    | .done =>
        some (service.record request (.answered today days evidence status result), .ok ())
    | _ => none

/-- `SCRAPE_LOCK.release()`. -/
def release : Scrape Unit :=
  Failing.action .lock fun service input =>
    match input with
    | .done => some ({ service.record request .released with holder := none }, .ok ())
    | _ => none

/-- The response to a scrape, or to what left it. -/
def respond (venue : String) (today days : Int) (evidence : Bool) :
    Except Stop Result → Scrape Unit
  | .ok result => answer request today days evidence (if result.ok then 200 else 503) result
  | .error stop =>
      answer request today days evidence 500 (.stopped venue ⟨stop.error, false, none, none⟩)

/-- The part of `do_GET` under the lock. -/
def inspectLocked (groups : List Group) (venue : String) (today days : Int) (evidence : Bool)
    (polls : Nat) : Scrape Unit := do
  let result ← tryCatch (do
    let result ← scrapeAvailableSlots request groups venue today days evidence polls
    return Except.ok result) fun stop => return Except.error stop
  respond request venue today days evidence result
  release request

/-- `do_GET` of `/inspect`. -/
def inspect (groups : List Group) (venue : String) (verification : Bool) (today days : Int)
    (evidence : Bool) (polls : Nat) : Scrape Unit := do
  if groups.isEmpty || verification then
    answer request today days evidence 400
      (.stopped venue ⟨"unsupported_inspection", false, none, none⟩)
  else
    let taken ← acquire request
    if taken then inspectLocked request groups venue today days evidence polls
    else answer request today days evidence 429 (.stopped venue ⟨"busy", false, none, none⟩)

end

/-- The requests of the service; the clock shows a date that `datetime` knows. -/
inductive InspectOperation (request : Nat) : Program Service Input Label Unit → Prop
  | inspect (venue : String) (verification : Bool) (today days : Int) (evidence : Bool)
      (polls : Nat) (known : Watchers.firstDay ≤ today) :
      InspectOperation request
        (inspect request (venueGroups venue) venue verification today days evidence polls).ended

def scraperSystem : System Service Input Label Nat where
  operation request program := InspectOperation request program
  crash _ service := service
  environment before after := after = before

end TennisAlerts.PiHost.Scraper
