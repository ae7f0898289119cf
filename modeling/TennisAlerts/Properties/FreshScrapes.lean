import TennisAlerts.PiHost.Scraper
import TennisAlerts.Properties.RequestIdentity

/-!
# Scrapes are complete and fresh

A result of the scraper has every requested date or none.  The courts of a date come,
group by group, from a page that was read after a click that left another date, and
whose data was loaded after that of the page accepted before the click.
-/

namespace TennisAlerts.PiHost.Scraper

open TennisAlerts.Concurrent TennisAlerts.HostCore

/-! ## Accepted pages -/

/-- What an accepted page shows of its group. -/
structure Accepted (group : Group) (page : Page) : Prop where
  host : page.pageHost = some group.host
  venue : page.selectedSalesId = some group.salesId ∧ page.sourceSalesId = some group.salesId
  product : page.selectedProduct = some group.salesItemId ∧
    page.sourceProduct = some group.salesItemId
  queried : page.queryDate = page.selectedDate
  loaded : page.loadingCounter = some 0
  identified : page.identified = true

/-- The page shows the date, and its data was loaded after that of the page that was
accepted before, which showed another date. -/
structure Newer (group : Group) (base : Page) (date : String) (page : Page) : Prop where
  accepted : Accepted group page
  left : base.selectedDate ≠ some date
  selected : page.selectedDate = some date
  generation : ∃ old new, base.loadGeneration = some old ∧ page.loadGeneration = some new ∧
    old < new
  version : ∃ old new : Version, base.dataVersion = some old ∧ page.dataVersion = some new ∧
    new.platforms ≠ old.platforms ∧ new.orders ≠ old.orders

section

variable {group : Group} {base page : Page} {expectedDate : Option String}
  {previous : Option Page} {date : String}

theorem issue_eq_none_iff {condition : Prop} [Decidable condition] {issue : String}
    {rest : Option String} :
    (if condition then some issue else rest) = none ↔ ¬condition ∧ rest = none := by
  split <;> simp_all

/-- A page without an issue. -/
theorem accepted_of_snapshotIssue (clear : snapshotIssue group expectedDate previous page = none) :
    Accepted group page ∧ (expectedDate.all fun date => page.selectedDate = some date) = true ∧
      (previous.all fun previous => previous.refreshed page) = true := by
  unfold snapshotIssue at clear
  obtain ⟨_, clear⟩ := issue_eq_none_iff.mp clear
  have unrestricted : ¬filled page.accessError = true := by
    intro shown
    rw [if_pos shown] at clear
    rw [clear] at shown
    cases shown
  rw [if_neg unrestricted] at clear
  obtain ⟨_, clear⟩ := issue_eq_none_iff.mp clear
  obtain ⟨host, clear⟩ := issue_eq_none_iff.mp clear
  obtain ⟨venue, clear⟩ := issue_eq_none_iff.mp clear
  obtain ⟨product, clear⟩ := issue_eq_none_iff.mp clear
  obtain ⟨_, clear⟩ := issue_eq_none_iff.mp clear
  obtain ⟨_, clear⟩ := issue_eq_none_iff.mp clear
  obtain ⟨dated, clear⟩ := issue_eq_none_iff.mp clear
  obtain ⟨expected, clear⟩ := issue_eq_none_iff.mp clear
  obtain ⟨loaded, clear⟩ := issue_eq_none_iff.mp clear
  obtain ⟨identified, clear⟩ := issue_eq_none_iff.mp clear
  obtain ⟨refreshed, _⟩ := issue_eq_none_iff.mp clear
  simp only [not_or, Decidable.not_not] at host venue product dated loaded
  refine ⟨⟨host, venue, product, dated.2.symm, loaded, by simpa using identified⟩, ?_, ?_⟩
  · cases expectedDate with
    | none => rfl
    | some date => simpa using expected
  · cases previous with
    | none => rfl
    | some previous => simpa using refreshed

/-- Within a group the product stays, so that the generation must have grown. -/
theorem newer_of_snapshotIssue (before : Accepted group base)
    (left : base.selectedDate ≠ some date)
    (clear : snapshotIssue group (some date) (some base) page = none) :
    Newer group base date page := by
  obtain ⟨accepted, selected, refreshed⟩ := accepted_of_snapshotIssue clear
  have oldIdentified := before.identified
  have newIdentified := accepted.identified
  simp only [Option.all_some, decide_eq_true_eq] at selected
  simp only [Option.all_some, Page.refreshed, before.product.2, accepted.product.2] at refreshed
  refine ⟨accepted, left, selected, ?_, ?_⟩
  · cases oldGeneration : base.loadGeneration <;> cases newGeneration : page.loadGeneration <;>
      simp_all [Page.identified, positive]
  · cases oldVersion : base.dataVersion <;> cases newVersion : page.dataVersion <;>
      simp_all [Page.identified]

end

/-! ## Histories -/

def Event.isRead : Event → Bool
  | .read _ => true
  | _ => false

/-- The history of a group's visits up to its latest accepted page. -/
inductive Visited (group : Group) : Page → List Event → Prop
  | opened {page : Page} {reads older : List Event} (polled : reads.all Event.isRead = true)
      (accepted : Accepted group page) :
      Visited group page (.read page :: (reads ++ .opened group :: older))
  | clicked {base page : Page} {date : String} {reads older : List Event}
      (visited : Visited group base older) (polled : reads.all Event.isRead = true)
      (newer : Newer group base date page) :
      Visited group page (.read page :: (reads ++ .clicked date :: older))

/-- The page was read for the date, after a click that left another date. -/
def Fresh (group : Group) (date : String) (log : List Event) (page : Page) : Prop :=
  ∃ base reads older newer, log = newer ++ .read page :: (reads ++ .clicked date :: older) ∧
    reads.all Event.isRead = true ∧ Visited group base older ∧ Newer group base date page

/-- What the pages of the groups make of a date. -/
def assembled (date : String) (pages : List (Group × Page)) : Day :=
  pages.foldl (fun day entry => day.add entry.1 entry.2) (.empty date)

/-- The day is made of one fresh page of each group. -/
def Sourced (groups : List Group) (date : String) (log : List Event) (day : Day) : Prop :=
  ∃ pages, List.Forall₂ (fun group page => Fresh group date log page) groups pages ∧
    day = assembled date (groups.zip pages)

/-- A result has no days, or exactly the requested dates, each from fresh pages. -/
def Complete (groups : List Group) (requested : List String) (log : List Event)
    (result : Result) : Prop :=
  if result.ok then
    (result.days.map Day.date).Perm requested ∧
      ∀ day ∈ result.days, Sourced groups day.date log day
  else result.days = []

section

variable {group : Group} {base page : Page} {date : String} {log : List Event}

theorem Visited.accepted (visited : Visited group page log) : Accepted group page := by
  cases visited with
  | opened polled accepted => exact accepted
  | clicked visited polled newer => exact newer.accepted

theorem Fresh.later (fresh : Fresh group date log page) (event : Event) :
    Fresh group date (event :: log) page := by
  obtain ⟨base, reads, older, newer, rfl, rest⟩ := fresh
  exact ⟨base, reads, older, event :: newer, rfl, rest⟩

theorem Sourced.later {groups : List Group} {day : Day} (sourced : Sourced groups date log day)
    (event : Event) : Sourced groups date (event :: log) day := by
  obtain ⟨pages, fresh, same⟩ := sourced
  exact ⟨pages, fresh.imp fun _ _ fresh => fresh.later event, same⟩

theorem sourced_nil : Sourced [] date log (.empty date) :=
  ⟨[], .nil, rfl⟩

theorem Sourced.add {groups : List Group} {day : Day} (sourced : Sourced groups date log day)
    (fresh : Fresh group date log page) :
    Sourced (groups ++ [group]) date log (day.add group page) := by
  obtain ⟨pages, each, rfl⟩ := sourced
  have lengths := each.length_eq
  refine ⟨pages ++ [page], ?_, ?_⟩
  · exact List.rel_append each (.cons fresh .nil)
  · rw [List.zip_append lengths, assembled, assembled, List.foldl_append]
    rfl

end

/-! ## The collected days -/

/-- The day of a date, empty where nothing was collected. -/
def dayOf (collected : List Day) (date : String) : Day :=
  (collected.find? fun day => day.date = date).getD (.empty date)

section

variable {group : Group} {page : Page} {date other : String} {collected : List Day}

theorem dayOf_collect_self :
    dayOf (collect group date page collected) date = (dayOf collected date).add group page := by
  induction collected with
  | nil => simp [collect, dayOf, Day.add, Day.empty]
  | cons day rest ih =>
      by_cases same : day.date = date
      · simp [collect, dayOf, same, Day.add]
      · simpa [collect, dayOf, same] using ih

theorem dayOf_collect_of_ne (different : other ≠ date) :
    dayOf (collect group date page collected) other = dayOf collected other := by
  induction collected with
  | nil => simp [collect, dayOf, Day.add, Day.empty, different.symm]
  | cons day rest ih =>
      by_cases same : day.date = date
      · simp [collect, dayOf, same, Day.add, different.symm]
      · by_cases found : day.date = other
        · simp [collect, dayOf, found, different]
        · simpa [collect, dayOf, same, found] using ih

theorem mem_dates_collect : other ∈ (collect group date page collected).map Day.date ↔
    other = date ∨ other ∈ collected.map Day.date := by
  induction collected with
  | nil => simp [collect, Day.add, Day.empty]
  | cons day rest ih =>
      by_cases same : day.date = date
      · simp [collect, same, Day.add]
      · simp only [collect, same, if_false, List.map_cons, List.mem_cons, ih]
        tauto

theorem nodup_dates_collect (nodup : (collected.map Day.date).Nodup) :
    ((collect group date page collected).map Day.date).Nodup := by
  induction collected with
  | nil => simp [collect]
  | cons day rest ih =>
      rw [List.map_cons, List.nodup_cons] at nodup
      by_cases same : day.date = date
      · have unlisted := same ▸ nodup.1
        simpa [collect, same, Day.add] using ⟨by simpa using unlisted, nodup.2⟩
      · simp only [collect, same, if_false, List.map_cons, List.nodup_cons, mem_dates_collect]
        exact ⟨by tauto, ih nodup.2⟩

theorem dayOf_of_mem (nodup : (collected.map Day.date).Nodup) {day : Day}
    (member : day ∈ collected) : dayOf collected day.date = day := by
  induction collected with
  | nil => cases member
  | cons first rest ih =>
      rw [List.map_cons, List.nodup_cons] at nodup
      rcases List.mem_cons.mp member with rfl | later
      · simp [dayOf]
      · have different : first.date ≠ day.date := by
          intro same
          exact nodup.1 (same ▸ List.mem_map_of_mem later)
        simpa [dayOf, different] using ih nodup.2 later

end

/-- The days that were collected when `done` gives the groups visited for each date. -/
structure Gathered (requested : List String) (done : String → List Group) (collected : List Day)
    (log : List Event) : Prop where
  nodup : (collected.map Day.date).Nodup
  dates : ∀ date, date ∈ collected.map Day.date ↔ date ∈ requested ∧ done date ≠ []
  sourced : ∀ date ∈ requested, Sourced (done date) date log (dayOf collected date)

section

variable {requested : List String} {done : String → List Group} {collected : List Day}
  {log : List Event} {group : Group} {page : Page} {date : String}

theorem gathered_nil : Gathered requested (fun _ => []) [] log where
  nodup := List.nodup_nil
  dates := by simp
  sourced _ _ := sourced_nil

theorem Gathered.later (gathered : Gathered requested done collected log) (event : Event) :
    Gathered requested done collected (event :: log) where
  nodup := gathered.nodup
  dates := gathered.dates
  sourced date member := (gathered.sourced date member).later event

theorem Gathered.append (gathered : Gathered requested done collected log)
    (events : List Event) : Gathered requested done collected (events ++ log) := by
  induction events with
  | nil => exact gathered
  | cons event events ih => exact ih.later event

theorem Gathered.congr {later : String → List Group}
    (gathered : Gathered requested done collected log)
    (same : ∀ date ∈ requested, later date = done date) :
    Gathered requested later collected log where
  nodup := gathered.nodup
  dates date := by
    rw [gathered.dates]
    exact and_congr_right fun member => by rw [same date member]
  sourced date member := by
    rw [same date member]
    exact gathered.sourced date member

/-- A fresh page of a further group is collected. -/
theorem Gathered.collect (gathered : Gathered requested done collected log)
    (member : date ∈ requested) (fresh : Fresh group date log page) :
    Gathered requested (Function.update done date (done date ++ [group]))
      (collect group date page collected) log where
  nodup := nodup_dates_collect gathered.nodup
  dates other := by
    rw [mem_dates_collect, gathered.dates]
    by_cases same : other = date
    · subst same
      simp [member]
    · simp [same]
  sourced other isRequested := by
    by_cases same : other = date
    · subst same
      rw [dayOf_collect_self, Function.update_self]
      exact (gathered.sourced other isRequested).add fresh
    · rw [dayOf_collect_of_ne same, Function.update_of_ne same]
      exact gathered.sourced other isRequested

/-- When all groups were visited for every date, the result is complete. -/
theorem Gathered.complete {groups : List Group} {venue name : String}
    (gathered : Gathered requested (fun _ => groups) collected log) (nonempty : groups ≠ [])
    (distinct : requested.Nodup) :
    Complete groups requested log (.complete venue name (daysPayload collected)) := by
  have sorted : (daysPayload collected).Perm collected := List.perm_insertionSort _ collected
  refine ⟨(sorted.map Day.date).trans ?_, ?_⟩
  · apply (List.perm_ext_iff_of_nodup gathered.nodup distinct).mpr
    intro date
    simp [gathered.dates, nonempty]
  · intro day member
    have collectedDay := sorted.mem_iff.mp member
    have isRequested := ((gathered.dates day.date).mp (List.mem_map_of_mem collectedDay)).1
    have sourced := gathered.sourced day.date isRequested
    rwa [dayOf_of_mem gathered.nodup collectedDay] at sourced

end

/-! ## The protocol of the service -/

/-- The request that the lock entries leave as its holder. -/
def lockOf : List (Nat × Event) → Option Nat
  | [] => none
  | (request, .acquired) :: _ => some request
  | (_, .released) :: _ => none
  | _ :: older => lockOf older

/-- The entries of a request. -/
def ownLog (request : Nat) (log : List (Nat × Event)) : List Event :=
  log.filterMap fun entry => if entry.1 = request then some entry.2 else none

/-- The entries of a request since it took the lock. -/
def session (request : Nat) (log : List (Nat × Event)) : List Event :=
  (ownLog request log).takeWhile (· ≠ .acquired)

/-- What holds of an entry of a request: the browser is used under the lock, and an
answer is complete. -/
def Event.Justified (request : Nat) (older : List (Nat × Event)) : Event → Prop
  | .acquired => lockOf older = none
  | .opened _ | .read _ | .clicked _ | .released => lockOf older = some request
  | .answered today days _ _ result =>
      Complete (venueGroups result.venue) (requestedDates today days) (session request older) result

def Justified : List (Nat × Event) → Prop
  | [] => True
  | (request, event) :: older => event.Justified request older ∧ Justified older

structure ServiceInvariant (service : Service) : Prop where
  lock : lockOf service.log = service.holder
  justified : Justified service.log

/-- A request keeps the lock, and nobody writes its entries. -/
structure ServiceRely (request : Nat) (before after : Service) : Prop where
  holder : before.holder = some request → after.holder = some request
  entries : ownLog request after.log = ownLog request before.log

def scraperProtocol : Protocol Service Nat where
  invariant := ServiceInvariant
  rely := ServiceRely
  resting _ _ := True

/-- The request has the lock, and its entries since then satisfy the assertion. -/
def Owns (request : Nat) (assertion : List Event → Prop) (service : Service) : Prop :=
  service.holder = some request ∧ assertion (session request service.log)

section

variable {request other : Nat} {service before after : Service} {event : Event}
  {log : List (Nat × Event)} {assertion : List Event → Prop}

theorem ownLog_cons_self :
    ownLog request ((request, event) :: log) = event :: ownLog request log := by
  simp [ownLog]

theorem ownLog_cons_of_ne (different : request ≠ other) :
    ownLog other ((request, event) :: log) = ownLog other log := by
  simp [ownLog, different]

theorem session_cons_self (running : event ≠ .acquired) :
    session request ((request, event) :: log) = event :: session request log := by
  simp [session, ownLog_cons_self, running]

/-- An entry about the browser. -/
def Event.browses : Event → Bool
  | .opened _ | .read _ | .clicked _ => true
  | _ => false

/-- An entry that is not about the lock. -/
def Event.plain : Event → Bool
  | .acquired | .released => false
  | _ => true

theorem lockOf_cons (isPlain : event.plain = true) :
    lockOf ((request, event) :: log) = lockOf log := by
  cases event <;> first | rfl | cases isPlain

theorem stable_owns : scraperProtocol.Stable request (Owns request assertion) := by
  rintro before after _ _ ⟨holder, entries⟩ ⟨held, holds⟩
  refine ⟨holder held, ?_⟩
  rwa [session, entries]

theorem guarantees_refl (service : Service) :
    scraperProtocol.Guarantees request service service :=
  fun _ _ => ⟨id, rfl⟩

/-- A plain entry of a request. -/
theorem record_plain (invariant : ServiceInvariant service) (isPlain : event.plain = true)
    (justified : event.Justified request service.log) :
    ServiceInvariant (service.record request event) ∧
      scraperProtocol.Guarantees request service (service.record request event) := by
  refine ⟨⟨?_, justified, invariant.justified⟩, ?_⟩
  · exact (lockOf_cons isPlain).trans invariant.lock
  · intro other different
    exact ⟨id, ownLog_cons_of_ne different.symm⟩

theorem justified_of_owns (invariant : ServiceInvariant service)
    (owns : Owns request assertion service) : lockOf service.log = some request :=
  invariant.lock.trans owns.1

end

/-! ## Commands of the browser -/

/-- The triples of a scrape, which may stop anywhere. -/
abbrev Scrapes {α : Type} (request : Nat) (pre : List Event → Prop) (program : Scrape α)
    (post : α → List Event → Prop) : Prop :=
  scraperProtocol.Holds System.anyAction request (Owns request pre) program
    (fun value => Owns request (post value)) fun _ => Owns request fun _ => True

/-- The latest entry is the event. -/
def After (event : Event) (assertion : List Event → Prop) (log : List Event) : Prop :=
  ∃ older, log = event :: older ∧ assertion older

/-- What a poll leaves. -/
def PollEnds (assertion : List Event → Prop) : Option Page → List Event → Prop
  | none, log => assertion log
  | some page, log => After (.read page) assertion log

section

variable {request : Nat} {assertion : List Event → Prop} {phase : String}

/-- An action that leaves the service alone, or records one plain entry. -/
theorem scrapes_action {α : Type} {effect : Service → Input → Option (Service × Except Stop α)}
    {post : α → List Event → Prop}
    (step : ∀ before input after result, effect before input = some (after, result) →
      (after = before ∧ ∀ value, result = .ok value → ∀ log, assertion log → post value log) ∨
      ∃ event, event.plain = true ∧ (lockOf before.log = some request →
          event.Justified request before.log) ∧
        after = before.record request event ∧
        ∀ value, result = .ok value → ∀ log, After event assertion log → post value log) :
    Scrapes request assertion (Failing.action .browse effect) post := by
  apply Protocol.holds_action stable_owns
  intro before input after result invariant owns _ acted
  rcases step before input after result acted with
    ⟨rfl, kept⟩ | ⟨event, isPlain, justified, rfl, kept⟩
  · refine ⟨invariant, guarantees_refl after, ?_⟩
    cases result with
    | ok value => exact ⟨owns.1, kept value rfl _ owns.2⟩
    | error stop => exact ⟨owns.1, trivial⟩
  · have holds := justified (justified_of_owns invariant owns)
    obtain ⟨kept', guaranteed⟩ := record_plain invariant isPlain holds
    refine ⟨kept', guaranteed, ?_⟩
    have running : event ≠ .acquired := by
      rintro rfl
      cases isPlain
    have recorded : After event assertion (session request (before.record request event).log) :=
      ⟨_, session_cons_self running, owns.2⟩
    cases result with
    | ok value => exact ⟨owns.1, kept value rfl _ recorded⟩
    | error stop => exact ⟨owns.1, trivial⟩

theorem scrapes_command_none :
    Scrapes request assertion (command request phase none) fun _ => assertion := by
  apply scrapes_action
  intro before input after result acted
  cases input <;> cases acted
  · exact .inl ⟨rfl, fun _ _ _ holds => holds⟩
  · exact .inl ⟨rfl, fun _ failed => by cases failed⟩

theorem scrapes_command {event : Event} (isPlain : event.plain = true)
    (justified : ∀ log, lockOf log = some request → event.Justified request log) :
    Scrapes request assertion (command request phase (some event))
      fun _ => After event assertion := by
  apply scrapes_action
  intro before input after result acted
  cases input <;> cases acted
  · exact .inr ⟨event, isPlain, justified before.log, rfl, fun _ _ _ holds => holds⟩
  · exact .inl ⟨rfl, fun _ failed => by cases failed⟩

theorem scrapes_click {date : String} :
    Scrapes request assertion (command request phase (some (.clicked date)))
      fun _ => After (.clicked date) assertion :=
  scrapes_command rfl fun _ held => held

theorem scrapes_open {group : Group} :
    Scrapes request assertion (command request phase (some (.opened group)))
      fun _ => After (.opened group) assertion :=
  scrapes_command rfl fun _ held => held

theorem scrapes_remaining :
    Scrapes request assertion (remaining phase) fun _ => assertion := by
  apply scrapes_action
  intro before input after result acted
  cases input <;> cases acted
  · exact .inl ⟨rfl, fun _ _ _ holds => holds⟩
  · exact .inl ⟨rfl, fun _ failed => by cases failed⟩

theorem scrapes_findDate :
    Scrapes request assertion (findDate phase) fun _ => assertion := by
  apply scrapes_action
  intro before input after result acted
  cases input <;> cases acted
  · exact .inl ⟨rfl, fun _ failed => by cases failed⟩
  · exact .inl ⟨rfl, fun _ _ _ holds => holds⟩

theorem scrapes_poll :
    Scrapes request assertion (poll request phase) (PollEnds assertion) := by
  apply scrapes_action
  intro before input after result acted
  cases input <;> cases acted
  · exact .inl ⟨rfl, fun _ failed => by cases failed⟩
  · refine .inl ⟨rfl, ?_⟩
    rintro _ ⟨⟩ log holds
    exact holds
  · rename_i page
    refine .inr ⟨.read page, rfl, fun held => held, rfl, ?_⟩
    rintro _ ⟨⟩ log holds
    exact holds

theorem scrapes_readEvidence :
    Scrapes request assertion (readEvidence request phase) fun page =>
      After (.read page) assertion := by
  apply scrapes_action
  intro before input after result acted
  cases input <;> cases acted
  · exact .inl ⟨rfl, fun _ failed => by cases failed⟩
  · rename_i page
    refine .inr ⟨.read page, rfl, fun held => held, rfl, ?_⟩
    rintro _ ⟨⟩ log holds
    exact holds

end

/-! ## The scrape -/

/-- Pages were read since the assertion held. -/
def Polled (assertion : List Event → Prop) (log : List Event) : Prop :=
  ∃ reads older, log = reads ++ older ∧ reads.all Event.isRead = true ∧ assertion older

section

variable {request : Nat} {assertion post : List Event → Prop} {group : Group}
  {expectedDate : Option String} {previous : Option Page}

theorem polled_of {log : List Event} (holds : assertion log) : Polled assertion log :=
  ⟨[], log, rfl, rfl, holds⟩

theorem Polled.read {log : List Event} {page : Page}
    (read : After (.read page) (Polled assertion) log) : Polled assertion log := by
  obtain ⟨_, rfl, reads, older, rfl, polled, holds⟩ := read
  exact ⟨.read page :: reads, older, rfl, by simpa [Event.isRead] using polled, holds⟩

/-- What `_wait_for_schedule` leaves. -/
def Waited (group : Group) (expectedDate : Option String) (previous : Option Page)
    (assertion : List Event → Prop) : Except (Page × String) Page → List Event → Prop
  | .error _, log => Polled assertion log
  | .ok page, log => snapshotIssue group expectedDate previous page = none ∧
      After (.read page) (Polled assertion) log

theorem scrapes_waitForSchedule {phase issue : String} {last : Page} {polls : Nat} :
    Scrapes request (Polled assertion)
      (waitForSchedule request phase group expectedDate previous last issue polls)
      (Waited group expectedDate previous assertion) := by
  induction polls generalizing last issue with
  | zero => exact Protocol.holds_pure fun _ _ holds => holds
  | succ polls ih =>
      apply Protocol.Holds.bind scrapes_poll
      intro found
      cases found with
      | none => exact Protocol.holds_pure fun _ _ holds => holds
      | some page =>
          dsimp only
          cases clear : snapshotIssue group expectedDate previous page with
          | none => exact Protocol.holds_pure fun _ _ owns => ⟨owns.1, clear, owns.2⟩
          | some found =>
              dsimp only
              split
              · exact Protocol.holds_pure fun _ _ owns => ⟨owns.1, Polled.read owns.2⟩
              · exact Protocol.Holds.mono ih (fun _ _ owns => ⟨owns.1, Polled.read owns.2⟩)
                  (fun _ _ _ holds => holds) fun _ _ _ holds => holds

theorem scrapes_awaitSchedule {phase : String} {polls : Nat} :
    Scrapes request assertion (awaitSchedule request phase group expectedDate previous polls)
      fun page log => snapshotIssue group expectedDate previous page = none ∧
        After (.read page) (Polled assertion) log := by
  apply Protocol.Holds.bind
    (Protocol.Holds.mono scrapes_waitForSchedule (fun _ _ owns => ⟨owns.1, polled_of owns.2⟩)
      (fun _ _ _ holds => holds) fun _ _ _ holds => holds)
  intro result
  cases result with
  | error failure =>
      obtain ⟨last, issue⟩ := failure
      exact Protocol.holds_throw fun _ _ owns => ⟨owns.1, trivial⟩
  | ok page =>
      simp only
      split
      · exact Protocol.holds_throw fun _ _ owns => ⟨owns.1, trivial⟩
      · exact Protocol.holds_pure fun _ _ holds => holds

end

/-! ### The order of the visits -/

/-- The first date is not the one that the page shows. -/
def Leaves (page : Page) (dates : List String) : Prop :=
  dates.Nodup ∧ ∀ first ∈ dates.head?, page.selectedDate ≠ some first

section

variable {requested order : List String} {page : Page}

theorem visitingOrder_spec (distinct : requested.Nodup)
    (found : visitingOrder requested page = some order) :
    Leaves page order ∧ ∀ date ∈ requested, date ∈ order := by
  cases requested with
  | nil =>
      cases found
      exact ⟨⟨List.nodup_nil, by simp⟩, by simp⟩
  | cons first rest =>
      simp only [visitingOrder] at found
      split at found
      · rename_i shown
        cases rest with
        | cons second later =>
            cases found
            have swapped : (first :: second :: later).Perm (second :: first :: later) :=
              List.Perm.swap second first later
            refine ⟨⟨swapped.nodup_iff.mp distinct, ?_⟩, fun date => swapped.mem_iff.mp⟩
            rintro _ ⟨⟩
            rw [shown]
            intro same
            cases same
            simp at distinct
        | nil =>
            obtain ⟨other, chosen, rfl⟩ := Option.map_eq_some_iff.mp found
            have different : other ≠ first := by simpa using List.find?_some chosen
            refine ⟨⟨by simpa using different, ?_⟩, by simp⟩
            rintro _ ⟨⟩
            rw [shown]
            intro same
            cases same
            exact different rfl
      · rename_i hidden
        cases found
        refine ⟨⟨distinct, ?_⟩, fun _ member => member⟩
        rintro _ ⟨⟩
        exact hidden

theorem Leaves.next {date : String} {rest : List String} {base : Page}
    (leaves : Leaves base (date :: rest)) (selected : page.selectedDate = some date) :
    Leaves page rest := by
  obtain ⟨fresh, distinct⟩ := List.nodup_cons.mp leaves.1
  refine ⟨distinct, ?_⟩
  intro first member same
  rw [selected] at same
  cases same
  exact fresh (List.mem_of_mem_head? member)

end

/-! ### Visits -/

section

variable {request polls : Nat} {group : Group} {evidence : Bool} {date : String}
  {base page : Page} {assertion : List Event → Prop}

/-- The page has no issue for the date, and was the latest to be read. -/
def Shown (group : Group) (date : String) (base : Page) (assertion : List Event → Prop)
    (page : Page) (log : List Event) : Prop :=
  snapshotIssue group (some date) (some base) page = none ∧
    After (.read page) (Polled assertion) log

theorem Shown.polled {log : List Event} (shown : Shown group date base assertion page log) :
    Polled assertion log :=
  Polled.read shown.2

theorem scrapes_readDay :
    Scrapes request (Shown group date base assertion page)
      (readDay request group evidence date base page) (Shown group date base assertion) := by
  unfold readDay
  split
  · apply Protocol.Holds.bind scrapes_remaining
    intro _
    apply Protocol.Holds.bind
      (Protocol.Holds.mono scrapes_readEvidence (fun _ _ owns => ⟨owns.1, owns.2.polled⟩)
        (fun _ _ _ holds => holds) fun _ _ _ holds => holds)
    intro again
    cases clear : snapshotIssue group (some date) (some base) again with
    | some issue => exact Protocol.holds_throw fun _ _ owns => ⟨owns.1, trivial⟩
    | none =>
        dsimp only
        split
        · exact Protocol.holds_throw fun _ _ owns => ⟨owns.1, trivial⟩
        · exact Protocol.holds_pure fun _ _ owns => ⟨owns.1, clear, owns.2⟩
  · exact Protocol.holds_pure fun _ _ holds => holds

/-- The page that is shown after a click is fresh, and what was collected stays. -/
theorem Shown.fresh {requested : List String} {done : String → List Group}
    {collected : List Day} {log : List Event} (left : base.selectedDate ≠ some date)
    (shown : Shown group date base (After (.clicked date) fun log => Visited group base log ∧
      Gathered requested done collected log) page log) :
    (Visited group page log ∧ page.selectedDate = some date) ∧ Fresh group date log page ∧
      Gathered requested done collected log := by
  obtain ⟨clear, _, rfl, reads, _, rfl, polled, older, rfl, visited, gathered⟩ := shown
  have newer := newer_of_snapshotIssue visited.accepted left clear
  exact ⟨⟨.clicked visited polled newer, newer.selected⟩,
    ⟨base, reads, older, [], rfl, polled, visited, newer⟩,
    ((gathered.later _).append reads).later _⟩

end

/-- The groups visited for each date, while `group` is at the dates `past`. -/
def doneWith (earlier : List Group) (group : Group) (past : List String) (date : String) :
    List Group :=
  if date ∈ past then earlier ++ [group] else earlier

section

variable {request polls : Nat} {group : Group} {evidence : Bool} {requested past : List String}
  {earlier : List Group} {collected : List Day} {date : String} {log : List Event}

theorem doneWith_collected (unvisited : date ∉ past) :
    Function.update (doneWith earlier group past) date
      (doneWith earlier group past date ++ [group]) = doneWith earlier group (past ++ [date]) := by
  funext other
  by_cases same : other = date
  · subst same
    simp [doneWith, unvisited]
  · simp [doneWith, same]

theorem doneWith_skipped (skipped : date ∉ requested) :
    ∀ other ∈ requested, doneWith earlier group (past ++ [date]) other =
      doneWith earlier group past other := by
  intro other member
  have different : other ≠ date := by
    rintro rfl
    exact skipped member
  simp [doneWith, different]

theorem scrapes_refuseIf {assertion : List Event → Prop} {condition : Prop}
    [Decidable condition] {stop : Stop} :
    Scrapes request assertion (Failing.ofExcept (refuseIf condition stop)) fun _ => assertion := by
  apply Protocol.holds_ofExcept
  intro service _ owns
  unfold refuseIf
  split
  · exact ⟨owns.1, trivial⟩
  · exact owns

/-- A fact about values may be used. -/
theorem scrapes_of_fact {α : Type} {fact : Prop} {assertion : List Event → Prop}
    {program : Scrape α} {post : α → List Event → Prop}
    (scrapes : fact → Scrapes request assertion program post) :
    Scrapes request (fun log => fact ∧ assertion log) program post := by
  apply Protocol.Holds.mono (Protocol.Holds.of_fact scrapes)
  · exact fun _ _ owns => ⟨⟨owns.1, owns.2.2⟩, owns.2.1⟩
  · exact fun _ _ _ holds => holds
  · exact fun _ _ _ holds => holds

theorem scrapes_exportEvidence {assertion : List Event → Prop} :
    Scrapes request assertion (exportEvidence request evidence) fun _ => assertion := by
  unfold exportEvidence
  split
  · exact scrapes_command_none
  · exact Protocol.holds_pure fun _ _ owns => owns

theorem scrapes_visitDate {base : Page} (left : base.selectedDate ≠ some date)
    (unvisited : date ∉ past) :
    Scrapes request (fun log => Visited group base log ∧
        Gathered requested (doneWith earlier group past) collected log)
      (visitDate request group evidence polls requested date base collected)
      fun visited log => visited.1.selectedDate = some date ∧ Visited group visited.1 log ∧
        Gathered requested (doneWith earlier group (past ++ [date])) visited.2 log := by
  apply Protocol.Holds.bind scrapes_remaining
  intro _
  apply Protocol.Holds.bind scrapes_refuseIf
  intro _
  apply Protocol.Holds.bind scrapes_findDate
  intro found
  apply Protocol.Holds.bind scrapes_refuseIf
  intro _
  apply Protocol.Holds.bind scrapes_click
  intro _
  apply Protocol.Holds.bind scrapes_awaitSchedule
  intro page
  split
  · rename_i skipped
    apply Protocol.holds_pure
    rintro service _ ⟨held, shown⟩
    obtain ⟨⟨visited, selected⟩, _, gathered⟩ := Shown.fresh left shown
    exact ⟨held, selected, visited, gathered.congr (doneWith_skipped skipped)⟩
  · rename_i member
    rw [Decidable.not_not] at member
    apply Protocol.Holds.bind scrapes_readDay
    intro shown
    apply Protocol.Holds.bind scrapes_exportEvidence
    intro _
    apply Protocol.holds_pure
    rintro service _ ⟨held, isShown⟩
    obtain ⟨⟨visited, selected⟩, fresh, gathered⟩ := Shown.fresh left isShown
    refine ⟨held, selected, visited, ?_⟩
    rw [← doneWith_collected unvisited]
    exact gathered.collect member fresh

theorem scrapes_visitDates {dates : List String} {base : Page} (leaves : Leaves base dates)
    (unvisited : ∀ date ∈ dates, date ∉ past) :
    Scrapes request (fun log => Visited group base log ∧
        Gathered requested (doneWith earlier group past) collected log)
      (visitDates request group evidence polls requested dates base collected)
      fun collected => Gathered requested (doneWith earlier group (past ++ dates)) collected := by
  induction dates generalizing base collected past with
  | nil =>
      apply Protocol.holds_pure
      rintro _ _ ⟨held, _, gathered⟩
      rw [List.append_nil]
      exact ⟨held, gathered⟩
  | cons date rest ih =>
      have left := leaves.2 date rfl
      apply Protocol.Holds.bind (scrapes_visitDate left (unvisited date List.mem_cons_self))
      intro visited
      apply scrapes_of_fact
      intro selected
      have fresh := (List.nodup_cons.mp leaves.1).1
      have later : ∀ other ∈ rest, other ∉ past ++ [date] := by
        intro other member visitedBefore
        rcases List.mem_append.mp visitedBefore with old | now
        · exact unvisited other (List.mem_cons_of_mem date member) old
        · rw [List.mem_singleton] at now
          exact fresh (now ▸ member)
      have split : past ++ date :: rest = past ++ [date] ++ rest := by simp
      rw [split]
      exact ih (leaves.next selected) later

/-! ### Groups and results -/

/-- The dates of a group, from the page that its browser showed first. -/
theorem scrapes_visitOrder {order : List String} {page : Page} (distinct : requested.Nodup)
    (found : visitingOrder requested page = some order) :
    Scrapes request (fun log => snapshotIssue group none none page = none ∧
        After (.read page) (Polled (After (.opened group)
          (Gathered requested (fun _ => earlier) collected))) log)
      (visitDates request group evidence polls requested order page collected)
      fun collected => Gathered requested (fun _ => earlier ++ [group]) collected := by
  obtain ⟨leaves, covers⟩ := visitingOrder_spec distinct found
  have unvisited : ∀ date ∈ order, date ∉ ([] : List String) := by simp
  apply Protocol.Holds.mono (scrapes_visitDates leaves unvisited)
  · rintro service _ ⟨held, clear, _, same, reads, _, rfl, polled, older, rfl, gathered⟩
    refine ⟨held, ?_, ?_⟩
    · rw [same]
      exact .opened polled (accepted_of_snapshotIssue clear).1
    · rw [same]
      exact (((gathered.later _).append reads).later _).congr fun _ _ => rfl
  · rintro later service _ ⟨held, gathered⟩
    refine ⟨held, gathered.congr fun date member => ?_⟩
    simp [doneWith, covers date member]
  · exact fun _ _ _ stopped => stopped

theorem scrapes_visitGroups {phase : String} {groups : List Group} (distinct : requested.Nodup) :
    Scrapes request (Gathered requested (fun _ => earlier) collected)
      (visitGroups request evidence polls requested phase groups collected)
      fun collected => Gathered requested (fun _ => earlier ++ groups) collected := by
  induction groups generalizing phase earlier collected with
  | nil =>
      apply Protocol.holds_pure
      intro _ _ owns
      rwa [List.append_nil]
  | cons group rest ih =>
      apply Protocol.Holds.bind scrapes_remaining
      intro _
      apply Protocol.Holds.bind scrapes_open
      intro _
      apply Protocol.Holds.bind scrapes_command_none
      intro _
      apply Protocol.Holds.bind scrapes_awaitSchedule
      intro page
      cases found : visitingOrder requested page with
      | none => exact Protocol.holds_throw fun _ _ owns => ⟨owns.1, trivial⟩
      | some order =>
          have split : earlier ++ group :: rest = earlier ++ [group] ++ rest := by simp
          rw [split]
          apply Protocol.Holds.bind (scrapes_visitOrder distinct found)
          exact fun collected => ih

theorem scrapes_scrapeAvailableSlots {groups : List Group} {venue : String} {today days : Int}
    (distinct : (requestedDates today days).Nodup) :
    Scrapes request (fun _ => True)
      (scrapeAvailableSlots request groups venue today days evidence polls)
      fun result log => result.venue = venue ∧
        Complete groups (requestedDates today days) log result := by
  unfold scrapeAvailableSlots
  split
  · exact Protocol.holds_pure fun _ _ owns => ⟨owns.1, rfl, rfl⟩
  · rename_i nonempty
    have body : Scrapes request (fun _ => True)
        (do
          let collected ← visitGroups request evidence polls (requestedDates today days)
            "initial_schedule" groups []
          return Result.complete venue (venueName venue) (daysPayload collected))
        fun result log => result.venue = venue ∧
          Complete groups (requestedDates today days) log result := by
      have visits : Scrapes request (Gathered (requestedDates today days) (fun _ => []) [])
          (visitGroups request evidence polls (requestedDates today days) "initial_schedule"
            groups [])
          fun collected => Gathered (requestedDates today days) (fun _ => [] ++ groups) collected :=
        scrapes_visitGroups distinct
      apply Protocol.Holds.bind (Protocol.Holds.mono visits
        (fun _ _ owns => ⟨owns.1, gathered_nil⟩) (fun _ _ _ holds => holds)
        fun _ _ _ stopped => stopped)
      intro collected
      apply Protocol.holds_pure
      rintro _ _ ⟨held, gathered⟩
      exact ⟨held, rfl, gathered.complete (by simpa using nonempty) distinct⟩
    apply Protocol.Holds.bind (Protocol.Holds.tryCatch body ?_)
    · intro result
      apply Protocol.Holds.bind scrapes_command_none
      intro _
      exact Protocol.holds_pure fun _ _ holds => holds
    · intro stop
      exact Protocol.holds_pure fun _ _ owns => ⟨owns.1, rfl, rfl⟩

end

/-! ## Requests -/

theorem requestedDates_nodup {today days : Int} (known : Watchers.firstDay ≤ today) :
    (requestedDates today days).Nodup := by
  unfold requestedDates
  apply List.Nodup.map_on _ List.nodup_range
  intro first _ second _ same
  have days := isoDate_inj (show Watchers.firstDay ≤ today + first by omega)
    (show Watchers.firstDay ≤ today + second by omega) same
  omega

section

variable {request : Nat} {today days : Int} {evidence : Bool} {status : Nat} {result : Result}

theorem complete_stopped {groups : List Group} {requested : List String} {log : List Event}
    {venue : String} {stop : Stop} : Complete groups requested log (.stopped venue stop) :=
  rfl

/-- An answer is justified by what its request did. -/
theorem holds_answer {pre post : Service → Prop} (stable : scraperProtocol.Stable request pre)
    (complete : ∀ service, pre service →
      Complete (venueGroups result.venue) (requestedDates today days)
        (session request service.log) result)
    (next : ∀ service, pre service →
      post (service.record request (.answered today days evidence status result))) :
    scraperProtocol.Holds System.anyAction request pre
      (answer request today days evidence status result) (fun _ => post) fun _ => post := by
  apply Protocol.holds_action stable
  intro before input after ended invariant holds _ acted
  cases input <;> cases acted
  obtain ⟨kept, guaranteed⟩ := record_plain invariant rfl
    (show Event.Justified request before.log (.answered today days evidence status result) from
      complete before holds)
  exact ⟨kept, guaranteed, next before holds⟩

theorem holds_refusal {venue : String} {stop : Stop} {pre : Service → Prop} :
    scraperProtocol.Holds System.anyAction request pre
      (answer request today days evidence status (.stopped venue stop)) (fun _ _ => True)
      fun _ _ => True := by
  have answered : scraperProtocol.Holds System.anyAction request (fun _ => True)
      (answer request today days evidence status (.stopped venue stop)) (fun _ _ => True)
      fun _ _ => True :=
    holds_answer (fun _ _ _ _ _ _ => trivial) (fun _ _ => complete_stopped) fun _ _ => trivial
  exact Protocol.Holds.mono answered (fun _ _ _ => trivial) (fun _ _ _ holds => holds)
    fun _ _ _ holds => holds

theorem holds_acquire :
    scraperProtocol.Holds System.anyAction request (fun _ => True) (acquire request)
      (fun taken service => taken = true → Owns request (fun _ => True) service)
      fun _ _ => True := by
  apply Protocol.holds_action fun _ _ _ _ _ _ => trivial
  intro before input after ended invariant _ _ acted
  cases input with
  | done =>
      simp only at acted
      split at acted
      · rename_i free
        cases acted
        refine ⟨⟨rfl, invariant.lock.trans free, invariant.justified⟩, ?_,
          fun _ => ⟨rfl, trivial⟩⟩
        intro other different
        refine ⟨fun held => ?_, ownLog_cons_of_ne different.symm⟩
        rw [free] at held
        cases held
      · cases acted
        exact ⟨invariant, guarantees_refl _, by rintro ⟨⟩⟩
  | _ => cases acted

theorem holds_release :
    scraperProtocol.Holds System.anyAction request (Owns request fun _ => True) (release request)
      (fun _ _ => True) fun _ _ => True := by
  apply Protocol.holds_action stable_owns
  intro before input after ended invariant owns _ acted
  cases input <;> cases acted
  refine ⟨⟨rfl, justified_of_owns invariant owns, invariant.justified⟩, ?_, trivial⟩
  intro other different
  refine ⟨fun held => ?_, ownLog_cons_of_ne different.symm⟩
  have same := owns.1.symm.trans held
  cases same
  exact absurd rfl different

/-- An answer under the lock. -/
theorem scrapes_answer {assertion : List Event → Prop}
    (complete : ∀ log, assertion log →
      Complete (venueGroups result.venue) (requestedDates today days) log result) :
    scraperProtocol.Holds System.anyAction request (Owns request assertion)
      (answer request today days evidence status result)
      (fun _ => Owns request fun _ => True) fun _ => Owns request fun _ => True := by
  apply holds_answer stable_owns
  · exact fun service owns => complete _ owns.2
  · exact fun service owns => ⟨owns.1, trivial⟩

/-- What a request knows when its scrape is over. -/
def Scraped (venue : String) (requested : List String) :
    Except Stop Result → List Event → Prop
  | .ok result, log => result.venue = venue ∧ Complete (venueGroups venue) requested log result
  | .error _, _ => True

theorem scrapes_result {venue : String} {polls : Nat} (known : Watchers.firstDay ≤ today) :
    Scrapes request (fun _ => True)
      (tryCatch (do
        let result ←
          scrapeAvailableSlots request (venueGroups venue) venue today days evidence polls
        return Except.ok result) fun stop => return Except.error stop)
      (Scraped venue (requestedDates today days)) := by
  have scrape : Scrapes request (fun _ => True)
      (scrapeAvailableSlots request (venueGroups venue) venue today days evidence polls) _ :=
    scrapes_scrapeAvailableSlots (requestedDates_nodup known)
  apply Protocol.Holds.tryCatch (Protocol.Holds.bind scrape _)
  · exact fun stop => Protocol.holds_pure fun _ _ owns => ⟨owns.1, trivial⟩
  · exact fun result => Protocol.holds_pure fun _ _ holds => holds

theorem scrapes_respond {venue : String} {ended : Except Stop Result} :
    Scrapes request (Scraped venue (requestedDates today days) ended)
      (respond request venue today days evidence ended) fun _ _ => True := by
  cases ended with
  | ok result =>
      apply scrapes_answer
      rintro log ⟨rfl, complete⟩
      exact complete
  | error stop => exact scrapes_answer fun _ _ => complete_stopped

theorem holds_inspect {venue : String} {verification : Bool} {polls : Nat}
    (known : Watchers.firstDay ≤ today) :
    scraperProtocol.Holds System.anyAction request (fun _ => True)
      (inspect request (venueGroups venue) venue verification today days evidence polls)
      (fun _ _ => True) fun _ _ => True := by
  unfold inspect
  split
  · exact holds_refusal
  · apply Protocol.Holds.bind holds_acquire
    intro taken
    cases taken with
    | false => exact holds_refusal
    | true =>
        have locked : scraperProtocol.Holds System.anyAction request (Owns request fun _ => True)
            (inspectLocked request (venueGroups venue) venue today days evidence polls)
            (fun _ _ => True) fun _ _ => True := by
          have weaker : ∀ (stop : Stop) service, ServiceInvariant service →
              Owns request (fun _ => True) service → True := fun _ _ _ _ => trivial
          have kept : ∀ value : Except Stop Result, ∀ service, ServiceInvariant service →
              Owns request (Scraped venue (requestedDates today days) value) service →
              Owns request (Scraped venue (requestedDates today days) value) service :=
            fun _ _ _ owns => owns
          apply Protocol.Holds.bind
            (Protocol.Holds.mono (scrapes_result known) (fun _ _ owns => owns) kept weaker)
          intro ended
          apply Protocol.Holds.bind
            (Protocol.Holds.mono scrapes_respond (fun _ _ owns => owns)
              (fun _ _ _ owns => owns) weaker)
          exact fun _ => holds_release
        exact Protocol.Holds.mono locked (fun _ _ owned => owned rfl) (fun _ _ _ holds => holds)
          fun _ _ _ holds => holds

/-- Every request keeps to the protocol. -/
theorem scraperProtocol_follows : scraperProtocol.Follows scraperSystem System.anyAction where
  restingStable _ _ _ _ _ _ _ := trivial
  operations request program operation := by
    cases operation with
    | inspect venue verification today days evidence polls known =>
        exact Protocol.Holds.ended (holds_inspect known)
  crashes request service invariant := ⟨invariant, guarantees_refl service, trivial⟩
  environments before after invariant passes := by
    cases passes
    exact ⟨invariant, fun _ => ⟨id, rfl⟩⟩

end

/-! ## Runs -/

section

variable {config : Config Service Input Label Nat}
  (reachable : scraperSystem.Reachable System.anyAction (System.idle Service.idle) config)
  {newer older : List (Nat × Event)} {request : Nat}

include reachable

theorem justified_of_reachable : Justified config.shared.log := by
  have initial : ServiceInvariant Service.idle := ⟨rfl, trivial⟩
  have invariant :=
    scraperProtocol_follows.invariant_of_reachable initial (fun _ => trivial) reachable
  exact invariant.justified

omit reachable in
theorem Justified.entry {event : Event}
    (justified : Justified (newer ++ (request, event) :: older)) :
    event.Justified request older := by
  induction newer with
  | nil => exact justified.1
  | cons entry newer ih => exact ih justified.2

/-- Every answer is complete: it has no days, or exactly the requested dates, each from
pages that this request read for it. -/
theorem answers_complete {today days : Int} {evidence : Bool} {status : Nat} {result : Result}
    (log : config.shared.log =
      newer ++ (request, .answered today days evidence status result) :: older) :
    Complete (venueGroups result.venue) (requestedDates today days) (session request older)
      result := by
  have justified := justified_of_reachable reachable
  rw [log] at justified
  exact justified.entry

/-- Only the request that has the lock uses the browser. -/
theorem browser_under_lock {event : Event}
    (log : config.shared.log = newer ++ (request, event) :: older)
    (browses : event.browses = true) : lockOf older = some request := by
  have justified := justified_of_reachable reachable
  rw [log] at justified
  have entry := justified.entry
  cases event <;> first | exact entry | cases browses

end

/-! ### A scrape of two days -/

/-- A page of the venue that shows the day. -/
def shownPage (day generation : Int) : Page :=
  { Page.empty with
    ready := true
    cellCount := some 1
    pageHost := some "wxsports.ydmap.cn"
    selectedSalesId := some "100220"
    sourceSalesId := some "100220"
    selectedProduct := some "100000"
    sourceProduct := some "100000"
    productName := some "court"
    productInCatalog := true
    selectedDate := some (isoDate day)
    queryDate := some (isoDate day)
    availableDates := [isoDate 20000, isoDate 20001]
    loadingCounter := some 0
    loadGeneration := some generation
    dataVersion := some ⟨some (2 * generation), some (2 * generation + 1)⟩
    courtNames := some [some "1"]
    courts := some [("1", [("10:00", "11:00")])] }

/-- The visit of a date, which shows the page. -/
def visitInputs (page : Page) : List (Move Service Input Label Nat) :=
  [.act 0 .done, .act 0 (.tab true), .act 0 .done, .act 0 (.page page)]

/-- A request for two days, while the page shows the first one. -/
def twoDays : List (Move Service Input Label Nat) :=
  .start 0 (inspect 0 (venueGroups "dsh") "dsh" false 20000 2 false 9).ended ::
    (System.acts 0 .done 4 ++ .act 0 (.page (shownPage 20000 1)) ::
      (visitInputs (shownPage 20001 2) ++ (visitInputs (shownPage 20000 3) ++
        System.acts 0 .done 3)))

def Event.succeeded : Event → Bool
  | .answered today days _ _ result => decide (today = 20000) && decide (days = 2) && result.ok
  | _ => false

theorem legal_twoDays : ∀ move ∈ twoDays, scraperSystem.Legal move := by
  simp only [twoDays, visitInputs, List.forall_mem_cons, List.forall_mem_append]
  exact ⟨.inspect "dsh" false 20000 2 false 9 (by decide), System.legal_acts, trivial,
    ⟨trivial, trivial, trivial, trivial, by simp⟩, ⟨trivial, trivial, trivial, trivial, by simp⟩,
    System.legal_acts⟩

theorem twoDays_complete : ∃ config newer older evidence status result,
    scraperSystem.Reachable System.anyAction (System.idle Service.idle) config ∧
    config.shared.log = newer ++ (0, .answered 20000 2 evidence status result) :: older ∧
    result.ok = true ∧
    Complete (venueGroups result.venue) (requestedDates 20000 2) (session 0 older) result := by
  have replayed : (scraperSystem.replay System.anyAction (System.idle Service.idle) twoDays).any
      (fun config => config.shared.log.any fun entry =>
        decide (entry.1 = 0) && entry.2.succeeded) = true := by
    decide +kernel
  obtain ⟨config, reachable, answered⟩ :=
    System.exists_reachable_of_replay legal_twoDays replayed
  obtain ⟨⟨request, event⟩, member, succeeded⟩ := List.any_eq_true.mp answered
  rw [Bool.and_eq_true, decide_eq_true_eq] at succeeded
  obtain ⟨rfl, succeeded⟩ := succeeded
  obtain ⟨newer, older, log⟩ := List.append_of_mem member
  cases event with
  | answered today days evidence status result =>
      simp only [Event.succeeded, Bool.and_eq_true, decide_eq_true_eq] at succeeded
      obtain ⟨⟨rfl, rfl⟩, ok⟩ := succeeded
      exact ⟨config, newer, older, evidence, status, result, reachable, log, ok,
        answers_complete reachable log⟩
  | _ => cases succeeded

/-- The pages of the scrape were read under its lock. -/
theorem twoDays_underLock : ∃ config newer older request page,
    scraperSystem.Reachable System.anyAction (System.idle Service.idle) config ∧
    config.shared.log = newer ++ (request, .read page) :: older ∧ lockOf older = some request := by
  have replayed : (scraperSystem.replay System.anyAction (System.idle Service.idle) twoDays).any
      (fun config => config.shared.log.any fun entry => entry.2.isRead) = true := by
    decide +kernel
  obtain ⟨config, reachable, wasRead⟩ :=
    System.exists_reachable_of_replay legal_twoDays replayed
  obtain ⟨⟨request, event⟩, member, isRead⟩ := List.any_eq_true.mp wasRead
  obtain ⟨newer, older, log⟩ := List.append_of_mem member
  cases event with
  | read page =>
      exact ⟨config, newer, older, request, page, reachable, log,
        browser_under_lock reachable log rfl⟩
  | _ => cases isRead

end TennisAlerts.PiHost.Scraper
