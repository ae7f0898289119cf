import TennisAlerts.Properties.DashboardIdentity

/-!
# Late responses

A response that arrives after its token was removed, or after the response to a later
request of its identity, is stored all the same.  Without such responses no snapshot of
a removed token is stored, and nothing older replaces anything newer.
-/

namespace TennisAlerts.Web

/-! ## What is stored -/

/-- The item is a snapshot of the identity key. -/
def Item.Of (item : Item) (identityKey : String) : Prop :=
  ∃ version storedAt value, item.text = .snapshot version identityKey storedAt value

/-- The storage of an earlier session: every snapshot is under the key of its identity,
and none holds a response of this session. -/
structure EarlierStorage where
  items : Storage
  filed : ∀ key item identityKey, items key = some item → item.Of identityKey →
    key = dashboardSnapshotKey identityKey
  foreign : ∀ key item, items key = some item → item.request = none

/-- No snapshot of a removed token is stored. -/
def Page.SignedOut (page : Page) : Prop :=
  ∀ token ∈ page.signedOut, ∀ key item, page.storage key = some item → ¬item.Of token

/-- The stored snapshot of the identity key holds the response to the request. -/
def Page.Stores (page : Page) (identityKey : String) (number : Nat) : Prop :=
  ∃ item, page.storage (dashboardSnapshotKey identityKey) = some item ∧ item.Of identityKey ∧
    item.request = some number

/-- The memory entry of the identity key holds the response to the request. -/
def Page.Remembers (page : Page) (identityKey : String) (number : Nat) : Prop :=
  ∃ entry, page.cache = some entry ∧ entry.identityKey = identityKey ∧ entry.live = true ∧
    entry.request = number

/-- A step from one page to the next replaces no response by one to an earlier request. -/
structure Page.Renews (before after : Page) : Prop where
  stored : ∀ identityKey number number', before.Stores identityKey number →
    after.Stores identityKey number' → number ≤ number'
  remembered : ∀ identityKey number number', before.Remembers identityKey number →
    after.Remembers identityKey number' → number ≤ number'

/-! ## Timely responses -/

/-- A response that is stored arrives while its token is not removed, and one that is
stored or remembered before any response to a later request of its identity. -/
def Event.Timely (page : Page) : Event → Prop
  | .respond number _ _ writable => ∀ request, page.pending number = some request →
      (writable = true → request.identityKey ∉ page.signedOut) ∧
        (writable = true ∨ page.epoch = request.epoch →
          ∀ later response, number < later → page.Made later request.identityKey →
            (later, response) ∉ page.responses)
  | _ => True

def AllTimely : Page → List Event → Prop
  | _, [] => True
  | page, event :: rest => event.Timely page ∧ AllTimely (page.step event) rest

/-! ## Invariant -/

/-- The request was made for the identity key and has been answered. -/
def Page.Answered (page : Page) (number : Nat) (identityKey : String) : Prop :=
  page.Made number identityKey ∧ ∃ response, (number, response) ∈ page.responses

structure Page.Ordered (page : Page) : Prop where
  signedOut : page.SignedOut
  filed : ∀ key item identityKey, page.storage key = some item → item.Of identityKey →
    key = dashboardSnapshotKey identityKey
  stored : ∀ key item identityKey number, page.storage key = some item → item.Of identityKey →
    item.request = some number → page.Answered number identityKey
  remembered : ∀ entry, page.cache = some entry → entry.live = true →
    page.Answered entry.request entry.identityKey

theorem Page.ordered_load (storage : EarlierStorage) (receipts : List Receipt) :
    (Page.load storage.items receipts).Ordered where
  signedOut _ member := absurd member List.not_mem_nil
  filed := storage.filed
  stored key item _ number found _ holds :=
    absurd holds (by rw [storage.foreign key item found]; exact nofun)
  remembered _ found := nomatch found

theorem Page.Keeps.answered {before after : Page} (keeps : before.Keeps after) {number : Nat}
    {identityKey : String} (answered : before.Answered number identityKey) :
    after.Answered number identityKey :=
  ⟨keeps.made answered.1, answered.2.imp fun _ member => keeps.responses member⟩

/-! ## Steps without a response -/

/-- The step writes no response, and a token that it removes has no snapshot left. -/
structure Page.Passes (before after : Page) : Prop where
  keeps : before.Keeps after
  storage : ∀ key item, after.storage key = some item → before.storage key = some item
  cache : ∀ entry, after.cache = some entry → entry.live = true → before.cache = some entry
  signedOut : ∀ token ∈ after.signedOut, token ∈ before.signedOut ∨
    ∀ key item, after.storage key = some item → ¬item.Of token

theorem Page.Passes.trans {before middle after : Page} (first : before.Passes middle)
    (second : middle.Passes after) : before.Passes after where
  keeps := first.keeps.trans second.keeps
  storage key item found := first.storage key item (second.storage key item found)
  cache entry found live := first.cache entry (second.cache entry found live) live
  signedOut token member := by
    rcases second.signedOut token member with earlier | gone
    · rcases first.signedOut token earlier with earlier | gone
      · exact .inl earlier
      · exact .inr fun key item found => gone key item (second.storage key item found)
    · exact .inr gone

theorem Page.Passes.refl (page : Page) : page.Passes page :=
  ⟨.refl page, fun _ _ found => found, fun _ found _ => found, fun _ member => .inl member⟩

theorem Page.Ordered.passes {before after : Page} (ordered : before.Ordered)
    (passes : before.Passes after) : after.Ordered ∧ before.Renews after := by
  refine ⟨⟨?_, ?_, ?_, ?_⟩, ⟨?_, ?_⟩⟩
  · intro token member key item found
    rcases passes.signedOut token member with earlier | gone
    · exact ordered.signedOut token earlier key item (passes.storage key item found)
    · exact gone key item found
  · exact fun key item identityKey found =>
      ordered.filed key item identityKey (passes.storage key item found)
  · exact fun key item identityKey number found snapshot holds => passes.keeps.answered
      (ordered.stored key item identityKey number (passes.storage key item found) snapshot holds)
  · exact fun entry found live =>
      passes.keeps.answered (ordered.remembered entry (passes.cache entry found live) live)
  · rintro identityKey number number' ⟨item, found, -, holds⟩ ⟨item', found', -, holds'⟩
    have same := found.symm.trans (passes.storage _ item' found')
    cases same
    exact Nat.le_of_eq (Option.some.inj (holds.symm.trans holds'))
  · rintro identityKey _ _ ⟨entry, found, -, -, rfl⟩ ⟨entry', found', -, live, rfl⟩
    have same := found.symm.trans (passes.cache entry' found' live)
    cases same
    exact Nat.le_refl _

theorem Page.passes_use (page : Page) (receipt : Option Receipt) : page.Passes (page.use receipt) :=
  ⟨⟨fun _ request found => ⟨request, found, rfl, rfl⟩, List.Subset.refl _, List.Subset.refl _⟩,
    fun _ _ found => found, fun _ found _ => found,
    fun _ member => Or.inl (List.mem_filter.mp member).1⟩

theorem Page.passes_invalidate (page : Page) : page.Passes page.invalidate :=
  ⟨⟨fun _ request found => ⟨request, found, rfl, rfl⟩, List.Subset.refl _, List.Subset.refl _⟩,
    fun _ _ found => found, fun _ found _ => (nomatch found), fun _ member => .inl member⟩

theorem Page.passes_answer (page : Page) (identityKey : String) (returned : Returned) :
    page.Passes (page.answer identityKey returned) :=
  ⟨⟨fun _ request found => ⟨request, found, rfl, rfl⟩, List.Subset.refl _, List.Subset.refl _⟩,
    fun _ _ found => found, fun _ found _ => found, fun _ member => .inl member⟩

theorem Page.passes_fetch (page : Page) (receipt : Option Receipt) (force : Bool) :
    page.Passes (page.fetch receipt force) :=
  ⟨page.keeps_fetch receipt force, fun _ _ found => found, fun _ found _ => found,
    fun _ member => .inl member⟩

theorem Page.passes_getDashboard (page : Page) (receipt : Option Receipt) (force : Bool)
    (now : Nat) (hidden : Bool) : page.Passes (page.getDashboard receipt force now hidden) := by
  have used := page.passes_use receipt
  unfold Page.getDashboard
  dsimp only
  split
  · exact (used.trans (Page.passes_invalidate _)).trans (Page.passes_fetch _ receipt true)
  · split
    · exact used.trans (Page.passes_answer _ _ _)
    · split
      · exact used.trans (Page.passes_answer _ _ _)
      · exact used.trans (Page.passes_fetch _ receipt false)

theorem Page.passes_settle {page : Page} {number : Nat} {request : BootstrapRequest}
    (found : page.requests[number]? = some request) (outcome : Outcome) :
    page.Passes (page.settle number request outcome) :=
  ⟨Page.keeps_settle found, fun _ _ found => found, fun _ found _ => found,
    fun _ member => .inl member⟩

/-- A snapshot that is shown is no response. -/
theorem Page.passes_remember (page : Page) (number : Nat) (request : BootstrapRequest) (now : Nat)
    (value : Dashboard) : page.Passes (page.remember number request now value false) := by
  have keeps := page.keeps_remember number request now value false
  by_cases current : page.epoch = request.epoch
  · rw [Page.remember, if_pos current] at keeps ⊢
    refine ⟨keeps, fun _ _ found => found, ?_, fun _ member => .inl member⟩
    rintro entry ⟨⟩ live
    exact absurd live Bool.false_ne_true
  · rw [Page.remember, if_neg current]
    exact .refl page

theorem Page.passes_fail {page : Page} {number : Nat} {request : BootstrapRequest}
    (found : page.requests[number]? = some request) (error : RequestError) (now : Nat)
    (readable : Bool) : page.Passes (page.fail number request error now readable) := by
  unfold Page.fail
  split
  · exact Page.passes_settle found _
  · rcases loaded : page.storage.load readable request.identityKey now with ⟨storage, shown⟩
    have reads : page.Passes { page with storage := storage } :=
      ⟨⟨fun _ request found => ⟨request, found, rfl, rfl⟩, List.Subset.refl _,
        List.Subset.refl _⟩, (Storage.of_load loaded).1, fun _ found _ => found,
        fun _ member => .inl member⟩
    cases shown with
    | none =>
        refine reads.trans (Page.passes_settle ?_ _)
        exact found
    | some value =>
        refine (reads.trans (Page.passes_remember _ number request now _)).trans
          (Page.passes_settle ?_ _)
        rw [Page.remember_requests]
        exact found

theorem Page.passes_finish (page : Page) (number : Nat) : page.Passes (page.finish number) := by
  unfold Page.finish
  split
  · exact ⟨⟨fun _ request found => ⟨request, found, rfl, rfl⟩, List.Subset.refl _,
      List.Subset.refl _⟩, fun _ _ found => found, fun _ found _ => found,
      fun _ member => .inl member⟩
  · exact .refl page

theorem Page.passes_saveReceipt (page : Page) (receipt : Receipt) :
    page.Passes (page.saveReceipt receipt) := by
  refine Page.Passes.trans ?_ (Page.passes_invalidate _)
  exact ⟨⟨fun _ request found => ⟨request, found, rfl, rfl⟩, List.Subset.refl _,
    List.Subset.refl _⟩, fun _ _ found => found, fun _ found _ => found,
    fun _ member => .inl member⟩

theorem Page.passes_removeReceipt {page : Page} (ordered : page.Ordered) (token : String) :
    page.Passes (page.removeReceipt token) := by
  refine Page.Passes.trans ?_ (Page.passes_invalidate _)
  refine ⟨⟨fun _ request found => ⟨request, found, rfl, rfl⟩, List.Subset.refl _,
    List.Subset.refl _⟩, fun _ _ found => (Storage.of_remove found).1, fun _ found _ => found, ?_⟩
  intro other member
  rcases List.mem_cons.mp member with rfl | member
  · right
    intro key item found snapshot
    obtain ⟨found, apart⟩ := Storage.of_remove found
    exact apart (ordered.filed key item other found snapshot)
  · exact .inl member

/-! ## Responses -/

section

variable (page : Page) (number : Nat) (request : BootstrapRequest) (response : Dashboard)
  (now : Nat) (writable : Bool)

theorem Page.respond_storage :
    (page.respond number request response now writable).storage =
      page.storage.save writable request.identityKey now
        (withResolvedDashboardStatus response) number := by
  unfold Page.respond Page.remember
  dsimp only
  split <;> rfl

theorem Page.respond_signedOut :
    (page.respond number request response now writable).signedOut = page.signedOut := by
  unfold Page.respond Page.remember
  dsimp only
  split <;> rfl

theorem Page.respond_responses :
    (page.respond number request response now writable).responses =
      (number, response) :: page.responses := by
  unfold Page.respond Page.remember
  dsimp only
  split <;> rfl

theorem Page.of_respond_cache {entry : CacheEntry}
    (remembered : (page.respond number request response now writable).cache = some entry) :
    page.cache = some entry ∨ (page.epoch = request.epoch ∧
      entry.identityKey = request.identityKey ∧ entry.request = number) := by
  unfold Page.respond Page.remember at remembered
  dsimp only at remembered
  split at remembered
  · rename_i current
    cases remembered
    exact .inr ⟨current, rfl, rfl⟩
  · exact .inl remembered

end

section

variable {page : Page} {number : Nat} {request : BootstrapRequest}

theorem Page.keeps_respond (found : page.requests[number]? = some request) (response : Dashboard)
    (now : Nat) (writable : Bool) :
    page.Keeps (page.respond number request response now writable) := by
  unfold Page.respond
  dsimp only
  refine Page.Keeps.trans (Page.Keeps.trans ?_ (Page.keeps_remember _ number request now _ true))
    (Page.keeps_settle ?_)
  · exact ⟨fun _ request found => ⟨request, found, rfl, rfl⟩, List.subset_cons_self _ _,
      List.subset_cons_self _ _⟩
  · rw [Page.remember_requests]
    exact found

/-- A timely response keeps the order: what it replaces was no later. -/
theorem Page.Ordered.respond (ordered : page.Ordered)
    (found : page.requests[number]? = some request) (response : Dashboard) (now : Nat)
    (writable : Bool) (used : writable = true → request.identityKey ∉ page.signedOut)
    (first : writable = true ∨ page.epoch = request.epoch →
      ∀ later response, number < later → page.Made later request.identityKey →
        (later, response) ∉ page.responses) :
    (page.respond number request response now writable).Ordered ∧
      page.Renews (page.respond number request response now writable) := by
  have keeps := Page.keeps_respond found response now writable
  have answered : (page.respond number request response now writable).Answered number
      request.identityKey := by
    refine ⟨keeps.made ⟨request, found, rfl⟩, response, ?_⟩
    rw [Page.respond_responses]
    exact List.mem_cons_self
  -- An answered request of the identity is no later than this one.
  have latest {earlier : Nat} (written : writable = true ∨ page.epoch = request.epoch)
      (answered : page.Answered earlier request.identityKey) : earlier ≤ number := by
    obtain ⟨made, response', member⟩ := answered
    exact Nat.not_lt.mp fun before => first written earlier response' before made member
  refine ⟨⟨?_, ?_, ?_, ?_⟩, ⟨?_, ?_⟩⟩
  · intro token member key item located snapshot
    rw [Page.respond_signedOut] at member
    rw [Page.respond_storage] at located
    rcases Storage.of_save located with old | ⟨written, -, rfl⟩
    · exact ordered.signedOut token member key item old snapshot
    · obtain ⟨_, _, _, ⟨⟩⟩ := snapshot
      exact used written member
  · intro key item identityKey located snapshot
    rw [Page.respond_storage] at located
    rcases Storage.of_save located with old | ⟨-, rfl, rfl⟩
    · exact ordered.filed key item identityKey old snapshot
    · obtain ⟨_, _, _, ⟨⟩⟩ := snapshot
      rfl
  · intro key item identityKey earlier located snapshot holds
    rw [Page.respond_storage] at located
    rcases Storage.of_save located with old | ⟨-, -, rfl⟩
    · exact keeps.answered (ordered.stored key item identityKey earlier old snapshot holds)
    · obtain ⟨_, _, _, ⟨⟩⟩ := snapshot
      cases holds
      exact answered
  · intro entry remembered live
    rcases Page.of_respond_cache _ _ _ _ _ _ remembered with old | ⟨-, owner, same⟩
    · exact keeps.answered (ordered.remembered entry old live)
    · rw [owner, same]
      exact answered
  · rintro identityKey earlier later ⟨item, held, snapshot, holds⟩
      ⟨item', located, snapshot', holds'⟩
    rw [Page.respond_storage] at located
    rcases Storage.of_save located with old | ⟨written, -, rfl⟩
    · rw [held] at old
      cases old
      exact Nat.le_of_eq (Option.some.inj (holds.symm.trans holds'))
    · obtain ⟨_, _, _, ⟨⟩⟩ := snapshot'
      cases holds'
      exact latest (.inl written) (ordered.stored _ item _ earlier held snapshot holds)
  · rintro identityKey _ _ ⟨entry, held, owner, live, rfl⟩ ⟨entry', remembered, owner', -, rfl⟩
    rcases Page.of_respond_cache _ _ _ _ _ _ remembered with old | ⟨current, same, newer⟩
    · rw [held] at old
      cases old
      exact Nat.le_refl _
    · have answered := ordered.remembered entry held live
      rw [owner, ← owner', same] at answered
      rw [newer]
      exact latest (.inr current) answered

end

/-! ## Runs -/

theorem Page.Renews.refl (page : Page) : page.Renews page where
  stored := by
    rintro identityKey earlier later ⟨item, held, -, holds⟩ ⟨item', held', -, holds'⟩
    rw [held] at held'
    cases held'
    exact Nat.le_of_eq (Option.some.inj (holds.symm.trans holds'))
  remembered := by
    rintro identityKey _ _ ⟨entry, held, -, -, rfl⟩ ⟨entry', held', -, -, rfl⟩
    rw [held] at held'
    cases held'
    exact Nat.le_refl _

theorem Page.Ordered.step {page : Page} (ordered : page.Ordered) {event : Event}
    (timely : event.Timely page) : (page.step event).Ordered ∧ page.Renews (page.step event) := by
  cases event with
  | getDashboard receipt force now hidden =>
      exact ordered.passes (page.passes_getDashboard receipt force now hidden)
  | respond number response now writable =>
      unfold Page.step
      dsimp only
      split
      · rename_i request pending
        obtain ⟨used, first⟩ := timely request pending
        exact ordered.respond (Page.of_pending pending) response now writable used first
      · exact ⟨ordered, .refl page⟩
  | fail number error now readable =>
      unfold Page.step
      dsimp only
      split
      · rename_i request pending
        exact ordered.passes (Page.passes_fail (Page.of_pending pending) error now readable)
      · exact ⟨ordered, .refl page⟩
  | finish number => exact ordered.passes (page.passes_finish number)
  | invalidate => exact ordered.passes page.passes_invalidate
  | saveReceipt receipt => exact ordered.passes (page.passes_saveReceipt receipt)
  | removeReceipt token => exact ordered.passes (Page.passes_removeReceipt ordered token)

/-- Over a timely run the page stays in order and every step renews. -/
theorem Page.Ordered.run {page : Page} (ordered : page.Ordered) {events : List Event}
    (timely : AllTimely page events) :
    (∀ earlier later, events = earlier ++ later → (page.run earlier).Ordered) ∧
      ∀ earlier event later, events = earlier ++ event :: later →
        (page.run earlier).Renews (page.run (earlier ++ [event])) := by
  induction events generalizing page with
  | nil =>
      refine ⟨?_, fun earlier _ _ same => by simp at same⟩
      intro earlier later same
      obtain ⟨rfl, -⟩ := List.append_eq_nil_iff.mp same.symm
      exact ordered
  | cons next rest ih =>
      obtain ⟨after, renews⟩ := ordered.step timely.1
      obtain ⟨states, steps⟩ := ih after timely.2
      constructor
      · intro earlier later same
        cases earlier with
        | nil => exact ordered
        | cons head earlier =>
            rw [List.cons_append, List.cons.injEq] at same
            obtain ⟨rfl, same⟩ := same
            exact states earlier later same
      · intro earlier event later same
        cases earlier with
        | nil =>
            cases same
            exact renews
        | cons head earlier =>
            rw [List.cons_append, List.cons.injEq] at same
            obtain ⟨rfl, same⟩ := same
            exact steps earlier event later same

/-- In a run of timely responses no snapshot of a removed token is ever stored, and
nothing that is stored or remembered gives way to the response to an earlier request. -/
theorem newest_of_allTimely (storage : EarlierStorage) (receipts : List Receipt)
    (events : List Event) (timely : AllTimely (Page.load storage.items receipts) events) :
    let load := Page.load storage.items receipts
    (∀ earlier later, events = earlier ++ later → (load.run earlier).SignedOut) ∧
      ∀ earlier event later, events = earlier ++ event :: later →
        (load.run earlier).Renews (load.run (earlier ++ [event])) :=
  let ⟨states, steps⟩ := (Page.ordered_load storage receipts).run timely
  ⟨fun earlier later same => (states earlier later same).signedOut, steps⟩

/-! ## Two runs of one receipt -/

def emptyStorage : EarlierStorage where
  items _ := none
  filed _ _ _ found := nomatch found
  foreign _ _ found := nomatch found

def memberReceipt : Receipt where
  token := "tok-a"
  email := "a@example.com"
  maskedEmail := "a***@example.com"
  verifiedAt := "2026-01-01T00:00:00Z"
  nonempty := by decide
  named := by decide

def memberDashboard : Dashboard :=
  ⟨[], 0, 0, none, ""⟩

/-- Two refreshes that are answered in the order of their starts, and a removal. -/
def timelyEvents : List Event :=
  [.getDashboard (some memberReceipt) false 0 false,
    .getDashboard (some memberReceipt) true 1 false,
    .respond 0 memberDashboard 2 true, .respond 1 memberDashboard 3 true,
    .removeReceipt memberReceipt.token]

theorem timelyEvents_renew :
    let load := Page.load emptyStorage.items []
    (∀ earlier later, timelyEvents = earlier ++ later → (load.run earlier).SignedOut) ∧
      ∀ earlier event later, timelyEvents = earlier ++ event :: later →
        (load.run earlier).Renews (load.run (earlier ++ [event])) := by
  refine newest_of_allTimely emptyStorage [] timelyEvents
    ⟨trivial, trivial, ?_, ?_, trivial, trivial⟩
  · exact fun _ _ => ⟨fun _ => List.not_mem_nil, fun _ _ _ _ _ => List.not_mem_nil⟩
  · refine fun _ _ => ⟨fun _ => List.not_mem_nil, fun _ later _ after _ answered => ?_⟩
    rcases List.mem_singleton.mp answered with ⟨⟩
    exact absurd after (by decide)

/-- Three refreshes: the second is answered before the first, and the third after the
removal. -/
def lateEvents : List Event :=
  [.getDashboard (some memberReceipt) true 0 false, .getDashboard (some memberReceipt) true 1 false,
    .getDashboard (some memberReceipt) true 2 false, .respond 1 memberDashboard 3 true,
    .respond 0 memberDashboard 4 true, .removeReceipt memberReceipt.token,
    .respond 2 memberDashboard 5 true]

/-- What the storage holds of the member after the first events. -/
def storedAfter (events : List Event) : Option Item :=
  ((Page.load emptyStorage.items []).run events).storage
    (dashboardSnapshotKey memberReceipt.token)

/-- The first answer replaces the second in the storage, and the third is stored for the
removed token. -/
theorem lateEvents_stored :
    let load := Page.load emptyStorage.items []
    ¬(load.run (lateEvents.take 4)).Renews (load.run (lateEvents.take 5)) ∧
      ¬(load.run lateEvents).SignedOut := by
  have second : storedAfter (lateEvents.take 4) = some ⟨.snapshot 1 memberReceipt.token 3
      (some (withResolvedDashboardStatus memberDashboard)), some 1⟩ := by decide
  have first : storedAfter (lateEvents.take 5) = some ⟨.snapshot 1 memberReceipt.token 4
      (some (withResolvedDashboardStatus memberDashboard)), some 0⟩ := by decide
  have third : storedAfter lateEvents = some ⟨.snapshot 1 memberReceipt.token 5
      (some (withResolvedDashboardStatus memberDashboard)), some 2⟩ := by decide
  constructor
  · intro renews
    exact absurd (renews.stored memberReceipt.token 1 0 ⟨_, second, ⟨_, _, _, rfl⟩, rfl⟩
      ⟨_, first, ⟨_, _, _, rfl⟩, rfl⟩) (by decide)
  · intro signedOut
    exact signedOut memberReceipt.token List.mem_cons_self _ _ third ⟨_, _, _, rfl⟩

end TennisAlerts.Web
