import TennisAlerts.Web.DashboardClient

/-!
# Whose dashboard is shown

Every value that a call returns belongs to the identity of the call, and the memory
entry stems from a request that was started after the latest invalidation.
-/

namespace TennisAlerts.Web

/-! ## Owners -/

/-- A snapshot of the value was saved for the identity key, in this run or before. -/
def Page.SavedFor (page : Page) (stored : Storage) (identityKey : String) (value : Dashboard) :
    Prop :=
  (identityKey, value) ∈ page.saved ∨
    ∃ key item version storedAt, stored key = some item ∧
      item.text = .snapshot version identityKey storedAt (some value)

/-- The value comes from a response to a request with the token of the identity key, or
from a snapshot saved for exactly this key. -/
def Page.Owned (page : Page) (stored : Storage) (identityKey : String) (value : Dashboard) : Prop :=
  (∃ number request response, page.requests[number]? = some request ∧
    request.token = tokenOf identityKey ∧ (number, response) ∈ page.responses ∧
    value = withResolvedDashboardStatus response) ∨
  ∃ snapshot now, page.SavedFor stored identityKey snapshot ∧
    value = withBrowserSnapshotStatus (withoutRetiredVenue snapshot) now

/-- The request with the number was made for the identity key. -/
def Page.Made (page : Page) (number : Nat) (identityKey : String) : Prop :=
  ∃ request, page.requests[number]? = some request ∧ request.identityKey = identityKey

/-- A call has returned the value. -/
def Page.Yields (page : Page) (returned : Returned) (value : Dashboard) : Prop :=
  match returned with
  | .value shown => shown = value
  | .promise number => ∃ request, page.requests[number]? = some request ∧
      request.outcome = .resolved value

/-- What is recorded stays recorded. -/
structure Page.Keeps (before after : Page) : Prop where
  requests : ∀ (number : Nat) (request : BootstrapRequest),
    before.requests[number]? = some request → ∃ later : BootstrapRequest,
      after.requests[number]? = some later ∧ later.identityKey = request.identityKey ∧
        later.token = request.token
  responses : before.responses ⊆ after.responses
  saved : before.saved ⊆ after.saved

theorem Page.Keeps.refl (page : Page) : page.Keeps page :=
  ⟨fun _ request found => ⟨request, found, rfl, rfl⟩, List.Subset.refl _, List.Subset.refl _⟩

theorem Page.Keeps.trans {before middle after : Page} (first : before.Keeps middle)
    (second : middle.Keeps after) : before.Keeps after where
  requests number request found := by
    obtain ⟨later, found, identity, token⟩ := first.requests number request found
    obtain ⟨last, found, identity', token'⟩ := second.requests number later found
    exact ⟨last, found, identity'.trans identity, token'.trans token⟩
  responses := List.Subset.trans first.responses second.responses
  saved := List.Subset.trans first.saved second.saved

section

variable {before after : Page} (keeps : before.Keeps after) {stored : Storage}
  {identityKey : String}
include keeps

theorem Page.Keeps.savedFor {value : Dashboard} (saved : before.SavedFor stored identityKey value) :
    after.SavedFor stored identityKey value :=
  saved.imp_left fun member => keeps.saved member

theorem Page.Keeps.owned {value : Dashboard} (owned : before.Owned stored identityKey value) :
    after.Owned stored identityKey value := by
  rcases owned with ⟨number, request, response, found, token, answered, same⟩ |
    ⟨snapshot, now, saved, same⟩
  · obtain ⟨later, found, -, same'⟩ := keeps.requests number request found
    exact .inl ⟨number, later, response, found, same'.trans token, keeps.responses answered, same⟩
  · exact .inr ⟨snapshot, now, keeps.savedFor saved, same⟩

theorem Page.Keeps.made {number : Nat} (made : before.Made number identityKey) :
    after.Made number identityKey := by
  obtain ⟨request, found, same⟩ := made
  obtain ⟨later, found, same', -⟩ := keeps.requests number request found
  exact ⟨later, found, same'.trans same⟩

end

/-! ## Invariant -/

/-- What holds of one request. -/
structure Page.Admits (page : Page) (stored : Storage) (number : Nat)
    (request : BootstrapRequest) : Prop where
  token : request.token = tokenOf request.identityKey
  epoch : request.epoch ≤ page.epoch
  current : request.epoch = page.epoch → page.invalidatedAt ≤ number
  resolved : ∀ value, request.outcome = .resolved value →
    page.Owned stored request.identityKey value

/-- What holds of one returned result. -/
def Page.Granted (page : Page) (stored : Storage) (identityKey : String) : Returned → Prop
  | .value value => page.Owned stored identityKey value
  | .promise number => page.Made number identityKey

structure Page.Sound (page : Page) (stored : Storage) : Prop where
  requests : ∀ (number : Nat) (request : BootstrapRequest),
    page.requests[number]? = some request → page.Admits stored number request
  bounded : page.invalidatedAt ≤ page.requests.length
  cache : ∀ entry, page.cache = some entry →
    page.Owned stored entry.identityKey entry.value ∧ page.invalidatedAt ≤ entry.request
  shared : ∀ shared, page.shared = some shared → page.Made shared.promise shared.identityKey
  storage : ∀ key item version owner storedAt value, page.storage key = some item →
    item.text = .snapshot version owner storedAt (some value) → page.SavedFor stored owner value
  returned : ∀ identityKey returned, (identityKey, returned) ∈ page.returned →
    page.Granted stored identityKey returned

theorem Page.sound_load (storage : Storage) (receipts : List Receipt) :
    (Page.load storage receipts).Sound storage where
  requests _ _ found := nomatch found
  bounded := Nat.le_refl 0
  cache _ found := nomatch found
  shared _ found := nomatch found
  storage key item version _ storedAt _ found text :=
    .inr ⟨key, item, version, storedAt, found, text⟩
  returned _ _ member := absurd member List.not_mem_nil

theorem Page.Keeps.granted {before after : Page} (keeps : before.Keeps after) {stored : Storage}
    {identityKey : String} {returned : Returned}
    (granted : before.Granted stored identityKey returned) :
    after.Granted stored identityKey returned := by
  cases returned with
  | value value => exact keeps.owned granted
  | promise number => exact keeps.made granted

/-- A request keeps what holds of it while the epoch stays. -/
theorem Page.Keeps.admits {before after : Page} (keeps : before.Keeps after) {stored : Storage}
    {number : Nat} {request : BootstrapRequest} (epoch : after.epoch = before.epoch)
    (invalidated : after.invalidatedAt = before.invalidatedAt)
    (admits : before.Admits stored number request) : after.Admits stored number request where
  token := admits.token
  epoch := epoch ▸ admits.epoch
  current same := invalidated ▸ admits.current (same.trans epoch)
  resolved value same := keeps.owned (admits.resolved value same)

/-- The page has only forgotten something, or changed what no dashboard depends on. -/
structure Page.Forgets (before after : Page) : Prop where
  requests : after.requests = before.requests
  responses : after.responses = before.responses
  saved : after.saved = before.saved
  returned : after.returned = before.returned
  epoch : after.epoch = before.epoch
  invalidatedAt : after.invalidatedAt = before.invalidatedAt
  cache : ∀ entry, after.cache = some entry → before.cache = some entry
  shared : ∀ shared, after.shared = some shared → before.shared = some shared
  storage : ∀ key item, after.storage key = some item → before.storage key = some item

theorem Page.Forgets.keeps {before after : Page} (forgets : before.Forgets after) :
    before.Keeps after where
  requests _ request found := ⟨request, forgets.requests ▸ found, rfl, rfl⟩
  responses := forgets.responses ▸ List.Subset.refl _
  saved := forgets.saved ▸ List.Subset.refl _

theorem Page.Sound.forget {before after : Page} {stored : Storage} (sound : before.Sound stored)
    (forgets : before.Forgets after) : after.Sound stored where
  requests number request found :=
    forgets.keeps.admits forgets.epoch forgets.invalidatedAt
      (sound.requests number request (forgets.requests ▸ found))
  bounded := by
    rw [forgets.invalidatedAt, forgets.requests]
    exact sound.bounded
  cache entry remembered := by
    rw [forgets.invalidatedAt]
    exact (sound.cache entry (forgets.cache entry remembered)).imp_left forgets.keeps.owned
  shared shared inFlight :=
    forgets.keeps.made (sound.shared shared (forgets.shared shared inFlight))
  storage key item version owner storedAt value located text :=
    forgets.keeps.savedFor
      (sound.storage key item version owner storedAt value (forgets.storage key item located) text)
  returned identityKey returned member :=
    forgets.keeps.granted (sound.returned identityKey returned (forgets.returned ▸ member))

/-! ## Invalidation and calls -/

theorem of_getElem?_concat {α : Type} {items : List α} {last found : α} {number : Nat}
    (located : (items ++ [last])[number]? = some found) :
    items[number]? = some found ∨ (number = items.length ∧ found = last) := by
  rw [List.getElem?_append] at located
  split at located
  · exact .inl located
  · rename_i beyond
    obtain ⟨within, same⟩ := List.getElem?_eq_some_iff.mp located
    rw [List.length_singleton] at within
    refine .inr ⟨by omega, ?_⟩
    rw [← same, List.getElem_singleton]

theorem of_getElem?_set {α : Type} {items : List α} {new found : α} {number position : Nat}
    (located : (items.set position new)[number]? = some found) :
    (number = position ∧ found = new) ∨ items[number]? = some found := by
  rw [List.getElem?_set] at located
  split at located
  · rename_i same
    split at located
    · exact .inl ⟨same.symm, (Option.some.inj located).symm⟩
    · exact nomatch located
  · exact .inr located

theorem Page.keeps_fetch (page : Page) (receipt : Option Receipt) (force : Bool) :
    page.Keeps (page.fetch receipt force) where
  requests _ request found :=
    ⟨request, List.getElem?_append_left (List.getElem?_eq_some_iff.mp found).1 ▸ found, rfl, rfl⟩
  responses := List.Subset.refl _
  saved := List.Subset.refl _

section

variable {page : Page} {stored : Storage} (sound : page.Sound stored)
include sound

theorem Page.Sound.invalidate : page.invalidate.Sound stored where
  requests number request found :=
    let admits := sound.requests number request found
    { token := admits.token
      epoch := Nat.le_succ_of_le admits.epoch
      current := fun same => absurd admits.epoch (by rw [same]; exact Nat.not_succ_le_self _)
      resolved := admits.resolved }
  bounded := Nat.le_refl _
  cache _ found := nomatch found
  shared _ found := nomatch found
  storage := sound.storage
  returned := sound.returned

theorem Page.Sound.answer {identityKey : String} {returned : Returned}
    (granted : page.Granted stored identityKey returned) :
    (page.answer identityKey returned).Sound stored where
  requests number request found :=
    let admits := sound.requests number request found
    ⟨admits.token, admits.epoch, admits.current, admits.resolved⟩
  bounded := sound.bounded
  cache := sound.cache
  shared := sound.shared
  storage := sound.storage
  returned identityKey' returned' member := by
    rcases List.mem_cons.mp member with same | member
    · cases same
      cases returned with
      | value value => exact granted
      | promise number => exact granted
    · exact sound.returned identityKey' returned' member

theorem Page.Sound.use (receipt : Option Receipt) : (page.use receipt).Sound stored :=
  sound.forget ⟨rfl, rfl, rfl, rfl, rfl, rfl, fun _ same => same, fun _ same => same,
    fun _ _ same => same⟩

theorem Page.Sound.fetch (receipt : Option Receipt) (force : Bool) :
    (page.fetch receipt force).Sound stored := by
  have keeps := page.keeps_fetch receipt force
  have made : (page.fetch receipt force).Made page.requests.length
      (dashboardIdentityKey receipt) :=
    ⟨_, List.getElem?_concat_length, rfl⟩
  constructor
  · intro number request found
    rcases of_getElem?_concat found with old | ⟨rfl, rfl⟩
    · exact keeps.admits rfl rfl (sound.requests number request old)
    · exact ⟨(tokenOf_dashboardIdentityKey receipt).symm, Nat.le_refl _, fun _ => sound.bounded,
        nofun⟩
  · exact Nat.le_trans sound.bounded (List.sublist_append_left _ _).length_le
  · intro entry found
    obtain ⟨owned, later⟩ := sound.cache entry found
    exact ⟨keeps.owned owned, later⟩
  · rintro shared ⟨⟩
    exact made
  · intro key item version owner storedAt value found text
    exact keeps.savedFor (sound.storage key item version owner storedAt value found text)
  · intro identityKey returned member
    rcases List.mem_cons.mp member with same | member
    · cases same
      exact made
    · exact keeps.granted (sound.returned identityKey returned member)

theorem Page.Sound.getDashboard (receipt : Option Receipt) (force : Bool) (now : Nat)
    (hidden : Bool) : (page.getDashboard receipt force now hidden).Sound stored := by
  have used := sound.use receipt
  unfold Page.getDashboard
  dsimp only
  split
  · exact used.invalidate.fetch receipt true
  · split
    · rename_i value cached
      obtain ⟨entry, remembered, shown⟩ := Option.bind_eq_some_iff.mp cached
      split at shown
      · rename_i fits
        cases shown
        exact used.answer (fits.1 ▸ (used.cache entry remembered).1)
      · exact nomatch shown
    · split
      · rename_i promise joined
        obtain ⟨shared, inFlight, same⟩ := Option.bind_eq_some_iff.mp joined
        split at same
        · rename_i fits
          cases same
          exact used.answer (fits.1 ▸ used.shared shared inFlight)
        · exact nomatch same
      · exact used.fetch receipt false

end

/-! ## Arrivals -/

section

variable {page : Page} {stored : Storage} {number : Nat} {request : BootstrapRequest}

theorem Page.keeps_settle {outcome : Outcome} (found : page.requests[number]? = some request) :
    page.Keeps (page.settle number request outcome) where
  requests position earlier located := by
    by_cases same : number = position
    · subst same
      rw [found] at located
      cases located
      exact ⟨{ request with outcome := outcome },
        List.getElem?_set_self (List.getElem?_eq_some_iff.mp found).1, rfl, rfl⟩
    · exact ⟨earlier, (List.getElem?_set_ne same).trans located, rfl, rfl⟩
  responses := List.Subset.refl _
  saved := List.Subset.refl _

/-- A promise settles with a value of its identity, or with none. -/
theorem Page.Sound.settle (sound : page.Sound stored)
    (found : page.requests[number]? = some request) {outcome : Outcome}
    (owned : ∀ value, outcome = .resolved value →
      page.Owned stored request.identityKey value) :
    (page.settle number request outcome).Sound stored := by
  have keeps : page.Keeps (page.settle number request outcome) := Page.keeps_settle found
  constructor
  · intro position later located
    rcases of_getElem?_set located with ⟨rfl, rfl⟩ | old
    · have admits := keeps.admits rfl rfl (sound.requests position request found)
      exact ⟨admits.token, admits.epoch, admits.current,
        fun value same => keeps.owned (owned value same)⟩
    · exact keeps.admits rfl rfl (sound.requests position later old)
  · exact Nat.le_trans sound.bounded (Nat.le_of_eq List.length_set.symm)
  · intro entry remembered
    obtain ⟨owned, later⟩ := sound.cache entry remembered
    exact ⟨keeps.owned owned, later⟩
  · exact fun shared inFlight => keeps.made (sound.shared shared inFlight)
  · intro key item version owner storedAt value located text
    exact keeps.savedFor (sound.storage key item version owner storedAt value located text)
  · exact fun identityKey returned member =>
      keeps.granted (sound.returned identityKey returned member)

theorem Page.keeps_remember (page : Page) (number : Nat) (request : BootstrapRequest) (now : Nat)
    (value : Dashboard) (live : Bool) :
    page.Keeps (page.remember number request now value live) := by
  unfold Page.remember
  split
  · exact ⟨fun _ request found => ⟨request, found, rfl, rfl⟩, List.Subset.refl _,
      List.Subset.refl _⟩
  · exact .refl page

theorem Page.remember_requests (page : Page) (number : Nat) (request : BootstrapRequest)
    (now : Nat) (value : Dashboard) (live : Bool) :
    (page.remember number request now value live).requests = page.requests := by
  unfold Page.remember
  split <;> rfl

/-- A value of the identity of the request enters the memory. -/
theorem Page.Sound.remember (sound : page.Sound stored)
    (found : page.requests[number]? = some request) {value : Dashboard}
    (owned : page.Owned stored request.identityKey value) (now : Nat) (live : Bool) :
    (page.remember number request now value live).Sound stored := by
  have keeps := page.keeps_remember number request now value live
  by_cases current : page.epoch = request.epoch
  · rw [Page.remember, if_pos current] at keeps ⊢
    constructor
    · exact fun position later located =>
        keeps.admits rfl rfl (sound.requests position later located)
    · exact sound.bounded
    · rintro entry ⟨⟩
      exact ⟨keeps.owned owned, (sound.requests number request found).current current.symm⟩
    · exact fun shared inFlight => keeps.made (sound.shared shared inFlight)
    · exact sound.storage
    · exact fun identityKey returned member =>
        keeps.granted (sound.returned identityKey returned member)
  · rw [Page.remember, if_neg current]
    exact sound

/-- A request ends with a value of its identity. -/
theorem Page.Sound.arrive (sound : page.Sound stored)
    (found : page.requests[number]? = some request) {value : Dashboard}
    (owned : page.Owned stored request.identityKey value) (now : Nat) (live : Bool) :
    ((page.remember number request now value live).settle number request
      (.resolved value)).Sound stored := by
  refine (sound.remember found owned now live).settle ?_ ?_
  · rw [Page.remember_requests]
    exact found
  · rintro _ ⟨⟩
    exact (page.keeps_remember number request now value live).owned owned

theorem Storage.of_save {storage : Storage} {writable : Bool} {identityKey key : String} {now : Nat}
    {value : Dashboard} {number : Nat} {item : Item}
    (located : storage.save writable identityKey now value number key = some item) :
    storage key = some item ∨ (writable = true ∧ key = dashboardSnapshotKey identityKey ∧
      item = ⟨.snapshot 1 identityKey now (some value), some number⟩) := by
  unfold Storage.save at located
  split at located
  · rename_i written
    by_cases same : key = dashboardSnapshotKey identityKey
    · rw [same, Function.update_self] at located
      exact .inr ⟨written, same, (Option.some.inj located).symm⟩
    · rw [Function.update_of_ne same] at located
      exact .inl located
  · exact .inl located

theorem Storage.of_remove {storage : Storage} {identityKey key : String} {item : Item}
    (located : storage.remove identityKey key = some item) :
    storage key = some item ∧ key ≠ dashboardSnapshotKey identityKey := by
  by_cases same : key = dashboardSnapshotKey identityKey
  · rw [Storage.remove, same, Function.update_self] at located
    exact nomatch located
  · rw [Storage.remove, Function.update_of_ne same] at located
    exact ⟨located, same⟩

/-- A loaded snapshot was saved for the identity key; loading adds nothing. -/
theorem Storage.of_load {storage after : Storage} {readable : Bool} {identityKey : String}
    {now : Nat} {shown : Option Dashboard}
    (loaded : storage.load readable identityKey now = (after, shown)) :
    (∀ key item, after key = some item → storage key = some item) ∧
      ∀ value, shown = some value → ∃ item version storedAt snapshot,
        storage (dashboardSnapshotKey identityKey) = some item ∧
        item.text = .snapshot version identityKey storedAt (some snapshot) ∧
        value = withoutRetiredVenue snapshot := by
  have removed : ∀ key item, storage.remove identityKey key = some item →
      storage key = some item :=
    fun _ _ located => (Storage.of_remove located).1
  unfold Storage.load at loaded
  split at loaded
  · split at loaded
    · cases loaded
      exact ⟨fun _ _ located => located, nofun⟩
    · rename_i item located
      split at loaded
      · cases loaded
        exact ⟨removed, nofun⟩
      · cases loaded
        exact ⟨fun _ _ located => located, nofun⟩
      · rename_i version owner storedAt value text
        split at loaded
        · cases loaded
          exact ⟨removed, nofun⟩
        · rename_i fits
          split at loaded
          · cases loaded
            exact ⟨removed, nofun⟩
          · rename_i snapshot
            cases loaded
            refine ⟨fun _ _ located => located, ?_⟩
            rintro value ⟨⟩
            have owned : owner = identityKey := by
              by_contra other
              exact fits (.inr (.inl other))
            exact ⟨item, version, storedAt, snapshot, located, owned ▸ text, rfl⟩
  · cases loaded
    exact ⟨fun _ _ located => located, nofun⟩

theorem Page.Sound.respond (sound : page.Sound stored)
    (found : page.requests[number]? = some request) (response : Dashboard) (now : Nat)
    (writable : Bool) : (page.respond number request response now writable).Sound stored := by
  let after : Page :=
    { page with
      responses := (number, response) :: page.responses
      storage := page.storage.save writable request.identityKey now
        (withResolvedDashboardStatus response) number
      saved := (request.identityKey, withResolvedDashboardStatus response) :: page.saved }
  have keeps : page.Keeps after :=
    ⟨fun _ request found => ⟨request, found, rfl, rfl⟩, List.subset_cons_self _ _,
      List.subset_cons_self _ _⟩
  have recorded : after.Sound stored := by
    constructor
    · exact fun position later located =>
        keeps.admits rfl rfl (sound.requests position later located)
    · exact sound.bounded
    · exact fun entry remembered => (sound.cache entry remembered).imp_left keeps.owned
    · exact fun shared inFlight => keeps.made (sound.shared shared inFlight)
    · intro key item version owner storedAt value located text
      rcases Storage.of_save located with old | ⟨-, -, rfl⟩
      · exact keeps.savedFor (sound.storage key item version owner storedAt value old text)
      · cases text
        exact .inl List.mem_cons_self
    · exact fun identityKey returned member =>
        keeps.granted (sound.returned identityKey returned member)
  have owned : after.Owned stored request.identityKey (withResolvedDashboardStatus response) :=
    .inl ⟨number, request, response, found, (sound.requests number request found).token,
      List.mem_cons_self, rfl⟩
  exact recorded.arrive found owned now true

/-- A failure shows a snapshot of its identity, or nothing. -/
theorem Page.Sound.fail (sound : page.Sound stored)
    (found : page.requests[number]? = some request) (error : RequestError) (now : Nat)
    (readable : Bool) : (page.fail number request error now readable).Sound stored := by
  unfold Page.fail
  split
  · exact sound.settle found nofun
  · rcases loaded : page.storage.load readable request.identityKey now with ⟨storage, shown⟩
    obtain ⟨older, origin⟩ := Storage.of_load loaded
    have kept : Page.Sound { page with storage := storage } stored :=
      sound.forget ⟨rfl, rfl, rfl, rfl, rfl, rfl, fun _ same => same, fun _ same => same, older⟩
    dsimp only
    cases shown with
    | none => exact kept.settle found nofun
    | some value =>
        obtain ⟨item, version, storedAt, snapshot, located, text, rfl⟩ := origin value rfl
        have saved := sound.storage _ item version _ storedAt snapshot located text
        exact kept.arrive found (.inr ⟨snapshot, now, saved, rfl⟩) now false

theorem Page.Sound.finish (sound : page.Sound stored) (number : Nat) :
    (page.finish number).Sound stored := by
  unfold Page.finish
  split
  · exact sound.forget
      ⟨rfl, rfl, rfl, rfl, rfl, rfl, fun _ same => same, nofun, fun _ _ same => same⟩
  · exact sound

end

/-! ## Runs -/

theorem Page.of_pending {page : Page} {number : Nat} {request : BootstrapRequest}
    (pending : page.pending number = some request) : page.requests[number]? = some request := by
  unfold Page.pending at pending
  split at pending
  · rename_i found
    split at pending
    · rw [found, Option.some.inj pending]
    · exact nomatch pending
  · exact nomatch pending

/-- Saving and removing receipts change the receipts and the storage before they
invalidate. -/
theorem Page.Sound.saveReceipt {page : Page} {stored : Storage} (sound : page.Sound stored)
    (receipt : Receipt) : (page.saveReceipt receipt).Sound stored :=
  Page.Sound.invalidate (sound.forget ⟨rfl, rfl, rfl, rfl, rfl, rfl, fun _ same => same,
    fun _ same => same, fun _ _ same => same⟩)

theorem Page.Sound.removeReceipt {page : Page} {stored : Storage} (sound : page.Sound stored)
    (token : String) : (page.removeReceipt token).Sound stored :=
  Page.Sound.invalidate (sound.forget ⟨rfl, rfl, rfl, rfl, rfl, rfl, fun _ same => same,
    fun _ same => same, fun _ _ located => (Storage.of_remove located).1⟩)

theorem Page.Sound.step {page : Page} {stored : Storage} (sound : page.Sound stored)
    (event : Event) : (page.step event).Sound stored := by
  cases event with
  | getDashboard receipt force now hidden => exact sound.getDashboard receipt force now hidden
  | respond number response now writable =>
      unfold Page.step
      dsimp only
      split
      · rename_i request pending
        exact sound.respond (Page.of_pending pending) response now writable
      · exact sound
  | fail number error now readable =>
      unfold Page.step
      dsimp only
      split
      · rename_i request pending
        exact sound.fail (Page.of_pending pending) error now readable
      · exact sound
  | finish number => exact sound.finish number
  | invalidate => exact sound.invalidate
  | saveReceipt receipt => exact sound.saveReceipt receipt
  | removeReceipt token => exact sound.removeReceipt token

theorem Page.sound_run (storage : Storage) (receipts : List Receipt) (events : List Event) :
    ((Page.load storage receipts).run events).Sound storage := by
  have continues {page : Page} (sound : page.Sound storage) (events : List Event) :
      (page.run events).Sound storage := by
    induction events generalizing page with
    | nil => exact sound
    | cons event events ih => exact ih (sound.step event)
  exact continues (Page.sound_load storage receipts) events

/-- Whatever is loaded, called, answered, failed or invalidated, a call shows a dashboard
of its own identity, and the memory holds nothing older than the latest invalidation. -/
theorem identity_of_run (storage : Storage) (receipts : List Receipt) (events : List Event) :
    let page := (Page.load storage receipts).run events
    (∀ identityKey returned value, (identityKey, returned) ∈ page.returned →
      page.Yields returned value → page.Owned storage identityKey value) ∧
    ∀ entry, page.cache = some entry → ¬entry.request < page.invalidatedAt := by
  have sound := Page.sound_run storage receipts events
  constructor
  · intro identityKey returned value member yields
    have granted := sound.returned identityKey returned member
    cases returned with
    | value shown =>
        cases yields
        exact granted
    | promise number =>
        obtain ⟨request, found, same⟩ := granted
        obtain ⟨later, found', resolved⟩ := yields
        rw [found] at found'
        cases found'
        exact same ▸ (sound.requests number request found).resolved value resolved
  · intro entry remembered
    exact Nat.not_lt.mpr (sound.cache entry remembered).2

end TennisAlerts.Web
