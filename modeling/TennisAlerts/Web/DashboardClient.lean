import TennisAlerts.Web.Snapshot

/-!
# The dashboard client

The module state of `api.ts` and what changes it: calls of `getDashboard`, the arrival
of a response or a failure, the clean-up behind them, invalidations, and the saving and
removing of receipts.  Requests are numbered in the order of their starts, and the
number of a request stands for its promise.
-/

namespace TennisAlerts.Web

/-- `dashboardCache`, with the request that filled it; `live` tells a response from a
stored snapshot.  Neither is kept by the code. -/
structure CacheEntry where
  identityKey : String
  expiresAt : Nat
  value : Dashboard
  request : Nat
  live : Bool

/-- `dashboardRequest`. -/
structure SharedRequest where
  identityKey : String
  epoch : Nat
  promise : Nat

/-- What a promise has become. -/
inductive Outcome
  | pending
  | resolved (value : Dashboard)
  | rejected

/-- A request for the dashboard. -/
structure BootstrapRequest where
  identityKey : String
  token : Option String
  epoch : Nat
  force : Bool
  outcome : Outcome

/-- What a call of `getDashboard` returns: a value, or the promise of a request. -/
inductive Returned
  | value (value : Dashboard)
  | promise (request : Nat)

/-- The module state.  The last five fields record what happened: the returned values
with their identity keys, the responses, the saved snapshots, how many requests had
been started before the latest invalidation, and the tokens that were removed and not
used again. -/
structure Page where
  cache : Option CacheEntry
  shared : Option SharedRequest
  epoch : Nat
  storage : Storage
  receipts : List Receipt
  requests : List BootstrapRequest
  returned : List (String × Returned)
  responses : List (Nat × Dashboard)
  saved : List (String × Dashboard)
  invalidatedAt : Nat
  signedOut : List String

/-- A page that has just been loaded. -/
def Page.load (storage : Storage) (receipts : List Receipt) : Page where
  cache := none
  shared := none
  epoch := 0
  storage := storage
  receipts := receipts
  requests := []
  returned := []
  responses := []
  saved := []
  invalidatedAt := 0
  signedOut := []

/-- `DASHBOARD_CLIENT_CACHE_MS`. -/
def clientCache : Nat :=
  86400000

/-- `invalidateDashboardCache`. -/
def Page.invalidate (page : Page) : Page :=
  { page with
    cache := none
    shared := none
    epoch := page.epoch + 1
    invalidatedAt := page.requests.length }

/-! ## Calls -/

/-- The memory entry that `getDashboard` may return. -/
def Page.cached (page : Page) (identityKey : String) (now : Nat) (hidden : Bool) :
    Option Dashboard :=
  page.cache.bind fun entry =>
    if entry.identityKey = identityKey ∧ (now < entry.expiresAt ∨ hidden = true) then
      some entry.value
    else none

/-- The request in flight that `getDashboard` may share. -/
def Page.joined (page : Page) (identityKey : String) : Option Nat :=
  page.shared.bind fun request =>
    if request.identityKey = identityKey ∧ request.epoch = page.epoch then some request.promise
    else none

def Page.answer (page : Page) (identityKey : String) (returned : Returned) : Page :=
  { page with returned := (identityKey, returned) :: page.returned }

/-- A new request. -/
def Page.fetch (page : Page) (receipt : Option Receipt) (force : Bool) : Page :=
  let identityKey := dashboardIdentityKey receipt
  { page with
    requests := page.requests ++
      [⟨identityKey, receipt.map (·.token), page.epoch, force, .pending⟩]
    shared := some ⟨identityKey, page.epoch, page.requests.length⟩
    returned := (identityKey, .promise page.requests.length) :: page.returned }

/-- A token that is used is no longer signed out. -/
def Page.use (page : Page) (receipt : Option Receipt) : Page :=
  { page with
    signedOut := page.signedOut.filter fun token => some token != receipt.map (·.token) }

/-- `getDashboard`, up to its promise. -/
def Page.getDashboard (page : Page) (receipt : Option Receipt) (force : Bool) (now : Nat)
    (hidden : Bool) : Page :=
  let page := page.use receipt
  let identityKey := dashboardIdentityKey receipt
  if force then page.invalidate.fetch receipt true
  else
    match page.cached identityKey now hidden with
    | some value => page.answer identityKey (.value value)
    | none =>
        match page.joined identityKey with
        | some promise => page.answer identityKey (.promise promise)
        | none => page.fetch receipt false

/-! ## Arrivals -/

def Page.settle (page : Page) (number : Nat) (request : BootstrapRequest) (outcome : Outcome) :
    Page :=
  { page with requests := page.requests.set number { request with outcome := outcome } }

/-- The memory entry is written when nothing was invalidated since the request started. -/
def Page.remember (page : Page) (number : Nat) (request : BootstrapRequest) (now : Nat)
    (value : Dashboard) (live : Bool) : Page :=
  if page.epoch = request.epoch then
    { page with cache := some ⟨request.identityKey, now + clientCache, value, number, live⟩ }
  else page

/-- A response arrives: the handler of `then`. -/
def Page.respond (page : Page) (number : Nat) (request : BootstrapRequest) (response : Dashboard)
    (now : Nat) (writable : Bool) : Page :=
  let resolved := withResolvedDashboardStatus response
  let stored : Page :=
    { page with
      responses := (number, response) :: page.responses
      storage := page.storage.save writable request.identityKey now resolved number
      saved := (request.identityKey, resolved) :: page.saved }
  (stored.remember number request now resolved true).settle number request (.resolved resolved)

/-- A request fails: the handler of `catch`. -/
def Page.fail (page : Page) (number : Nat) (request : BootstrapRequest) (error : RequestError)
    (now : Nat) (readable : Bool) : Page :=
  if request.force || !dashboardFailureCanUseSnapshot error then
    page.settle number request .rejected
  else
    let (storage, snapshot) := page.storage.load readable request.identityKey now
    let loaded : Page := { page with storage := storage }
    match snapshot with
    | none => loaded.settle number request .rejected
    | some value =>
        let resolved := withBrowserSnapshotStatus value now
        (loaded.remember number request now resolved false).settle number request
          (.resolved resolved)

/-- The handler of `finally`. -/
def Page.finish (page : Page) (number : Nat) : Page :=
  if page.shared.any fun request => request.promise = number then { page with shared := none }
  else page

/-! ## Receipts -/

/-- `saveReceipt`. -/
def Page.saveReceipt (page : Page) (receipt : Receipt) : Page :=
  Page.invalidate
    { page with
      receipts := (receipt :: page.receipts.filter fun item =>
        item.email.toLower != receipt.email.toLower).take 3 }

/-- `removeReceipt`. -/
def Page.removeReceipt (page : Page) (token : String) : Page :=
  Page.invalidate
    { page with
      receipts := page.receipts.filter fun item => item.token != token
      storage := page.storage.remove token
      signedOut := token :: page.signedOut }

/-! ## Runs -/

/-- Everything that changes the module state. -/
inductive Event
  | getDashboard (receipt : Option Receipt) (force : Bool) (now : Nat) (hidden : Bool)
  | respond (number : Nat) (response : Dashboard) (now : Nat) (writable : Bool)
  | fail (number : Nat) (error : RequestError) (now : Nat) (readable : Bool)
  | finish (number : Nat)
  | invalidate
  | saveReceipt (receipt : Receipt)
  | removeReceipt (token : String)

/-- A request that has not been answered. -/
def Page.pending (page : Page) (number : Nat) : Option BootstrapRequest :=
  match page.requests[number]? with
  | some request =>
      match request.outcome with
      | .pending => some request
      | _ => none
  | none => none

/-- One event; an arrival for a request that is not pending changes nothing. -/
def Page.step (page : Page) : Event → Page
  | .getDashboard receipt force now hidden => page.getDashboard receipt force now hidden
  | .respond number response now writable =>
      match page.pending number with
      | some request => page.respond number request response now writable
      | none => page
  | .fail number error now readable =>
      match page.pending number with
      | some request => page.fail number request error now readable
      | none => page
  | .finish number => page.finish number
  | .invalidate => page.invalidate
  | .saveReceipt receipt => page.saveReceipt receipt
  | .removeReceipt token => page.removeReceipt token

def Page.run (page : Page) (events : List Event) : Page :=
  events.foldl Page.step page

end TennisAlerts.Web
