/-
The browser's side of rotation: `services/api.ts`.

`n` tabs share one `localStorage`. Each tab has its own copy of the module, so
its own `refreshInFlight`, and any number of API requests under way. One turn of
a tab's event loop is one event, and so is each thing the network and the server
do with a refresh: it is served, soon or late or never, its answer is lost, its
promise settles. Nobody impersonates, so `impersonation_token` is never set.
-/
import EnvMgr.Auth.Session

namespace EnvMgr.Auth.Browser

/-! ## State -/

/-- What came back for a `POST /auth/refresh`. -/
inductive Reply
  | pending
  | issued (data : IssuedSession)
  | failed
  deriving DecidableEq

/-- A refresh under way: what `refreshInFlight` promises. -/
structure RefreshCall where
  refresh_token : String
  reply : Reply
  deriving DecidableEq

inductive Progress
  | unsent
  | sent
  /-- awaiting `refreshInFlight` -/
  | waiting
  | settled
  deriving DecidableEq

/-- An API request. `replays` counts the calls of `api.request(request)`. -/
structure Request where
  progress : Progress
  _retried : Bool
  /-- the URL is that of `/auth/refresh` or `/auth/login` -/
  auth_url : Bool
  replays : ℕ
  deriving DecidableEq

structure Storage where
  token : Option AccessToken
  refresh_token : Option String
  deriving DecidableEq

structure State (n : ℕ) where
  server : Db
  /-- The server has seen a spent token and taken its reuse branch. -/
  reuse_detected : Bool
  localStorage : Storage
  refreshInFlight : Fin n → Option RefreshCall
  requests : Fin n → ℕ → Request
  /-- Every refresh token posted so far. -/
  posted : List String
  /-- The posts the server has not handled yet, with the tabs they came from. -/
  wire : List (Fin n × String)

/-- The browser as it is opened, with nobody signed in. -/
def opened (n : ℕ) (server : Db) : State n where
  server := server
  reuse_detected := false
  localStorage := ⟨none, none⟩
  refreshInFlight := fun _ => none
  requests := fun _ _ => ⟨.unsent, false, false, 0⟩
  posted := []
  wire := []

variable {n : ℕ}

/-! ## The interceptor -/

/-- `localStorage.getItem('refresh_token')`, where an empty string is no token. -/
def Storage.refreshToken (s : Storage) : Option String :=
  s.refresh_token.filter fun t => t ≠ ""

/-- `endSession`, as far as the storage goes. -/
def endSession (s : State n) : State n := { s with localStorage := ⟨none, none⟩ }

def set_request (s : State n) (tab : Fin n) (r : ℕ) (request : Request) : State n :=
  { s with
    requests := Function.update s.requests tab (Function.update (s.requests tab) r request) }

/-- `canRetry`, on a response that is a 401. -/
def canRetry (s : State n) (request : Request) : Bool :=
  !request._retried && !request.auth_url && s.localStorage.refreshToken.isSome

/-- `refreshInFlight ?? refreshAccessToken()`. -/
def refresh_or_join (s : State n) (tab : Fin n) : State n :=
  match s.refreshInFlight tab, s.localStorage.refreshToken with
  | none, some refresh_token =>
    { s with
      refreshInFlight := Function.update s.refreshInFlight tab (some ⟨refresh_token, .pending⟩)
      posted := s.posted ++ [refresh_token]
      wire := s.wire ++ [(tab, refresh_token)] }
  | _, _ => s

/-- The error interceptor on a 401. -/
def on_401 (s : State n) (tab : Fin n) (r : ℕ) : State n :=
  let request := s.requests tab r
  if canRetry s request then
    set_request (refresh_or_join s tab) tab r { request with progress := .waiting }
  else
    let rejected := set_request s tab r { request with progress := .settled }
    if s.localStorage.token.isSome then endSession rejected else rejected

/-- What happens to a request whose refresh has come through. -/
def replay (request : Request) : Request :=
  if request.progress = .waiting then
    { request with progress := .sent, _retried := true, replays := request.replays + 1 }
  else request

/-- What happens to a request whose refresh has failed. -/
def reject (request : Request) : Request :=
  if request.progress = .waiting then { request with progress := .settled } else request

/-- The promise settles: its `finally`, and then everyone who awaits it. -/
def settle (s : State n) (tab : Fin n) : State n :=
  match s.refreshInFlight tab with
  | some ⟨_, .issued data⟩ =>
    { s with
      localStorage := ⟨some data.access_token, some data.refresh_token⟩
      refreshInFlight := Function.update s.refreshInFlight tab none
      requests := Function.update s.requests tab fun r => replay (s.requests tab r) }
  | some ⟨_, .failed⟩ =>
    endSession
      { s with
        refreshInFlight := Function.update s.refreshInFlight tab none
        requests := Function.update s.requests tab fun r => reject (s.requests tab r) }
  | _ => s

/-! ## Events -/

inductive Event (n : ℕ)
  /-- a page makes an API request -/
  | call (tab : Fin n) (r : ℕ) (auth_url : Bool)
  /-- it is answered, with anything but a 401 -/
  | answer (tab : Fin n) (r : ℕ)
  | answer_401 (tab : Fin n) (r : ℕ)
  /-- the server handles a refresh that a tab has posted -/
  | serve (tab : Fin n) (refresh_token : String) (client : Client) (draw : Draw)
      (now : DateTime)
  /-- a tab is told that its refresh has failed on the way -/
  | lose (tab : Fin n)
  | settle (tab : Fin n)
  | sign_in (user : User) (client : Client) (draw : Draw) (now : DateTime)
  | sign_out (now : DateTime)
  | revoke_all_for_user (user_id : ℕ) (reason : String) (now : DateTime)

section Step

variable (sha256 : String → String)

/-- Whether the server answers this token with its reuse branch. -/
def is_reuse (server : Db) (refresh_token : String) : Bool :=
  match _load_token sha256 server refresh_token with
  | .ok row => row.used_at.isSome
  | .error _ => false

/-- The reply to a refresh. -/
def reply_to (server : Db) (refresh_token : String) (client : Client) (draw : Draw)
    (now : DateTime) : Reply :=
  match rotate_refresh_token sha256 server refresh_token client draw now with
  | .ok (_, issued) => .issued issued
  | .error _ => .failed

/-- The tab is handed the reply, unless it has given that refresh up. -/
def deliver (calls : Fin n → Option RefreshCall) (tab : Fin n) (refresh_token : String)
    (reply : Reply) : Fin n → Option RefreshCall :=
  if calls tab = some ⟨refresh_token, .pending⟩ then
    Function.update calls tab (some ⟨refresh_token, reply⟩)
  else calls

def serve (s : State n) (tab : Fin n) (refresh_token : String) (client : Client)
    (draw : Draw) (now : DateTime) : State n :=
  if (tab, refresh_token) ∈ s.wire then
    { s with
      server := Auth.step sha256 s.server (.refresh refresh_token client draw now)
      reuse_detected := s.reuse_detected || is_reuse sha256 s.server refresh_token
      refreshInFlight := deliver s.refreshInFlight tab refresh_token
        (reply_to sha256 s.server refresh_token client draw now)
      wire := s.wire.erase (tab, refresh_token) }
  else s

def sign_in (s : State n) (user : User) (client : Client) (draw : Draw) (now : DateTime) :
    State n :=
  match issue_session sha256 s.server user client none none draw now with
  | .ok (server, issued) =>
    { s with
      server := server
      localStorage := ⟨some issued.access_token, some issued.refresh_token⟩ }
  | .error _ => s

/-- `authService.logout` and the store's `logout`. -/
def sign_out (s : State n) (now : DateTime) : State n :=
  match s.localStorage.refreshToken with
  | some refresh_token =>
    endSession
      { s with server := revoke_refresh_token sha256 s.server refresh_token "logout" now }
  | none => endSession s

def step (s : State n) : Event n → State n
  | .call tab r auth_url =>
    if (s.requests tab r).progress = .unsent then
      set_request s tab r ⟨.sent, false, auth_url, 0⟩
    else s
  | .answer tab r =>
    if (s.requests tab r).progress = .sent then
      set_request s tab r { s.requests tab r with progress := .settled }
    else s
  | .answer_401 tab r =>
    if (s.requests tab r).progress = .sent then on_401 s tab r else s
  | .serve tab refresh_token client draw now => serve sha256 s tab refresh_token client draw now
  | .lose tab =>
    match s.refreshInFlight tab with
    | some call =>
      { s with
        refreshInFlight := Function.update s.refreshInFlight tab
          (some { call with reply := .failed }) }
    | none => s
  | .settle tab => Browser.settle s tab
  | .sign_in user client draw now => Browser.sign_in sha256 s user client draw now
  | .sign_out now => Browser.sign_out sha256 s now
  | .revoke_all_for_user user_id reason now =>
    { s with server := Auth.revoke_all_for_user s.server user_id reason now }

end Step

/-! ## What the shared promise is for -/

/-- No refresh token has been posted twice, the server has seen no reuse, and no
request has been replayed twice. -/
structure Honest (s : State n) : Prop where
  posted_once : s.posted.Nodup
  no_reuse : s.reuse_detected = false
  replayed_once : ∀ tab r, (s.requests tab r).replays ≤ 1

/-- The 401 for request `r` makes the tab post a refresh of its own. -/
def posts (s : State n) (tab : Fin n) (r : ℕ) : Bool :=
  (s.requests tab r).progress = .sent && canRetry s (s.requests tab r)
    && (s.refreshInFlight tab).isNone

/-- A 401 that makes a tab post a refresh does so with a token that no other tab
is refreshing at that moment. -/
def NotInFlightElsewhere (s : State n) : Event n → Prop
  | .answer_401 tab r => posts s tab r = true →
    ∀ other : Fin n, other ≠ tab → ∀ call ∈ s.refreshInFlight other,
      s.localStorage.refresh_token ≠ some call.refresh_token
  | _ => True

instance (s : State n) : (e : Event n) → Decidable (NotInFlightElsewhere s e)
  | .answer_401 tab r => inferInstanceAs (Decidable (posts s tab r = true →
      ∀ other : Fin n, other ≠ tab → ∀ call ∈ s.refreshInFlight other,
        s.localStorage.refresh_token ≠ some call.refresh_token))
  | .call .. | .answer .. | .serve .. | .lose _ | .settle _ | .sign_in .. | .sign_out _
  | .revoke_all_for_user .. => .isTrue trivial

namespace Sample

/-- Alice signs in, and each of her two tabs makes a request. -/
def opening : List (Event 2) :=
  [.sign_in Auth.Sample.alice Auth.Sample.browser ⟨"first", 1#128⟩ 0,
    .call 0 0 false, .call 1 0 false]

/-- Both tabs are told 401, and the server gets both refreshes. -/
def two_tabs : List (Event 2) :=
  opening ++ [.answer_401 0 0, .answer_401 1 0,
    .serve 0 "first" Auth.Sample.browser ⟨"second", 2#128⟩ 60,
    .serve 1 "first" Auth.Sample.browser ⟨"third", 3#128⟩ 61]

end Sample

end EnvMgr.Auth.Browser
