import TeamsRehook.Delivery.TeamsBot
import TeamsRehook.Lib.Processes

/-!
# The token managers of a process

`get_token_manager` and `BotTokenManager.get_token` of `services/teams_bot.py`, and their likes for Microsoft Graph of
`services/graph_targets.py`. A process has one manager of each kind, made by the first call that finds none and dropped
when a setting is changed or a refresh job begins. Any number of calls, changes and refreshes run at once
(`Processes.World`): the variable of the module is read and written without a lock, and each manager has a lock that a
call holds while it fetches a token. A manager is known by the call that made it.
-/

namespace TeamsRehook

/-- `fetch_graph_token`. -/
def fetchGraphToken (P : Platform) (s : Settings) (out : UrlOutcome) : Except Exn (String × Int) :=
  if missingAppRegistration s ≠ [] then
    .error (.graphLookup ("Missing Microsoft Graph app-only credentials: " ++
      ", ".intercalate (missingAppRegistration s)))
  else
    match out.json P with
    | .error .urlError | .error .jsonDecodeError => .error (.graphLookup "Failed to fetch Microsoft Graph access token")
    | .error e => .error e
    | .ok body => do
      let accessToken ← getItem "access_token" body
      let expiresIn ← getItem "expires_in" body
      let seconds ← intOf P (orElse expiresIn (.int 3600))
      return (strOf P (orElse accessToken (.str "")), seconds)

/-- What the two kinds of managers differ in: how a token is fetched, and what is raised when there is none in the
response. -/
structure TokenService where
  fetch : Platform → Settings → UrlOutcome → Except Exn (String × Int)
  noToken : Exn

/-- `BotTokenManager`. -/
def botTokens : TokenService where
  fetch := fetchBotframeworkToken
  noToken := .botDelivery "Bot Framework token response did not include an access token"

/-- `GraphTokenManager`. -/
def graphTokens : TokenService where
  fetch := fetchGraphToken
  noToken := .graphLookup "Microsoft Graph token response did not include an access token"

/-- A manager with the settings it was made with and its lock. -/
structure TokenManager extends BotTokenManager where
  settings : Settings := {}
  locked : Bool := false

/-- What the threads of the process share: the clock, the settings in force, and `_token_manager` with every manager
that was made. -/
structure TokenProcess (ι : Type*) where
  now : Int
  settings : Settings
  current : Option ι := none
  managers : ι → TokenManager := fun _ => {}

/-- What a thread does: one call of `get_token_manager().get_token()`, to which the token endpoint answers as it does
for the settings of the manager; a change of a setting, from the assignment of the overrides on; or the reset that a
refresh job begins with. -/
inductive TokenThread where
  | call (endpoint : Settings → UrlOutcome)
  | change (settings : Settings)
  | refresh

/-- Where a thread is. A call has found no manager, made one, can return the one of the process, waits for its lock, or
fetches a token; it ends with the cached token, with the token it fetched, or with an exception. -/
inductive TokenPhase (ι : Type*) where
  | ready
  | absent
  | made
  | present
  | waiting (m : ι)
  | fetching (m : ι)
  | cached (m : ι) (token : String) (at_ : Int)
  | renewed (m : ι) (token : String) (at_ : Int) (expiresIn : Int)
  | raised (e : Exn)
  | loaded
  | ended

variable {ι : Type*} [DecidableEq ι]

/-- A manager is changed. -/
def TokenProcess.setManager (x : TokenProcess ι) (m : ι) (manager : TokenManager) : TokenProcess ι :=
  { x with managers := Function.update x.managers m manager }

/-- `_expires_at`. -/
def expiry (at_ expiresIn : Int) : Int := at_ + max expiresIn 1 * 1000000

/-- The end of `get_token` for a call that has fetched: the lock is released in any case. -/
def storeToken (service : TokenService) (x : TokenProcess ι) (m : ι) (fetched : Except Exn (String × Int)) :
    TokenProcess ι × TokenPhase ι :=
  let manager := { x.managers m with locked := false }
  match fetched with
  | .error e => (x.setManager m manager, .raised e)
  | .ok (token, expiresIn) =>
    if token = "" then (x.setManager m manager, .raised service.noToken)
    else
      match addSeconds x.now (max expiresIn 1) with
      | .error e => (x.setManager m { manager with accessToken := token }, .raised e)
      | .ok expiresAt =>
        (x.setManager m { manager with accessToken := token, expiresAt := some expiresAt },
          .renewed m token x.now expiresIn)

/-- The next step of the call `i`. -/
def tokenCallNext (P : Platform) (service : TokenService) (i : ι) (endpoint : Settings → UrlOutcome)
    (x : TokenProcess ι) : TokenPhase ι → Option (TokenProcess ι × TokenPhase ι)
  | .ready => some (x, if x.current.isNone then .absent else .present)
  | .absent => some (x.setManager i { settings := x.settings }, .made)
  | .made => some ({ x with current := some i }, .present)
  | .present =>
    -- The variable is read again for the result, which is `None` after a reset.
    match x.current with
    | none => some (x, .raised .attributeError)
    | some m => some (x, .waiting m)
  | .waiting m =>
    if (x.managers m).locked then none
    else if (x.managers m).cached x.now then some (x, .cached m (x.managers m).accessToken x.now)
    else some (x.setManager m { x.managers m with locked := true }, .fetching m)
  | .fetching m =>
    some (storeToken service x m (service.fetch P (x.managers m).settings (endpoint (x.managers m).settings)))
  | _ => none

/-- The next step of a change: the settings are in force, then `_on_change` drops the manager. -/
def settingChangeNext (settings : Settings) (x : TokenProcess ι) : TokenPhase ι → Option (TokenProcess ι × TokenPhase ι)
  | .ready => some ({ x with settings := settings }, .loaded)
  | .loaded => some ({ x with current := none }, .ended)
  | _ => none

/-- `reset_bot_token_manager`, `reset_graph_token_manager`. -/
def managerResetNext (x : TokenProcess ι) : TokenPhase ι → Option (TokenProcess ι × TokenPhase ι)
  | .ready => some ({ x with current := none }, .ended)
  | _ => none

/-- The next step of a thread. -/
def tokenNext (P : Platform) (service : TokenService) (threads : ι → TokenThread) (i : ι) (x : TokenProcess ι)
    (phase : TokenPhase ι) : Option (TokenProcess ι × TokenPhase ι) :=
  match threads i with
  | .call endpoint => tokenCallNext P service i endpoint x phase
  | .change settings => settingChangeNext settings x phase
  | .refresh => managerResetNext x phase

/-- Time passes. -/
def tokenClock (x : TokenProcess ι) (d : Nat) : Option (TokenProcess ι) := some { x with now := x.now + d }

/-- One step of the threads and the clock. -/
def tokenStep (P : Platform) (service : TokenService) (threads : ι → TokenThread)
    (w : Processes.World (TokenProcess ι) ι (TokenPhase ι)) (a : Processes.Act ι Nat) :
    Option (Processes.World (TokenProcess ι) ι (TokenPhase ι)) :=
  Processes.World.step (tokenNext P service threads) tokenClock w a

/-- A process that has just started. -/
def initialTokens (now : Int) (settings : Settings) : Processes.World (TokenProcess ι) ι (TokenPhase ι) :=
  ⟨{ now := now, settings := settings }, fun _ => .ready⟩

end TeamsRehook
