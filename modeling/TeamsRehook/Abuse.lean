import TeamsRehook.Models
import TeamsRehook.Lib.Python
import TeamsRehook.Lib.Transition

/-!
# Abuse tracking

`services/webhook_abuse.py`: the failure counters and temporary blocks of noisy webhook clients. A client has one bucket
for its address and one for each route it calls. `checkBlock` is made first for every webhook request, `recordFailure`
or `recordSuccess` last. The event log entries the functions emit are left out: nothing modelled reads them, and
`emit_event` lets no failure out.
-/

namespace TeamsRehook

/-- The rows of `webhook_abuse_buckets` and the counter their ids are drawn from. -/
structure AbuseStore where
  rows : List WebhookAbuseBucket
  nextId : Nat
  deriving DecidableEq, Repr

/-- A store with no bucket. -/
def AbuseStore.empty : AbuseStore := ⟨[], 0⟩

/-- Rewrite the buckets that satisfy `p`. -/
def AbuseStore.update (st : AbuseStore) (p : WebhookAbuseBucket → Bool) (f : WebhookAbuseBucket → WebhookAbuseBucket) :
    AbuseStore :=
  { st with rows := Table.update p f st.rows }

/-! ## Keys -/

/-- `_client_hash`. -/
def clientHash (P : Platform) (s : Settings) (clientHost : String) : String := P.hmacSha256Hex s.sessionSecret clientHost

/-- `_bucket_key`. -/
def bucketKey (P : Platform) (scope : Scope) (clientHash : String) (routeTokenHash : Option String) : String :=
  P.sha256Hex (scope.value ++ ":" ++ clientHash ++ ":" ++ routeTokenHash.getD "")

/-- `_bucket_scopes`: the address, and the address with the route when there is one. -/
def bucketScopes (routeTokenHash : Option String) : List (Scope × Option String) :=
  match routeTokenHash with
  | none => [(.ip, none)]
  | some h => if h = "" then [(.ip, none)] else [(.ip, none), (.ipRoute, some h)]

/-- The key of a client's bucket in a scope. -/
def scopeKey (P : Platform) (s : Settings) (clientHost : String) (scope : Scope × Option String) : String :=
  bucketKey P scope.1 (clientHash P s clientHost) scope.2

/-- The keys of the buckets a request of a client for a route concerns. -/
def bucketKeys (P : Platform) (s : Settings) (clientHost : String) (routeTokenHash : Option String) : List String :=
  (bucketScopes routeTokenHash).map (scopeKey P s clientHost)

/-- `_stored_client_host`. -/
def storedClientHost (clientHost : String) : String := Python.clip (Python.strip clientHost) 255

/-- `_block_duration`: the first block, an hour, then doubled each time, never more than the maximum. -/
def blockDuration (s : Settings) (blockCount : Int) : Int :=
  let m :=
    if blockCount ≤ 1 then s.webhookAbuseInitialBlockMinutes
    else if blockCount = 2 then 60
    else min s.webhookAbuseMaxBlockMinutes (60 * 2 ^ (blockCount - 2).toNat)
  minutes (min m s.webhookAbuseMaxBlockMinutes)

/-! ## `check_block` -/

/-- What `check_block` does to every bucket it loads. -/
def touch (now : Int) (clientHost : String) (b : WebhookAbuseBucket) : WebhookAbuseBucket :=
  { b with lastClientHost := storedClientHost clientHost, lastSeenAt := now }

/-- What `check_block` does to a bucket whose block has expired. -/
def expire (now : Int) (b : WebhookAbuseBucket) : WebhookAbuseBucket :=
  { b with blockedUntil := none, failureCount := 0, windowStartedAt := now, lastSeenAt := now }

/-- Whether a bucket is blocked at a time. -/
def WebhookAbuseBucket.blockedAt (b : WebhookAbuseBucket) (now : Int) : Bool :=
  match b.blockedUntil with
  | none => false
  | some u => decide (now < u)

/-- Both passes of `check_block` over a loaded bucket. -/
def observe (now : Int) (clientHost : String) (b : WebhookAbuseBucket) : WebhookAbuseBucket :=
  if b.blockedUntil.isSome && !b.blockedAt now then expire now (touch now clientHost b) else touch now clientHost b

/-- The choice of `blocked_bucket`: among the blocked buckets, the one blocked longest. -/
def laterBlocked (now : Int) (blocked : Option WebhookAbuseBucket) (b : WebhookAbuseBucket) : Option WebhookAbuseBucket :=
  match b.blockedUntil with
  | none => blocked
  | some u =>
    if now < u then
      match blocked with
      | none => some b
      | some c => if c.blockedUntil.getD now < u then some b else blocked
    else blocked

/-- `check_block`: the store with the loaded buckets touched and their expired blocks cleared, and the bucket that
blocks the request, if one does. -/
def checkBlock (P : Platform) (s : Settings) (now : Int) (clientHost : String) (routeTokenHash : Option String)
    (st : AbuseStore) : AbuseStore × Option WebhookAbuseBucket :=
  if !s.webhookAbuseBlockingEnabled then (st, none)
  else
    let loaded := fun b : WebhookAbuseBucket => decide (b.bucketKey ∈ bucketKeys P s clientHost routeTokenHash)
    (st.update loaded (observe now clientHost),
      ((st.rows.filter loaded).map (touch now clientHost)).foldl (laterBlocked now) none)

/-! ## `record_failure` and `record_success` -/

/-- `_find_bucket`. -/
def findBucket (st : AbuseStore) (key : String) : Option WebhookAbuseBucket := st.rows.find? (·.bucketKey == key)

/-- The bucket `_get_or_create_bucket` creates. -/
def newBucket (P : Platform) (s : Settings) (now : Int) (clientHost : String) (scope : Scope × Option String) (id : Nat) :
    WebhookAbuseBucket where
  id := id
  bucketKey := scopeKey P s clientHost scope
  scope := scope.1
  clientHash := clientHash P s clientHost
  lastClientHost := storedClientHost clientHost
  routeTokenHash := scope.2
  failureCount := 0
  blockCount := 0
  windowStartedAt := now
  blockedUntil := none
  lastReason := ""
  lastSeenAt := now
  createdAt := now

/-- `_get_or_create_bucket`. -/
def getOrCreateBucket (P : Platform) (s : Settings) (now : Int) (clientHost : String) (scope : Scope × Option String)
    (st : AbuseStore) : AbuseStore × WebhookAbuseBucket :=
  match findBucket st (scopeKey P s clientHost scope) with
  | some b => (st, b)
  | none =>
    let b := newBucket P s now clientHost scope st.nextId
    (⟨st.rows ++ [b], st.nextId + 1⟩, b)

/-- The start of a new window once the one the bucket is in has passed. -/
def rollWindow (s : Settings) (now : Int) (b : WebhookAbuseBucket) : WebhookAbuseBucket :=
  if now - b.windowStartedAt > minutes s.webhookAbuseWindowMinutes then
    { b with failureCount := 0, windowStartedAt := now }
  else b

/-- What `record_failure` does to one bucket: roll the window, count the failure, block when the count reaches the
limit. -/
def countFailure (s : Settings) (now : Int) (clientHost reason : String) (b : WebhookAbuseBucket) : WebhookAbuseBucket :=
  let b := rollWindow s now b
  let b := { b with
    failureCount := b.failureCount + 1
    lastReason := Python.clip reason 120
    lastClientHost := storedClientHost clientHost
    lastSeenAt := now }
  if b.failureCount ≥ s.webhookAbuseFailureLimit then
    { b with blockCount := b.blockCount + 1, blockedUntil := some (now + blockDuration s (b.blockCount + 1)) }
  else b

/-- The body of the loop of `record_failure`, for one scope. -/
def recordScopeFailure (P : Platform) (s : Settings) (now : Int) (clientHost reason : String) (st : AbuseStore)
    (scope : Scope × Option String) : AbuseStore × WebhookAbuseBucket :=
  let r := getOrCreateBucket P s now clientHost scope st
  (r.1.update (·.id == r.2.id) (countFailure s now clientHost reason), countFailure s now clientHost reason r.2)

/-- What `record_failure` does when it returns: the store and the buckets counted. (`recordFailureInRange` is the
function with the `OverflowError` of its date arithmetic; a request in which that is raised is rolled back, and ends
`abandoned`.) -/
def recordFailure (P : Platform) (s : Settings) (now : Int) (clientHost : String) (routeTokenHash : Option String)
    (reason : String) (st : AbuseStore) : AbuseStore × List WebhookAbuseBucket :=
  if !s.webhookAbuseBlockingEnabled then (st, [])
  else
    (bucketScopes routeTokenHash).foldl
      (fun acc scope =>
        let r := recordScopeFailure P s now clientHost reason acc.1 scope
        (r.1, acc.2 ++ [r.2]))
      (st, [])

/-- What `record_success` does to the bucket of the route. -/
def clearFailures (now : Int) (clientHost : String) (b : WebhookAbuseBucket) : WebhookAbuseBucket :=
  { b with
    failureCount := 0
    windowStartedAt := now
    blockedUntil := none
    lastClientHost := storedClientHost clientHost
    lastSeenAt := now }

/-- `record_success`. -/
def recordSuccess (P : Platform) (s : Settings) (now : Int) (clientHost : String) (routeTokenHash : Option String)
    (st : AbuseStore) : AbuseStore :=
  match routeTokenHash with
  | none => st
  | some h =>
    if h = "" || !s.webhookAbuseBlockingEnabled then st
    else
      match findBucket st (scopeKey P s clientHost (.ipRoute, some h)) with
      | none => st
      | some b => st.update (·.id == b.id) (clearFailures now clientHost)

/-! ## Administration -/

/-- What `unblock_bucket` does to the bucket. -/
def unblock (now : Int) (b : WebhookAbuseBucket) : WebhookAbuseBucket :=
  { b with failureCount := 0, blockedUntil := none, windowStartedAt := now, lastSeenAt := now }

/-- `unblock_bucket`. -/
def unblockBucket (now : Int) (bucketId : Nat) (st : AbuseStore) : AbuseStore :=
  st.update (·.id == bucketId) (unblock now)

/-- `cleanup_buckets`. -/
def cleanupBuckets (s : Settings) (now : Int) (st : AbuseStore) : AbuseStore :=
  { st with
    rows := Table.delete
      (fun b => decide (b.lastSeenAt < now - days s.webhookAbuseCleanupDays) && b.blockedUntil.isNone) st.rows }

/-! ## Requests one after the other -/

/-- How a request that passed `check_block` ends: with `record_failure` (for the route it asked for, or for no route
when the route is unknown), with `record_success`, or with an exception that rolls its transaction back. -/
inductive Ending where
  | failure (routeKnown : Bool) (reason : String)
  | success
  | abandoned
  deriving DecidableEq, Repr

/-- What abuse tracking sees of a webhook request: who asks for which route, when `check_block` and the recording at its
end read the clock, and how it ends. -/
structure AbuseRequest where
  clientHost : String
  routeTokenHash : Option String
  checkedAt : Int
  endedAt : Int
  ending : Ending
  deriving DecidableEq, Repr

/-- The route a failing request is recorded for. -/
def AbuseRequest.recordedRoute (r : AbuseRequest) (routeKnown : Bool) : Option String :=
  if routeKnown then r.routeTokenHash else none

/-- The buckets a request leaves: a blocked request commits what `check_block` did, a request that passes it goes on to
its ending. -/
def handleAbuse (P : Platform) (s : Settings) (r : AbuseRequest) (st : AbuseStore) : AbuseStore :=
  let checked := checkBlock P s r.checkedAt r.clientHost r.routeTokenHash st
  match checked.2 with
  | some _ => checked.1
  | none =>
    match r.ending with
    | .failure routeKnown reason =>
      (recordFailure P s r.endedAt r.clientHost (r.recordedRoute routeKnown) reason checked.1).1
    | .success => recordSuccess P s r.endedAt r.clientHost r.routeTokenHash checked.1
    | .abandoned => st

/-- The operations on the buckets. -/
inductive AbuseOp where
  | request (r : AbuseRequest)
  | unblock (now : Int) (bucketId : Nat)
  | cleanup (now : Int)
  deriving DecidableEq, Repr

/-- The buckets, and the time of the last operation. -/
structure AbuseState where
  store : AbuseStore
  clock : Int
  deriving DecidableEq, Repr

/-- No bucket yet. -/
def AbuseState.initial (clock : Int) : AbuseState := ⟨.empty, clock⟩

/-- One operation, at a time not before the operation that came before it. -/
def abuseStep (P : Platform) (s : Settings) (x : AbuseState) : AbuseOp → Option AbuseState
  | .request r =>
    if x.clock ≤ r.checkedAt ∧ r.checkedAt ≤ r.endedAt then some ⟨handleAbuse P s r x.store, r.endedAt⟩ else none
  | .unblock now bucketId => if x.clock ≤ now then some ⟨unblockBucket now bucketId x.store, now⟩ else none
  | .cleanup now => if x.clock ≤ now then some ⟨cleanupBuckets s now x.store, now⟩ else none

end TeamsRehook
