import TeamsRehook.Abuse
import Mathlib.Data.Fintype.Card
import Mathlib.Logic.Function.Basic

/-!
# Abuse tracking in concurrent sessions

Requests of one client that fail, each in a session and a transaction of its own, and the row of the client's `ip`
bucket they share. A transaction reads what is committed; `SELECT … FOR UPDATE`, `UPDATE` and the insert of a row with
the same key wait for the transaction that holds the row. `check_block` loads the bucket into the session without a
lock. When `record_failure` selects the row again, under the lock, the session gives back the object it has, with the
values it loaded then. A flush writes the columns whose value in the object is not the loaded one.

The code of the steps is that of `Abuse.lean`: `observe` for `check_block`, `newBucket` and `countFailure` for
`record_failure`.
-/

namespace TeamsRehook

/-- An object of a session: the row as it was loaded, and the values the object has now. -/
structure SessionBucket where
  loaded : WebhookAbuseBucket
  current : WebhookAbuseBucket
  deriving DecidableEq, Repr

/-- An object that was just loaded. -/
def SessionBucket.fresh (b : WebhookAbuseBucket) : SessionBucket := ⟨b, b⟩

/-- The row after the flush of an object: `stored` with the columns the session changed. -/
def flushBucket (o : SessionBucket) (stored : WebhookAbuseBucket) : WebhookAbuseBucket :=
  { stored with
    lastClientHost := Table.ormWrite o.loaded.lastClientHost o.current.lastClientHost stored.lastClientHost
    failureCount := Table.ormWrite o.loaded.failureCount o.current.failureCount stored.failureCount
    blockCount := Table.ormWrite o.loaded.blockCount o.current.blockCount stored.blockCount
    windowStartedAt := Table.ormWrite o.loaded.windowStartedAt o.current.windowStartedAt stored.windowStartedAt
    blockedUntil := Table.ormWrite o.loaded.blockedUntil o.current.blockedUntil stored.blockedUntil
    lastReason := Table.ormWrite o.loaded.lastReason o.current.lastReason stored.lastReason
    lastSeenAt := Table.ormWrite o.loaded.lastSeenAt o.current.lastSeenAt stored.lastSeenAt }

/-- Where a request is. -/
inductive AbusePhase where
  /-- `check_block` has not run. -/
  | idle
  /-- `check_block` let the request pass; its session holds the bucket when there was one. The body is being read. -/
  | passed (o : Option SessionBucket)
  /-- `check_block` found the bucket blocked; the touch of the bucket is not committed. -/
  | rejecting (o : SessionBucket)
  /-- The request was answered with 429. -/
  | rejected
  /-- `record_failure` has read the clock and selects the bucket for update. -/
  | recording (now : Int) (o : Option SessionBucket)
  /-- The select found no bucket. -/
  | missing (now : Int)
  /-- The insert of the new bucket is flushed and not committed. -/
  | inserted (now : Int)
  /-- The insert was refused for its key, and the bucket is selected again. -/
  | conflicted (now : Int)
  /-- The select has locked the row. -/
  | locked (now : Int) (o : SessionBucket)
  /-- The failure is counted and committed. -/
  | recorded
  deriving DecidableEq, Repr

/-- The committed row of the bucket, the request whose transaction holds it, and where each request is. -/
structure AbuseSessions (ι : Type) where
  row : Option WebhookAbuseBucket
  lock : Option ι
  now : Int
  phase : ι → AbusePhase

/-- The failures counted in the bucket, if there is one. -/
def storedFailures (row : Option WebhookAbuseBucket) : Int := (row.map (·.failureCount)).getD 0

/-- What can happen. -/
inductive AbuseAct (ι : Type) where
  | tick (now : Int)
  | check (i : ι)
  | read (i : ι)
  | select (i : ι)
  | insert (i : ι)
  | commit (i : ι)
  deriving DecidableEq, Repr

section

variable {ι : Type} [DecidableEq ι]

/-- Move a request to a phase. -/
def AbuseSessions.to (x : AbuseSessions ι) (i : ι) (p : AbusePhase) : AbuseSessions ι :=
  { x with phase := Function.update x.phase i p }

/-- `check_block` of a request, on the bucket of the address. -/
def checkSession (clientHost : String) (x : AbuseSessions ι) : AbusePhase :=
  match x.row with
  | none => .passed none
  | some b =>
    if b.blockedAt x.now then .rejecting ⟨b, observe x.now clientHost b⟩
    else .passed (some ⟨b, observe x.now clientHost b⟩)

/-- One step of one request, or of the clock; `none` when it has to wait, or is not at the point. -/
def abuseSessionStep (P : Platform) (s : Settings) (clientHost : String) (reason : ι → String) (newId : ι → Nat)
    (x : AbuseSessions ι) : AbuseAct ι → Option (AbuseSessions ι)
  | .tick now => if x.now ≤ now then some { x with now := now } else none
  | .check i =>
    match x.phase i with
    | .idle => some (x.to i (checkSession clientHost x))
    | _ => none
  | .read i =>
    match x.phase i with
    | .passed o => some (x.to i (.recording x.now o))
    | _ => none
  | .select i =>
    match x.phase i, x.row with
    | .recording now _, none => some (x.to i (.missing now))
    | .recording now o, some b =>
      -- the session already has an object for the row, or loads one
      if x.lock = none then some { x.to i (.locked now (o.getD (.fresh b))) with lock := some i } else none
    | .conflicted now, some b =>
      if x.lock = none then some { x.to i (.locked now (.fresh b)) with lock := some i } else none
    | _, _ => none
  | .insert i =>
    match x.phase i, x.row with
    | .missing now, some _ => some (x.to i (.conflicted now))
    | .missing now, none =>
      if x.lock = none then some { x.to i (.inserted now) with lock := some i } else none
    | _, _ => none
  | .commit i =>
    match x.phase i, x.row with
    | .rejecting o, some b =>
      if x.lock = none then some { x.to i .rejected with row := some (flushBucket o b) } else none
    | .inserted now, none =>
      some { x.to i .recorded with
        row := some (countFailure s now clientHost (reason i) (newBucket P s now clientHost (.ip, none) (newId i)))
        lock := none }
    | .locked now o, some b =>
      some { x.to i .recorded with
        row := some (flushBucket { o with current := countFailure s now clientHost (reason i) o.current } b)
        lock := none }
    | _, _ => none

/-- No request has begun; `row` is the client's bucket, if it has one. -/
def AbuseSessions.initial (row : Option WebhookAbuseBucket) (now : Int) : AbuseSessions ι :=
  ⟨row, none, now, fun _ => .idle⟩

/-- The requests whose failure is counted and committed. -/
def AbuseSessions.recorded [Fintype ι] (x : AbuseSessions ι) : Finset ι :=
  Finset.univ.filter fun i => x.phase i = .recorded

/-- Every request has committed: its failure, or the touch of a blocked bucket. -/
def AbuseSessions.Finished (x : AbuseSessions ι) : Prop := ∀ i, x.phase i = .recorded ∨ x.phase i = .rejected

/-- The step stays in the window: no expired block is found, and no failure comes more than a window's length after the
start of the window its bucket is in. -/
def InWindow (s : Settings) (x : AbuseSessions ι) : AbuseAct ι → Prop
  | .check _ => ∀ b ∈ x.row, b.blockedUntil = none ∨ b.blockedAt x.now = true
  | .commit i =>
    match x.phase i with
    | .locked now o => now - o.current.windowStartedAt ≤ minutes s.webhookAbuseWindowMinutes
    | _ => True
  | _ => True

/-- The bucket a session loaded in `check_block` has, when `record_failure` locks its row, still the count it was loaded
with. -/
def FreshAtLock (x : AbuseSessions ι) : AbuseAct ι → Prop
  | .select i =>
    match x.phase i with
    | .recording _ (some o) => ∀ b ∈ x.row, o.loaded.failureCount = b.failureCount
    | _ => True
  | _ => True

instance (s : Settings) (x : AbuseSessions ι) : (a : AbuseAct ι) → Decidable (InWindow s x a)
  | .check _ => inferInstanceAs (Decidable (∀ b ∈ x.row, _))
  | .commit i =>
    match h : x.phase i with
    | .locked now o =>
      decidable_of_iff (now - o.current.windowStartedAt ≤ minutes s.webhookAbuseWindowMinutes) (by simp [InWindow, h])
    | .idle | .passed _ | .rejecting _ | .rejected | .recording _ _ | .missing _ | .inserted _
    | .conflicted _ | .recorded =>
      isTrue (by simp [InWindow, h])
  | .tick _ | .read _ | .select _ | .insert _ => isTrue trivial

instance (x : AbuseSessions ι) : (a : AbuseAct ι) → Decidable (FreshAtLock x a)
  | .select i =>
    match h : x.phase i with
    | .recording _ (some o) =>
      decidable_of_iff (∀ b ∈ x.row, o.loaded.failureCount = b.failureCount) (by simp [FreshAtLock, h])
    | .recording _ none | .idle | .passed _ | .rejecting _ | .rejected | .locked _ _ | .missing _ | .inserted _
    | .conflicted _ | .recorded => isTrue (by simp [FreshAtLock, h])
  | .tick _ | .check _ | .read _ | .insert _ | .commit _ => isTrue trivial

end

end TeamsRehook
