import TeamsRehook.Database
import TeamsRehook.Lib.Datetime

/-!
# Log retention, and date arithmetic that can overflow

`services/log_retention.py`, and `record_failure` and `list_webhook_abuse_buckets` with their date arithmetic in
Python's ranges. Of the log tables the model has that of the delivery events.
-/

namespace TeamsRehook

/-- A value, or the `OverflowError` of date arithmetic. -/
def inRange {α : Type} : Option α → Except Exn α
  | some a => .ok a
  | none => .error .overflowError

/-- `now - timedelta(…)`. -/
def timeBefore (now duration : Int) : Except Exn Int := inRange ((Datetime.timedelta duration).bind (Datetime.sub now))

/-- `now + timedelta(…)`. -/
def timeAfter (now duration : Int) : Except Exn Int := inRange ((Datetime.timedelta duration).bind (Datetime.add now))

/-! ## `cleanup_log_events` -/

/-- Whether the last cleanup is recent enough to skip this one. -/
def skipsCleanup (s : Settings) (now : Int) (force : Bool) (lastLogCleanupAt : Option Int) : Except Exn Bool :=
  match force, lastLogCleanupAt with
  | false, some last => do
    let nextAllowed ← timeAfter last (minutes (max 1 s.logCleanupIntervalMinutes))
    return decide (now < nextAllowed)
  | _, _ => .ok false

/-- `cleanup_log_events`: the tables, and the time of the last cleanup. -/
def cleanupLogEvents (s : Settings) (now : Int) (force : Bool) (lastLogCleanupAt : Option Int) (db : Database) :
    Except Exn (Database × Option Int) := do
  let cutoff ← timeBefore now (days (max 0 s.logRetentionDays))
  let skipped ← skipsCleanup s now force lastLogCleanupAt
  if skipped then return (db, lastLogCleanupAt)
  else return ({ db with events := Table.delete (fun event => decide (event.createdAt < cutoff)) db.events }, some now)

/-! ## Abuse tracking -/

/-- The end of the block of a bucket that has counted a failure. -/
def blockEnd (s : Settings) (now : Int) (b : WebhookAbuseBucket) : Except Exn Unit :=
  if b.failureCount ≥ s.webhookAbuseFailureLimit then (timeAfter now (blockDuration s b.blockCount)).map fun _ =>
    () else .ok ()

/-- The body of the loop of `record_failure`, for one scope, in Python's ranges. -/
def recordScopeInRange (P : Platform) (s : Settings) (now : Int) (clientHost reason : String)
    (acc : AbuseStore × List WebhookAbuseBucket) (scope : Scope × Option String) :
    Except Exn (AbuseStore × List WebhookAbuseBucket) := do
  let r := recordScopeFailure P s now clientHost reason acc.1 scope
  blockEnd s now r.2
  return (r.1, acc.2 ++ [r.2])

/-- `record_failure`, in Python's ranges: it raises when the length of the window is no `timedelta`, or a block it sets
has none or ends after the last `datetime`. -/
def recordFailureInRange (P : Platform) (s : Settings) (now : Int) (clientHost : String) (routeTokenHash : Option String)
    (reason : String) (st : AbuseStore) : Except Exn (AbuseStore × List WebhookAbuseBucket) :=
  if !s.webhookAbuseBlockingEnabled then .ok (st, [])
  else do
    let _ ← inRange (Datetime.timedelta (minutes s.webhookAbuseWindowMinutes))
    (bucketScopes routeTokenHash).foldlM (recordScopeInRange P s now clientHost reason) (st, [])

/-- `list_webhook_abuse_buckets`. -/
def listWebhookAbuseBuckets (s : Settings) (now : Int) (limit : Nat) (st : AbuseStore) :
    Except Exn (List WebhookAbuseBucket) := do
  let observedCutoff ← timeBefore now (minutes s.webhookAbuseWindowMinutes)
  let rows := st.rows.filter fun b =>
    b.blockedAt now || (decide (0 < b.failureCount) && decide (observedCutoff ≤ b.windowStartedAt))
  return (rows.mergeSort fun a b => decide (b.lastSeenAt ≤ a.lastSeenAt)).take limit

end TeamsRehook
