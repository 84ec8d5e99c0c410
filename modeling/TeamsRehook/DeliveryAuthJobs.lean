import TeamsRehook.Lib.Json
import TeamsRehook.Lib.Processes
import TeamsRehook.Lib.Table

/-!
# The refresh jobs of the delivery authentication

`_start_delivery_auth_refresh_job`, `_run_delivery_auth_refresh_job` and the table of jobs of `routers/admin.py`. A
request to start a refresh joins a job of its organization that is queued or running, or puts a new one into the table
and starts a thread that works on it. The table is read and written under its lock, one access at a time; the jobs of
any number of requests run at once (`Processes.World`). What the refreshed components, the readiness and the database do
is given with the request.
-/

namespace TeamsRehook

/-- `DeliveryAuthRefreshStatus`. -/
inductive RefreshStatus where
  | refreshed | cleared | skipped | failed
  deriving DecidableEq, Repr

/-- The text of the status. -/
def RefreshStatus.value : RefreshStatus → String
  | .refreshed => "refreshed"
  | .cleared => "cleared"
  | .skipped => "skipped"
  | .failed => "failed"

/-- `DeliveryAuthRefreshComponentOut`. -/
structure RefreshComponent where
  status : RefreshStatus
  message : String
  deriving DecidableEq, Repr

/-- `model_dump(mode="json")`. -/
def RefreshComponent.dump (component : RefreshComponent) : Json :=
  .obj [("status", .str component.status.value), ("message", .str component.message)]

/-- The status of a job. -/
inductive JobStatus where
  | queued | running | completed | failed
  deriving DecidableEq, Repr

/-- A start joins a job with this status. -/
def JobStatus.active : JobStatus → Bool
  | .queued | .running => true
  | _ => false

/-- `DeliveryAuthRefreshJobState`; `readiness` is the readiness as JSON. -/
structure RefreshJob where
  jobId : String
  organizationId : Nat
  adminId : Nat
  status : JobStatus
  createdAt : Int
  startedAt : Option Int := none
  completedAt : Option Int := none
  ok : Option Bool := none
  components : List (String × RefreshComponent) := []
  readiness : Option Json := none
  message : String := ""
  deriving Repr

/-- An event published on the topic `delivery_auth`. -/
structure JobEvent where
  type : String
  payload : List (String × Json)
  deriving Repr

/-- A request to start a refresh, with what its job meets: whether its thread can be started, what each component ends
in, a result or the name of an exception, what the readiness, the audit entry and the commit end in, and what writing
the last event and closing the session do. -/
structure RefreshRequest where
  jobId : String
  organizationId : Nat
  adminId : Nat
  createdAt : Int
  startable : Bool := true
  startedAt : Int
  botDelivery : Except String RefreshComponent
  graphLookup : Except String RefreshComponent
  graphDelivery : Except String RefreshComponent
  settled : Except String Json
  completedAt : Int
  dumped : Except String Unit := .ok ()
  closed : Except String Unit := .ok ()
  failedAt : Int

/-- `_refresh_bot_inbound_auth_cache`. -/
def refreshBotInboundAuthCache : RefreshComponent :=
  ⟨.cleared, "Bot Framework inbound authentication signing-key cache was cleared."⟩

/-- The components in the order of the job, with what each ends in. -/
def RefreshRequest.factories (request : RefreshRequest) : List (String × Except String RefreshComponent) :=
  [("bot_delivery", request.botDelivery), ("graph_lookup", request.graphLookup),
    ("graph_delivery", request.graphDelivery), ("bot_inbound_auth", .ok refreshBotInboundAuthCache)]

/-- Where a request and the thread of its job are. -/
inductive RefreshPhase where
  | ready
  /-- The request has returned a job that was there. -/
  | joined (jobId : String)
  /-- The job is in the table. -/
  | queued
  /-- Its first event is published. -/
  | announced
  /-- Its thread has begun. -/
  | working
  /-- Its status is running. -/
  | running
  /-- So many components are done and published. -/
  | refreshing (done : List (String × RefreshComponent))
  /-- The last of them is not published. -/
  | recorded (done : List (String × RefreshComponent))
  /-- Its status is completed. -/
  | completed (done : List (String × RefreshComponent)) (readiness : Json)
  /-- The last event is published. -/
  | published (done : List (String × RefreshComponent)) (readiness : Json)
  | ended (done : List (String × RefreshComponent)) (readiness : Json)
  /-- An exception was raised; `readiness` is what had been stored by then. -/
  | raised (done : List (String × RefreshComponent)) (readiness : Option Json) (reported : Bool) (errorType : String)
  /-- Its status is failed. -/
  | failed (done : List (String × RefreshComponent)) (readiness : Option Json) (reported : Bool) (errorType : String)
  /-- The error is published. -/
  | failedPublished (done : List (String × RefreshComponent)) (readiness : Option Json) (reported : Bool)
      (errorType : String)
  deriving Repr

/-- The table of jobs, in the order they were added, and the events that were published, in the order of the calls. -/
structure RefreshJobs where
  jobs : List RefreshJob := []
  events : List JobEvent := []

/-- `_delivery_auth_jobs[job.job_id] = job`. -/
def RefreshJobs.insert (table : RefreshJobs) (job : RefreshJob) : RefreshJobs :=
  { table with
    jobs := if table.jobs.any (·.jobId == job.jobId) then Table.update (·.jobId == job.jobId) (fun _ => job) table.jobs
      else table.jobs ++ [job] }

/-- `_update_delivery_auth_job` of a job that is in the table. -/
def RefreshJobs.update (table : RefreshJobs) (jobId : String) (updates : RefreshJob → RefreshJob) : RefreshJobs :=
  { table with jobs := Table.update (·.jobId == jobId) updates table.jobs }

/-- `event_bus.publish("delivery_auth", …)`. -/
def RefreshJobs.publish (table : RefreshJobs) (type : String) (payload : List (String × Json)) : RefreshJobs :=
  { table with events := table.events ++ [⟨type, payload⟩] }

/-- The job a request makes. -/
def RefreshRequest.newJob (request : RefreshRequest) : RefreshJob where
  jobId := request.jobId
  organizationId := request.organizationId
  adminId := request.adminId
  status := .queued
  createdAt := request.createdAt
  message := "Refresh queued."

/-- Whether no component failed. -/
def allRefreshed (components : List (String × RefreshComponent)) : Bool := !components.any (·.2.status == .failed)

variable (isoformat : Int → String)

/-- The payload of the event `complete`. -/
def completePayload (request : RefreshRequest) (done : List (String × RefreshComponent)) (readiness : Json) :
    List (String × Json) :=
  [("job_id", .str request.jobId), ("status", .str "completed"), ("ok", .bool (allRefreshed done)),
    ("completed_at", .str (isoformat request.completedAt)), ("readiness", readiness),
    ("components", .obj (done.map fun c => (c.1, c.2.dump)))]

/-- The next step of `_start_delivery_auth_refresh_job` and of `_run_delivery_auth_refresh_job` on the job it made. -/
def refreshNext (request : RefreshRequest) (table : RefreshJobs) : RefreshPhase → Option (RefreshJobs × RefreshPhase)
  | .ready =>
    match table.jobs.find? fun job => job.organizationId == request.organizationId && job.status.active with
    | some job => some (table, .joined job.jobId)
    | none => some (table.insert request.newJob, .queued)
  | .queued =>
    some (table.publish "queued" [("job_id", .str request.jobId), ("status", .str "queued"),
      ("created_at", .str (isoformat request.createdAt))], .announced)
  | .announced => if request.startable then some (table, .working) else none
  | .working =>
    some (table.update request.jobId fun job =>
      { job with status := .running, startedAt := some request.startedAt, message := "Refresh is running." }, .running)
  | .running =>
    some (table.publish "started" [("job_id", .str request.jobId), ("status", .str "running"),
      ("started_at", .str (isoformat request.startedAt))], .refreshing [])
  | .refreshing done =>
    match request.factories[done.length]? with
    | some (_, .error errorType) => some (table, .raised done none false errorType)
    | some (key, .ok component) =>
      some (table.update request.jobId fun job => { job with components := done ++ [(key, component)] },
        .recorded (done ++ [(key, component)]))
    | none =>
      match request.settled with
      | .error errorType => some (table, .raised done none false errorType)
      | .ok readiness =>
        some (table.update request.jobId fun job =>
          { job with
            status := .completed
            completedAt := some request.completedAt
            ok := some (allRefreshed done)
            components := done
            readiness := some readiness
            message := "Refresh completed." }, .completed done readiness)
  | .recorded done =>
    match done.getLast? with
    | none => none
    | some (key, component) =>
      some (table.publish "component" [("job_id", .str request.jobId), ("component", .str key),
        ("status", .str component.status.value), ("message", .str component.message)], .refreshing done)
  | .completed done readiness =>
    match request.dumped with
    | .error errorType => some (table, .raised done (some readiness) false errorType)
    | .ok () =>
      some (table.publish "complete" (completePayload isoformat request done readiness), .published done readiness)
  | .published done readiness =>
    match request.closed with
    | .error errorType => some (table, .raised done (some readiness) true errorType)
    | .ok () => some (table, .ended done readiness)
  | .raised done readiness reported errorType =>
    some (table.update request.jobId fun job =>
      { job with
        status := .failed
        completedAt := some request.failedAt
        ok := some false
        components := done
        message := "Refresh failed unexpectedly." }, .failed done readiness reported errorType)
  | .failed done readiness reported errorType =>
    some (table.publish "error" [("job_id", .str request.jobId), ("status", .str "failed"),
      ("completed_at", .str (isoformat request.failedAt)), ("message", .str "Refresh failed unexpectedly."),
      ("error_type", .str errorType)], .failedPublished done readiness reported errorType)
  | _ => none

variable {ι : Type*} [DecidableEq ι]

/-- One step of the requests and the threads of their jobs. -/
def refreshStep (requests : ι → RefreshRequest) (w : Processes.World RefreshJobs ι RefreshPhase)
    (a : Processes.Act ι Empty) : Option (Processes.World RefreshJobs ι RefreshPhase) :=
  Processes.World.step (fun i => refreshNext isoformat (requests i)) (fun _ e => nomatch e) w a

/-- Before any request. -/
def noRefresh : Processes.World RefreshJobs ι RefreshPhase := ⟨{}, fun _ => .ready⟩

end TeamsRehook
