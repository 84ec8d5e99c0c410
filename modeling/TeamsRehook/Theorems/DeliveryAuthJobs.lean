import TeamsRehook.DeliveryAuthJobs

/-!
# The refresh jobs of an organization

Any number of requests start refreshes for any organizations, and the threads of their jobs take their steps in any
order. A job does what it would do alone, an organization has one job at work at most, and a job whose thread can be
started comes to an end.
-/

namespace TeamsRehook

open Processes Transition

variable {ι : Type*} [DecidableEq ι]

/-- The event is one of the job. -/
def JobEvent.isOf (jobId : String) (event : JobEvent) : Bool :=
  match Json.lookup "job_id" event.payload with
  | some (.str id) => id == jobId
  | _ => false

/-- What a table holds of one job. -/
def RefreshJobs.ofJob (table : RefreshJobs) (jobId : String) : RefreshJobs :=
  ⟨table.jobs.filter (·.jobId == jobId), table.events.filter (·.isOf jobId)⟩

/-- The request has returned a job that was there. -/
def RefreshPhase.Joined : RefreshPhase → Prop
  | .joined _ => True
  | _ => False

/-- The thread has the job before it, or is at work on it. -/
def RefreshPhase.busy : RefreshPhase → Bool
  | .queued | .announced | .working | .running | .refreshing _ | .recorded _ | .raised _ none _ _ => true
  | _ => false

/-- The thread of a request could not be started. -/
def RefreshPhase.Stranded (request : RefreshRequest) (phase : RefreshPhase) : Prop :=
  phase = .announced ∧ request.startable = false

/-- Something that the job met raised an exception. -/
def RefreshRequest.Raises (request : RefreshRequest) : Prop :=
  (∃ key errorType, (key, Except.error errorType) ∈ request.factories) ∨
    (∃ errorType, request.settled = .error errorType) ∨ (∃ errorType, request.dumped = .error errorType) ∨
    ∃ errorType, request.closed = .error errorType

/-- The events of a job that has got so far, when nothing goes wrong with publishing them. -/
def RefreshJob.eventTypes (job : RefreshJob) : List String :=
  ["queued", "started"] ++ List.replicate job.components.length "component" ++ (if job.readiness.isSome then
    ["complete"] else []) ++
    if job.status = .failed then ["error"] else []

/-- The job of a request, and its events, are in order. -/
structure RefreshLaw (request : RefreshRequest) (job : RefreshJob) (events : List JobEvent) : Prop where
  jobId : job.jobId = request.jobId
  organizationId : job.organizationId = request.organizationId
  components : job.components.map (fun c => (c.1, Except.ok c.2)) <+: request.factories
  queued : job.status = .queued → job.startedAt = none ∧ job.components = [] ∧ job.ok = none
  running : job.status = .running → job.startedAt = some request.startedAt ∧ job.completedAt = none ∧ job.ok = none
  completed : job.status = .completed → job.components.map (fun c => (c.1, Except.ok c.2)) = request.factories ∧
    job.ok = some (allRefreshed job.components) ∧ ∃ readiness, request.settled = .ok readiness ∧
    job.readiness = some readiness
  failed : job.status = .failed → request.Raises ∧ job.ok = some false ∧ job.completedAt = some request.failedAt
  events : (events.map (·.type)).Sublist job.eventTypes

/-- The steps of a job that is alone: the one request there is. -/
def aloneAfter (isoformat : Int → String) (request : RefreshRequest) (n : Nat) :
    Option (World RefreshJobs Unit RefreshPhase) :=
  exec (refreshStep isoformat fun _ : Unit => request) noRefresh (List.replicate n (.next ()))

namespace DeliveryAuthJobsAux

variable {isoformat : Int → String} {requests : ι → RefreshRequest} {w w' : World RefreshJobs ι RefreshPhase}
    {a : Act ι Empty}
  {as : List (Act ι Empty)} {request : RefreshRequest} {table table' : RefreshJobs} {phase phase' : RefreshPhase}

/-! ### What a step does to the table -/

/-- What a step of a job that has begun does to the table: it writes the record of the job, publishes an event of it, or
does nothing. -/
inductive Writes (request : RefreshRequest) : (RefreshJobs → RefreshJobs) → Prop
  | update (updates : RefreshJob → RefreshJob) (hid : ∀ job, (updates job).jobId = job.jobId) :
      Writes request fun table => table.update request.jobId updates
  | publish (type : String) (rest : List (String × Json)) :
      Writes request fun table => table.publish type (("job_id", .str request.jobId) :: rest)
  | same : Writes request fun table => table

/-- A job that has begun does not look at the table. -/
theorem next_of_begun (isoformat : Int → String) (request : RefreshRequest) (hphase : phase ≠ .ready) :
    (∀ table, refreshNext isoformat request table phase = none) ∨
      ∃ write phase', Writes request write ∧ phase' ≠ .ready ∧ ¬phase'.Joined ∧
        ∀ table, refreshNext isoformat request table phase = some (write table, phase') := by
  cases phase with
  | ready => exact absurd rfl hphase
  | joined | ended | failedPublished => exact .inl fun _ => rfl
  | queued | running | failed => exact .inr ⟨_, _, .publish _ _, by simp, id, fun _ => rfl⟩
  | announced =>
    by_cases hstart : request.startable = true
    · exact .inr ⟨_, .working, .same, by simp, id, fun table => by rw [refreshNext, if_pos hstart]⟩
    · exact .inl fun table => by rw [refreshNext, if_neg hstart]
  | working =>
    refine .inr ⟨_, .running, .update (fun job =>
      { job with status := .running, startedAt := some request.startedAt, message := "Refresh is running." }) fun _ =>
      rfl, by simp, id, fun table => rfl⟩
  | raised done readiness reported errorType =>
    refine .inr ⟨_, .failed done readiness reported errorType, .update (fun job =>
      { job with
        status := .failed
        completedAt := some request.failedAt
        ok := some false
        components := done
        message := "Refresh failed unexpectedly." }) fun _ => rfl, by simp, id, fun table => rfl⟩
  | refreshing done =>
    cases hfactory : request.factories[done.length]? with
    | none =>
      cases hsettled : request.settled with
      | error errorType =>
        exact .inr ⟨_, .raised done none false errorType, .same, by simp, id, fun table =>
          by simp only [refreshNext, hfactory, hsettled]⟩
      | ok readiness =>
        refine .inr ⟨_, .completed done readiness, .update (fun job =>
          { job with
            status := .completed
            completedAt := some request.completedAt
            ok := some (allRefreshed done)
            components := done
            readiness := some readiness
            message := "Refresh completed." }) fun _ => rfl, by simp, id, fun table => ?_⟩
        simp only [refreshNext, hfactory, hsettled]
    | some factory =>
      obtain ⟨key, errorType | component⟩ := factory
      · exact .inr ⟨_, .raised done none false errorType, .same, by simp, id, fun table =>
          by simp only [refreshNext, hfactory]⟩
      · refine .inr ⟨_, .recorded (done ++ [(key, component)]),
          .update (fun job => { job with components := done ++ [(key, component)] }) fun _ => rfl,
            by simp, id, fun table => ?_⟩
        simp only [refreshNext, hfactory]
  | recorded done =>
    cases hlast : done.getLast? with
    | none => exact .inl fun table => by simp only [refreshNext, hlast]
    | some c =>
      exact .inr ⟨_, .refreshing done, .publish "component" _, by simp, id, fun table =>
        by simp only [refreshNext, hlast]; rfl⟩
  | completed done readiness =>
    cases hdumped : request.dumped with
    | error errorType =>
      exact .inr ⟨_, .raised done (some readiness) false errorType, .same, by simp, id, fun table =>
        by simp only [refreshNext, hdumped]⟩
    | ok =>
      exact .inr ⟨_, .published done readiness, .publish "complete" _, nofun, nofun,
        fun table => by simp only [refreshNext, hdumped]; rfl⟩
  | published done readiness =>
    cases hclosed : request.closed with
    | error errorType =>
      exact .inr ⟨_, .raised done (some readiness) true errorType, .same, by simp, id, fun table =>
        by simp only [refreshNext, hclosed]⟩
    | ok =>
      exact .inr ⟨_, .ended done readiness, .same, by simp, id, fun table => by simp only [refreshNext, hclosed]⟩

/-- An event belongs to the job that its payload names. -/
theorem isOf_cons (type jobId id : String) (rest : List (String × Json)) :
    JobEvent.isOf id ⟨type, ("job_id", .str jobId) :: rest⟩ = (jobId == id) := by
  simp [JobEvent.isOf, Json.lookup]

/-- Rows that are changed and stay selected can be selected before the change. -/
theorem filter_update_self {ρ : Type*} {q : ρ → Bool} {f : ρ → ρ} {t : List ρ} (h : ∀ r, q (f r) = q r) :
    (Table.update q f t).filter q = Table.update q f (t.filter q) := by
  induction t with
  | nil => rfl
  | cons r t ih =>
    unfold Table.update at ih ⊢
    rw [List.map_cons, List.filter_cons, List.filter_cons, ih]
    cases hr : q r with
    | false => simp [hr]
    | true => simp [h, hr]

/-- What a job writes is written to its own part of the table. -/
theorem ofJob_own {write : RefreshJobs → RefreshJobs} (h : Writes request write) (table : RefreshJobs) :
    (write table).ofJob request.jobId = write (table.ofJob request.jobId) := by
  cases h with
  | update updates hid =>
    simp only [RefreshJobs.ofJob, RefreshJobs.update]
    rw [filter_update_self fun job => by rw [hid]]
  | publish type rest => simp [RefreshJobs.ofJob, RefreshJobs.publish, isOf_cons]
  | same => rfl

/-- It leaves the parts of the other jobs. -/
theorem ofJob_other {write : RefreshJobs → RefreshJobs} (h : Writes request write) (table : RefreshJobs) {jobId : String}
    (hid : request.jobId ≠ jobId) : (write table).ofJob jobId = table.ofJob jobId := by
  cases h with
  | update updates hupdates =>
    simp only [RefreshJobs.ofJob, RefreshJobs.update]
    rw [Table.filter_update]
    intro job hjob
    have hother : (job.jobId == jobId) = false := by
      rw [eq_of_beq hjob]
      exact beq_eq_false_iff_ne.2 hid
    exact ⟨hother, by rw [hupdates]; exact hother⟩
  | publish type rest => simp [RefreshJobs.ofJob, RefreshJobs.publish, isOf_cons, hid]
  | same => rfl

/-! ### A job and the others -/

/-- A step is one of the request or of its thread. -/
theorem step_cases (h : refreshStep isoformat requests w a = some w') :
    ∃ i table phase, a = .next i ∧ refreshNext isoformat (requests i) w.shared (w.phase i) = some (table, phase) ∧
      w' = ⟨table, Function.update w.phase i phase⟩ := by
  rcases World.step_cases h with ⟨i, table, phase, ha, hnext, hw⟩ | ⟨e, -⟩
  · exact ⟨i, table, phase, ha, hnext, hw⟩
  · exact e.elim

/-- A start joins a job of the organization that is active, or puts its own job into the table. -/
theorem next_of_ready (h : refreshNext isoformat request table .ready = some (table', phase')) :
    (∃ job ∈ table.jobs, job.organizationId = request.organizationId ∧ job.status.active = true ∧ table' = table ∧
        phase' = .joined job.jobId) ∨
      (∀ job ∈ table.jobs, job.organizationId = request.organizationId → job.status.active = false) ∧
        table' = table.insert request.newJob ∧ phase' = .queued := by
  simp only [refreshNext] at h
  cases hfound : table.jobs.find? fun job => job.organizationId == request.organizationId && job.status.active with
  | none =>
    rw [hfound] at h
    cases h
    refine .inr ⟨fun job hjob horganization => ?_, rfl, rfl⟩
    simpa [horganization] using List.find?_eq_none.1 hfound job hjob
  | some job =>
    rw [hfound] at h
    cases h
    have hjob := List.find?_some hfound
    simp only [Bool.and_eq_true, beq_iff_eq] at hjob
    exact .inl ⟨job, List.mem_of_find?_eq_some hfound, hjob.1, hjob.2, rfl, rfl⟩

/-- A new job is the only one with its id. -/
theorem ofJob_insert_self (h : (table.ofJob request.jobId).jobs = []) :
    (table.insert request.newJob).ofJob request.jobId = ⟨[request.newJob], (table.ofJob request.jobId).events⟩ := by
  have hnone : (table.jobs.any (·.jobId == request.newJob.jobId)) = false := by
    rw [List.any_eq_false]
    exact fun job hjob => List.filter_eq_nil_iff.1 h job hjob
  unfold RefreshJobs.insert
  rw [if_neg (by rw [hnone]; exact Bool.false_ne_true)]
  simp only [RefreshJobs.ofJob, List.filter_append]
  have hjobs : table.jobs.filter (·.jobId == request.jobId) = [] := h
  rw [hjobs]
  simp [RefreshRequest.newJob]

/-- A new job leaves what the table holds of the others. -/
theorem ofJob_insert_other {jobId : String} (hid : request.jobId ≠ jobId) :
    (table.insert request.newJob).ofJob jobId = table.ofJob jobId := by
  have hother : (request.newJob.jobId == jobId) = false := beq_eq_false_iff_ne.2 hid
  unfold RefreshJobs.insert
  simp only [RefreshJobs.ofJob]
  split
  · rw [Table.filter_update]
    intro job hjob
    rw [eq_of_beq hjob]
    exact ⟨hother, hother⟩
  · rw [List.filter_append, List.filter_singleton, hother]
    simp

/-- One step more of the job that is alone. -/
theorem aloneAfter_succ (isoformat : Int → String) (request : RefreshRequest) (n : Nat) :
    aloneAfter isoformat request (n + 1) =
      (aloneAfter isoformat request n).bind fun v => refreshStep isoformat (fun _ : Unit => request) v (.next ()) := by
  unfold aloneAfter
  rw [List.replicate_succ', exec_append]
  congr
  funext v
  simp only [exec]
  cases refreshStep isoformat (fun _ : Unit => request) v (.next ()) <;> rfl

/-- What is in the table of a request that has taken so many steps: nothing before it has made a job, and then what its
job makes alone. -/
def AsAlone (isoformat : Int → String) (request : RefreshRequest) (n : Nat) (table : RefreshJobs)
    (phase : RefreshPhase) : Prop :=
  (phase = .ready ∧ n = 0 ∨ phase.Joined) ∧ table.ofJob request.jobId = {} ∨
    phase ≠ .ready ∧ ¬phase.Joined ∧
      ∃ v, aloneAfter isoformat request n = some v ∧ v.shared = table.ofJob request.jobId ∧ v.phase () = phase

/-- A step of the request itself is one that it would take alone. -/
theorem asAlone_own {n : Nat} (h : AsAlone isoformat request n table phase)
    (hnext : refreshNext isoformat request table phase = some (table', phase')) :
    AsAlone isoformat request (n + 1) table' phase' := by
  rcases h with ⟨hphase, hempty⟩ | ⟨hbegun, hjoined, v, hv, hshared, hat⟩
  · cases phase with
    | ready =>
      obtain rfl : n = 0 := hphase.elim And.right fun h => h.elim
      rcases next_of_ready hnext with ⟨job, -, -, -, rfl, rfl⟩ | ⟨-, rfl, rfl⟩
      · exact .inl ⟨.inr trivial, hempty⟩
      · refine .inr ⟨by simp, id, ⟨⟨[request.newJob], []⟩, Function.update (fun _ => .ready) () .queued⟩, rfl, ?_, rfl⟩
        rw [ofJob_insert_self (by rw [hempty]), hempty]
    | joined => cases hnext
    | _ => simp [RefreshPhase.Joined] at hphase
  · rcases next_of_begun isoformat request hbegun with hnone | ⟨write, after, hwrites, hnext', hjoined', hsome⟩
    · rw [hnone] at hnext
      cases hnext
    · rw [hsome] at hnext
      cases hnext
      refine .inr ⟨hnext', hjoined', ⟨write v.shared, Function.update v.phase () phase'⟩, ?_, ?_,
        Function.update_self () phase' v.phase⟩
      · rw [aloneAfter_succ, hv]
        simp only [Option.bind_some, refreshStep, World.step, hat, hsome, Option.map_some]
      · rw [ofJob_own hwrites, hshared]

/-- A step of another request leaves what the table holds of the job. -/
theorem asAlone_other {other : RefreshRequest} (hid : other.jobId ≠ request.jobId) {p p' : RefreshPhase} {n : Nat}
    (h : AsAlone isoformat request n table phase) (hnext : refreshNext isoformat other table p = some (table', p')) :
    AsAlone isoformat request n table' phase := by
  have hsame : table'.ofJob request.jobId = table.ofJob request.jobId := by
    by_cases hp : p = .ready
    · subst hp
      rcases next_of_ready hnext with ⟨job, -, -, -, rfl, -⟩ | ⟨-, rfl, -⟩
      · rfl
      · exact ofJob_insert_other hid
    · rcases next_of_begun isoformat other hp with hnone | ⟨write, after, hwrites, -, -, hsome⟩
      · rw [hnone] at hnext
        cases hnext
      · rw [hsome] at hnext
        cases hnext
        exact ofJob_other hwrites table hid
  unfold AsAlone at h ⊢
  rwa [hsame]

/-- As many steps as the request takes in a run are taken alone. -/
theorem asAlone_later (hids : Function.Injective fun i => (requests i).jobId) {i : ι} {n : Nat}
    (h : AsAlone isoformat (requests i) n w.shared (w.phase i))
    (hrun : exec (refreshStep isoformat requests) w as = some w') :
    AsAlone isoformat (requests i) (n + as.count (.next i)) w'.shared (w'.phase i) := by
  induction as generalizing w n with
  | nil =>
    cases hrun
    exact h
  | cons a as ih =>
    obtain ⟨v, hstep, hlater⟩ := exec_cons_eq_some.1 hrun
    obtain ⟨j, table, phase, rfl, hnext, rfl⟩ := step_cases hstep
    rw [List.count_cons]
    by_cases hji : j = i
    · subst hji
      rw [if_pos (beq_self_eq_true _), Nat.add_comm (as.count _), ← Nat.add_assoc]
      refine ih ?_ hlater
      simp only [Function.update_self]
      exact asAlone_own h hnext
    · rw [if_neg (by simpa using hji), Nat.add_zero]
      refine ih ?_ hlater
      simp only [Function.update_of_ne (Ne.symm hji)]
      exact asAlone_other (fun heq => hji (hids heq)) h hnext

/-- After every run, the table holds of a job what its request has made of it alone. -/
theorem asAlone_of_run (hids : Function.Injective fun i => (requests i).jobId)
    (hrun : exec (refreshStep isoformat requests) noRefresh as = some w) (i : ι) :
    AsAlone isoformat (requests i) (as.count (.next i)) w.shared (w.phase i) := by
  have hlater := asAlone_later hids (i := i) (n := 0) (.inl ⟨.inl ⟨rfl, rfl⟩, rfl⟩) hrun
  rwa [Nat.zero_add] at hlater

/-! ### A job that is alone -/

/-- The record of the job while its thread runs. -/
def runningJob (request : RefreshRequest) (done : List (String × RefreshComponent)) : RefreshJob :=
  { request.newJob with
    status := .running
    startedAt := some request.startedAt
    components := done
    message := "Refresh is running." }

/-- The record with its result. -/
def completedJob (request : RefreshRequest) (done : List (String × RefreshComponent)) (readiness : Json) : RefreshJob :=
  { runningJob request done with
    status := .completed
    completedAt := some request.completedAt
    ok := some (allRefreshed done)
    readiness := some readiness
    message := "Refresh completed." }

/-- What is recorded when an exception is raised. -/
def jobRaised (request : RefreshRequest) (done : List (String × RefreshComponent)) : Option Json → RefreshJob
  | none => runningJob request done
  | some readiness => completedJob request done readiness

/-- The record of the job at each place of its thread. -/
def jobAt (request : RefreshRequest) : RefreshPhase → RefreshJob
  | .running => runningJob request []
  | .refreshing done | .recorded done => runningJob request done
  | .completed done readiness | .published done readiness | .ended done readiness => completedJob request done readiness
  | .raised done readiness _ _ => jobRaised request done readiness
  | .failed done readiness _ _ | .failedPublished done readiness _ _ =>
    { jobRaised request done readiness with
      status := .failed
      completedAt := some request.failedAt
      ok := some false
      components := done
      message := "Refresh failed unexpectedly." }
  | _ => request.newJob

/-- The events published until a thread has so many components published. -/
def typesUntil (n : Nat) : List String := ["queued", "started"] ++ List.replicate n "component"

/-- The events published at each place. -/
def typesAt : RefreshPhase → List String
  | .announced | .working | .running => ["queued"]
  | .refreshing done | .completed done _ => typesUntil done.length
  | .recorded done => typesUntil (done.length - 1)
  | .published done _ | .ended done _ => typesUntil done.length ++ ["complete"]
  | .raised done _ reported _ | .failed done _ reported _ =>
    typesUntil done.length ++ if reported then ["complete"] else []
  | .failedPublished done _ reported _ => (typesUntil done.length ++ if reported then ["complete"] else []) ++ ["error"]
  | _ => []

/-- The components that are done are the first ones, with what they ended in. -/
def DoneOk (request : RefreshRequest) (done : List (String × RefreshComponent)) : Prop :=
  done.map (fun c => (c.1, Except.ok c.2)) <+: request.factories

/-- All components are done and the readiness is known. -/
def SettledOk (request : RefreshRequest) (done : List (String × RefreshComponent)) (readiness : Json) : Prop :=
  done.map (fun c => (c.1, Except.ok c.2)) = request.factories ∧ request.settled = .ok readiness

/-- What the thread has met at each place. -/
def MetAt (request : RefreshRequest) : RefreshPhase → Prop
  | .ready | .joined _ => False
  | .refreshing done => DoneOk request done
  | .recorded done => DoneOk request done ∧ done ≠ []
  | .completed done readiness | .published done readiness | .ended done readiness => SettledOk request done readiness
  | .raised done readiness reported _ | .failed done readiness reported _ | .failedPublished done readiness reported _ =>
    request.Raises ∧ DoneOk request done ∧ (reported = true → readiness ≠ none) ∧ ∀ r, readiness = some r →
      SettledOk request done r
  | _ => True

/-- A table that holds the one job, at a place of its thread. -/
structure JobTable (request : RefreshRequest) (table : RefreshJobs) (phase : RefreshPhase) : Prop where
  jobs : table.jobs = [jobAt request phase]
  events : table.events.map (·.type) = typesAt phase
  met : MetAt request phase

/-- The job keeps its id. -/
theorem jobAt_jobId (request : RefreshRequest) (phase : RefreshPhase) : (jobAt request phase).jobId = request.jobId := by
  cases phase with
  | raised done readiness | failed done readiness | failedPublished done readiness => cases readiness <;> rfl
  | _ => rfl

/-- The record of the job is written. -/
theorem jobTable_update (h : JobTable request table phase) {updates : RefreshJob → RefreshJob}
    (hjob : updates (jobAt request phase) = jobAt request phase') (htypes : typesAt phase = typesAt phase')
    (hmet : MetAt request phase') : JobTable request (table.update request.jobId updates) phase' := by
  refine ⟨?_, h.events.trans htypes, hmet⟩
  simp only [RefreshJobs.update, h.jobs, Table.update, List.map_cons, List.map_nil, jobAt_jobId, beq_self_eq_true,
    if_true, hjob]

/-- An event of the job is published. -/
theorem jobTable_publish (h : JobTable request table phase) {type : String} {payload : List (String × Json)}
    (hjob : jobAt request phase = jobAt request phase') (htypes : typesAt phase' = typesAt phase ++ [type])
    (hmet : MetAt request phase') : JobTable request (table.publish type payload) phase' := by
  refine ⟨h.jobs.trans (by rw [hjob]), ?_, hmet⟩
  simp only [RefreshJobs.publish, List.map_append, h.events, htypes, List.map_cons, List.map_nil]

/-- The thread goes on without a write. -/
theorem jobTable_same (h : JobTable request table phase) (hjob : jobAt request phase = jobAt request phase')
    (htypes : typesAt phase = typesAt phase') (hmet : MetAt request phase') : JobTable request table phase' :=
  ⟨h.jobs.trans (by rw [hjob]), h.events.trans htypes, hmet⟩

/-- One component more. -/
theorem doneOk_append {done : List (String × RefreshComponent)} {key : String} {component : RefreshComponent}
    (h : DoneOk request done) (hfactory : request.factories[done.length]? = some (key, .ok component)) :
    DoneOk request (done ++ [(key, component)]) := by
  unfold DoneOk at h ⊢
  obtain ⟨rest, hrest⟩ := h
  rw [← hrest, List.getElem?_append_right (by simp)] at hfactory
  simp only [List.length_map, Nat.sub_self] at hfactory
  obtain ⟨rest', rfl⟩ : ∃ rest', rest = (key, .ok component) :: rest' := by
    cases rest with
    | nil => cases hfactory
    | cons c rest' => exact ⟨rest', by rw [Option.some.inj hfactory]⟩
  rw [← hrest, List.map_append]
  exact ⟨rest', by simp⟩

/-- The thread has all of them when there is none after them. -/
theorem done_of_none {done : List (String × RefreshComponent)} (h : DoneOk request done)
    (hfactory : request.factories[done.length]? = none) :
    done.map (fun c => (c.1, Except.ok c.2)) = request.factories := by
  refine h.eq_of_length ?_
  have hle := h.length_le
  have hlen := List.getElem?_eq_none_iff.1 hfactory
  rw [List.length_map] at hle ⊢
  omega

/-- When all components are done, each of them is. -/
theorem SettledOk.doneOk {done : List (String × RefreshComponent)} {readiness : Json}
    (h : SettledOk request done readiness) : DoneOk request done := by
  unfold DoneOk
  rw [h.1]

/-- A step of the thread. -/
theorem jobTable_next (h : JobTable request table phase)
    (hnext : refreshNext isoformat request table phase = some (table', phase')) : JobTable request table' phase' := by
  have hmet := h.met
  cases phase with
  | ready | joined => exact hmet.elim
  | ended | failedPublished => cases hnext
  | queued =>
    cases hnext
    exact jobTable_publish h rfl rfl trivial
  | announced =>
    simp only [refreshNext] at hnext
    split at hnext
    · cases hnext
      exact jobTable_same h rfl rfl trivial
    · cases hnext
  | working =>
    cases hnext
    exact jobTable_update h rfl rfl trivial
  | running =>
    cases hnext
    exact jobTable_publish h rfl rfl (List.nil_prefix)
  | refreshing done =>
    cases hfactory : request.factories[done.length]? with
    | none =>
      have hdone := done_of_none hmet hfactory
      cases hsettled : request.settled with
      | error errorType =>
        simp only [refreshNext, hfactory, hsettled] at hnext
        cases hnext
        exact jobTable_same h rfl (List.append_nil _).symm ⟨.inr (.inl ⟨_, hsettled⟩), hmet, nofun, nofun⟩
      | ok readiness =>
        simp only [refreshNext, hfactory, hsettled] at hnext
        cases hnext
        exact jobTable_update h rfl rfl ⟨hdone, hsettled⟩
    | some factory =>
      obtain ⟨key, errorType | component⟩ := factory
      · simp only [refreshNext, hfactory] at hnext
        cases hnext
        exact jobTable_same h rfl (List.append_nil _).symm
          ⟨.inl ⟨key, errorType, List.mem_of_getElem? hfactory⟩, hmet, nofun, nofun⟩
      · simp only [refreshNext, hfactory] at hnext
        cases hnext
        refine jobTable_update h rfl ?_ ⟨doneOk_append hmet hfactory, by simp⟩
        simp [typesAt]
  | recorded done =>
    simp only [refreshNext] at hnext
    split at hnext
    · cases hnext
    · cases hnext
      refine jobTable_publish h rfl ?_ hmet.1
      obtain ⟨n, hn⟩ := Nat.exists_eq_succ_of_ne_zero (fun h => hmet.2 (List.length_eq_zero_iff.1 h))
      simp [typesAt, typesUntil, hn, List.replicate_succ']
  | completed done readiness =>
    cases hdumped : request.dumped with
    | error errorType =>
      simp only [refreshNext, hdumped] at hnext
      cases hnext
      refine jobTable_same h rfl (List.append_nil _).symm
        ⟨.inr (.inr (.inl ⟨_, hdumped⟩)), hmet.doneOk, nofun, fun r hr => ?_⟩
      cases hr
      exact hmet
    | ok =>
      simp only [refreshNext, hdumped] at hnext
      cases hnext
      exact jobTable_publish h rfl rfl hmet
  | published done readiness =>
    cases hclosed : request.closed with
    | error errorType =>
      simp only [refreshNext, hclosed] at hnext
      cases hnext
      refine jobTable_same h rfl rfl ⟨.inr (.inr (.inr ⟨_, hclosed⟩)), hmet.doneOk, fun _ => by simp, fun r hr => ?_⟩
      cases hr
      exact hmet
    | ok =>
      simp only [refreshNext, hclosed] at hnext
      cases hnext
      exact jobTable_same h rfl rfl hmet
  | raised done readiness reported errorType =>
    cases hnext
    exact jobTable_update h rfl rfl hmet
  | failed done readiness reported errorType =>
    cases hnext
    exact jobTable_publish h rfl rfl hmet

/-- Alone, a request that has begun has its job in the table as its thread left it. -/
theorem jobTable_alone {n : Nat} {v : World RefreshJobs Unit RefreshPhase} (h : aloneAfter isoformat request n = some v) :
    v.phase () = .ready ∧ v.shared = {} ∨ JobTable request v.shared (v.phase ()) := by
  refine exec_invariant (I := fun v : World RefreshJobs Unit RefreshPhase =>
    v.phase () = .ready ∧ v.shared = {} ∨ JobTable request v.shared (v.phase ())) ?_ (.inl ⟨rfl, rfl⟩) h
  intro v a v' hI hstep
  obtain ⟨i, table, phase, rfl, hnext, rfl⟩ := step_cases hstep
  refine .inr ?_
  simp only [Function.update_self]
  rcases hI with ⟨hready, hempty⟩ | htable
  · rw [hready, hempty] at hnext
    cases hnext
    exact ⟨rfl, rfl, trivial⟩
  · exact jobTable_next htable hnext

/-- A job that is queued is in order. -/
theorem law_newJob {events : List JobEvent} (hevents : (events.map (·.type)).Sublist ["queued"]) :
    RefreshLaw request request.newJob events where
  jobId := rfl
  organizationId := rfl
  components := List.nil_prefix
  queued _ := ⟨rfl, rfl, rfl⟩
  running h := nomatch h
  completed h := nomatch h
  failed h := nomatch h
  events := hevents.trans ((List.prefix_append ["queued"] ["started"]).sublist)

/-- A job that is running is in order. -/
theorem law_runningJob {done : List (String × RefreshComponent)} {events : List JobEvent} (hdone : DoneOk request done)
    (hevents : (events.map (·.type)).Sublist (typesUntil done.length)) :
    RefreshLaw request (runningJob request done) events where
  jobId := rfl
  organizationId := rfl
  components := hdone
  queued h := nomatch h
  running _ := ⟨rfl, rfl, rfl⟩
  completed h := nomatch h
  failed h := nomatch h
  events := by
    have heq : (runningJob request done).eventTypes = typesUntil done.length := by
      simp [RefreshJob.eventTypes, runningJob, RefreshRequest.newJob, typesUntil]
    rwa [heq]

/-- A job that is completed is in order. -/
theorem law_completedJob {done : List (String × RefreshComponent)} {readiness : Json} {events : List JobEvent}
    (hsettled : SettledOk request done readiness)
    (hevents : (events.map (·.type)).Sublist (typesUntil done.length ++ ["complete"])) :
    RefreshLaw request (completedJob request done readiness) events where
  jobId := rfl
  organizationId := rfl
  components := hsettled.doneOk
  queued h := nomatch h
  running h := nomatch h
  completed _ := ⟨hsettled.1, rfl, readiness, hsettled.2, rfl⟩
  failed h := nomatch h
  events := by
    have heq : (completedJob request done readiness).eventTypes = typesUntil done.length ++ ["complete"] := by
      simp [RefreshJob.eventTypes, completedJob, runningJob, RefreshRequest.newJob, typesUntil]
    rwa [heq]

/-- A job whose thread has met an exception is in order until the failure is recorded. -/
theorem law_raised {done : List (String × RefreshComponent)} {readiness : Option Json} {events : List JobEvent}
    (hdone : DoneOk request done) (hsettled : ∀ r, readiness = some r → SettledOk request done r)
    (hevents : (events.map (·.type)).Sublist (typesUntil done.length ++ if readiness.isSome then ["complete"] else [])) :
    RefreshLaw request (jobRaised request done readiness) events := by
  cases readiness with
  | none => exact law_runningJob hdone (by simpa using hevents)
  | some r => exact law_completedJob (hsettled r rfl) hevents

/-- A job that has failed is in order. -/
theorem law_failed {done : List (String × RefreshComponent)} {readiness : Option Json} {events : List JobEvent}
    (reported : Bool) (errorType : String) (hraises : request.Raises) (hdone : DoneOk request done)
    (hevents : (events.map (·.type)).Sublist
      ((typesUntil done.length ++ if readiness.isSome then ["complete"] else []) ++ ["error"])) :
    RefreshLaw request (jobAt request (.failed done readiness reported errorType)) events := by
  have hreadiness : (jobAt request (.failed done readiness reported errorType)).readiness = readiness := by
    cases readiness <;> rfl
  have hstatus : (jobAt request (.failed done readiness reported errorType)).status = .failed := rfl
  refine ⟨jobAt_jobId _ _, by cases readiness <;> rfl, hdone, fun h => ?_, fun h => ?_, fun h => ?_, fun _ =>
    ⟨hraises, rfl, rfl⟩, ?_⟩
  · rw [hstatus] at h
    cases h
  · rw [hstatus] at h
    cases h
  · rw [hstatus] at h
    cases h
  · unfold RefreshJob.eventTypes
    rw [hreadiness, hstatus, if_pos rfl]
    exact hevents

/-- At most what was stored has been reported. -/
theorem reported_sublist {n : Nat} {readiness : Option Json} {reported : Bool} (h : reported = true → readiness ≠ none) :
    (typesUntil n ++ if reported then ["complete"] else []).Sublist (typesUntil n ++ if readiness.isSome then
      ["complete"] else []) := by
  refine List.Sublist.append (List.Sublist.refl _) ?_
  cases reported with
  | false => exact List.nil_sublist _
  | true =>
    cases readiness with
    | none => exact absurd rfl (h rfl)
    | some r => exact List.Sublist.refl _

/-- The record and the events of a job are in order at each place of its thread. -/
theorem law_of_jobTable (h : JobTable request table phase) : RefreshLaw request (jobAt request phase) table.events := by
  have hmet := h.met
  have hevents := h.events
  cases phase with
  | ready | joined => exact hmet.elim
  | queued | announced | working =>
    refine law_newJob ?_
    rw [hevents]
    simp [typesAt]
  | running =>
    refine law_runningJob List.nil_prefix ?_
    rw [hevents]
    exact (List.prefix_append ["queued"] ["started"]).sublist
  | refreshing done => exact law_runningJob hmet (by rw [hevents]; exact List.Sublist.refl _)
  | recorded done =>
    refine law_runningJob hmet.1 ?_
    rw [hevents]
    exact List.Sublist.append (List.Sublist.refl _) (List.replicate_sublist_replicate _ |>.2 (Nat.sub_le _ _))
  | completed done readiness =>
    refine law_completedJob hmet ?_
    rw [hevents]
    exact List.sublist_append_left _ _
  | published done readiness | ended done readiness =>
    exact law_completedJob hmet (by rw [hevents]; exact List.Sublist.refl _)
  | raised done readiness reported errorType =>
    refine law_raised hmet.2.1 hmet.2.2.2 ?_
    rw [hevents]
    exact reported_sublist hmet.2.2.1
  | failed done readiness reported errorType =>
    refine law_failed reported errorType hmet.1 hmet.2.1 ?_
    rw [hevents]
    exact (reported_sublist hmet.2.2.1).trans (List.sublist_append_left _ _)
  | failedPublished done readiness reported errorType =>
    refine law_failed reported errorType hmet.1 hmet.2.1 ?_
    rw [hevents]
    exact List.Sublist.append (reported_sublist hmet.2.2.1) (List.Sublist.refl _)

/-! ### Every job is that of a request -/

/-- Every job in the table is that of a request that has begun and has not joined another one. -/
theorem owned_of_run (hrun : exec (refreshStep isoformat requests) noRefresh as = some w) :
    ∀ job ∈ w.shared.jobs, ∃ i, job.jobId = (requests i).jobId ∧ w.phase i ≠ .ready ∧ ¬(w.phase i).Joined := by
  refine exec_invariant (I := fun w : World RefreshJobs ι RefreshPhase =>
    ∀ job ∈ w.shared.jobs, ∃ i, job.jobId = (requests i).jobId ∧ w.phase i ≠ .ready ∧ ¬(w.phase i).Joined) ?_
    (fun job hjob => absurd hjob List.not_mem_nil) hrun
  intro w a w' hI hstep
  obtain ⟨j, table, phase, rfl, hnext, rfl⟩ := step_cases hstep
  -- What was begun stays begun, so that it is enough to find the job among those before.
  have hkept : ∀ i, w.phase i ≠ .ready ∧ ¬(w.phase i).Joined → Function.update w.phase j phase i ≠ .ready ∧
      ¬(Function.update w.phase j phase i).Joined := by
    intro i hi
    by_cases hij : i = j
    · subst hij
      rw [Function.update_self]
      rcases next_of_begun isoformat (requests i) hi.1 with hnone | ⟨write, after, -, hafter, hjoined, hsome⟩
      · rw [hnone] at hnext
        cases hnext
      · rw [hsome] at hnext
        cases hnext
        exact ⟨hafter, hjoined⟩
    · rwa [Function.update_of_ne hij]
  have hold : ∀ id : String, (∃ job ∈ w.shared.jobs, job.jobId = id) → ∃ i, id = (requests i).jobId ∧
      Function.update w.phase j phase i ≠ .ready ∧ ¬(Function.update w.phase j phase i).Joined := by
    rintro _ ⟨job, hjob, rfl⟩
    obtain ⟨i, hid, hi⟩ := hI job hjob
    exact ⟨i, hid, hkept i hi⟩
  by_cases hready : w.phase j = .ready
  · rw [hready] at hnext
    rcases next_of_ready hnext with ⟨job', -, -, -, rfl, rfl⟩ | ⟨-, rfl, rfl⟩
    · exact fun job hjob => hold _ ⟨job, hjob, rfl⟩
    · intro job hjob
      have hmine : ∃ i, (requests j).newJob.jobId = (requests i).jobId ∧ Function.update w.phase j .queued i ≠ .ready ∧
          ¬(Function.update w.phase j .queued i).Joined :=
        ⟨j, rfl, by rw [Function.update_self]; simp, by rw [Function.update_self]; exact id⟩
      simp only [RefreshJobs.insert] at hjob
      split at hjob
      · obtain ⟨old, hmem, rfl⟩ := Table.mem_update.1 hjob
        split
        · exact hmine
        · exact hold _ ⟨old, hmem, rfl⟩
      · rcases List.mem_append.1 hjob with hjob | hjob
        · exact hold _ ⟨job, hjob, rfl⟩
        · rw [List.mem_singleton.1 hjob]
          exact hmine
  · rcases next_of_begun isoformat (requests j) hready with hnone | ⟨write, after, hwrites, -, -, hsome⟩
    · rw [hnone] at hnext
      cases hnext
    · rw [hsome] at hnext
      cases hnext
      cases hwrites with
      | update updates hid =>
        intro job hjob
        obtain ⟨old, hmem, rfl⟩ := Table.mem_update.1 hjob
        refine hold _ ⟨old, hmem, ?_⟩
        split
        · exact (hid old).symm
        · rfl
      | publish | same => exact fun job hjob => hold _ ⟨job, hjob, rfl⟩

/-- A request that made a job has it in the table, as its thread left it. -/
theorem jobTable_of_run (hids : Function.Injective fun i => (requests i).jobId)
    (hrun : exec (refreshStep isoformat requests) noRefresh as = some w) {i : ι} (hbegun : w.phase i ≠ .ready)
    (hjoined : ¬(w.phase i).Joined) : JobTable (requests i) (w.shared.ofJob (requests i).jobId) (w.phase i) := by
  rcases asAlone_of_run hids hrun i with ⟨⟨hready, -⟩ | hjoin, -⟩ | ⟨-, -, v, hv, hshared, hphase⟩
  · exact absurd hready hbegun
  · exact absurd hjoin hjoined
  · rcases jobTable_alone hv with ⟨hready, -⟩ | htable
    · exact absurd (hphase.symm.trans hready) hbegun
    · rwa [hshared, hphase] at htable

/-- The job of a request is in the table. -/
theorem mem_of_jobTable {jobId : String} (h : JobTable request (table.ofJob jobId) phase) :
    jobAt request phase ∈ table.jobs := by
  have hmem : jobAt request phase ∈ (table.ofJob jobId).jobs := by
    rw [h.jobs]
    exact List.mem_singleton_self _
  exact List.mem_of_mem_filter hmem

/-- Every job in the table is that of a request, as its thread left it. -/
theorem job_of_run (hids : Function.Injective fun i => (requests i).jobId)
    (hrun : exec (refreshStep isoformat requests) noRefresh as = some w) {job : RefreshJob} (hjob : job ∈ w.shared.jobs) :
    ∃ i, job = jobAt (requests i) (w.phase i) ∧
    JobTable (requests i) (w.shared.ofJob (requests i).jobId) (w.phase i) := by
  obtain ⟨i, hid, hbegun, hjoined⟩ := owned_of_run hrun job hjob
  have htable := jobTable_of_run hids hrun hbegun hjoined
  have hmem : job ∈ (w.shared.ofJob (requests i).jobId).jobs := List.mem_filter.2 ⟨hjob, beq_iff_eq.2 hid⟩
  rw [htable.jobs] at hmem
  exact ⟨i, List.mem_singleton.1 hmem, htable⟩

/-! ### One job at a time -/

/-- A job is queued or running as long as its thread is at work. -/
theorem active_jobAt (hmet : MetAt request phase) : (jobAt request phase).status.active = phase.busy := by
  cases phase with
  | ready | joined => exact hmet.elim
  | raised done readiness => cases readiness <;> rfl
  | _ => rfl

/-- The job keeps its organization. -/
theorem organizationId_jobAt (request : RefreshRequest) (phase : RefreshPhase) :
    (jobAt request phase).organizationId = request.organizationId := by
  cases phase with
  | raised done readiness | failed done readiness | failedPublished done readiness => cases readiness <;> rfl
  | _ => rfl

/-- A job that is done with does not become busy again. -/
theorem busy_of_next (hbegun : phase ≠ .ready) (hnext : refreshNext isoformat request table phase = some (table', phase'))
    (hbusy : phase'.busy = true) : phase.busy = true := by
  cases phase with
  | ready => exact absurd rfl hbegun
  | joined | ended | failedPublished => cases hnext
  | queued | announced | working | running | refreshing | recorded => rfl
  | completed done readiness =>
    simp only [refreshNext] at hnext
    split at hnext <;> cases hnext <;> cases hbusy
  | published done readiness =>
    simp only [refreshNext] at hnext
    split at hnext <;> cases hnext <;> cases hbusy
  | raised | failed =>
    cases hnext
    cases hbusy

/-- A thread at work belongs to a request that has begun and has not joined another job. -/
theorem not_ready_of_busy (h : phase.busy = true) : phase ≠ .ready ∧ ¬phase.Joined := by
  cases phase with
  | ready | joined => cases h
  | _ => exact ⟨by simp, id⟩

/-- No two threads of an organization are at work at once. -/
def OneBusy (requests : ι → RefreshRequest) (phase : ι → RefreshPhase) : Prop :=
  ∀ i j, (requests i).organizationId = (requests j).organizationId → (phase i).busy = true → (phase j).busy = true → i = j

/-- A start that makes a job finds no thread of its organization at work. -/
theorem oneBusy_step (hids : Function.Injective fun i => (requests i).jobId)
    (hrun : exec (refreshStep isoformat requests) noRefresh as = some w) (hone : OneBusy requests w.phase)
    (hstep : refreshStep isoformat requests w a = some w') : OneBusy requests w'.phase := by
  obtain ⟨k, table, phase, rfl, hnext, rfl⟩ := step_cases hstep
  -- A thread at work stood before the step where it stands after it, or has just put its job into the table.
  have hbefore : ∀ i, (Function.update w.phase k phase i).busy = true → (w.phase i).busy = true ∨
      i = k ∧ w.phase k = .ready ∧ ∀ j, (requests j).organizationId = (requests k).organizationId →
      (w.phase j).busy = false := by
    intro i hi
    by_cases hik : i = k
    · subst hik
      rw [Function.update_self] at hi
      by_cases hready : w.phase i = .ready
      · rw [hready] at hnext
        rcases next_of_ready hnext with ⟨job, -, -, -, -, rfl⟩ | ⟨hfree, -, -⟩
        · cases hi
        · refine .inr ⟨rfl, hready, fun j horganization => ?_⟩
          by_contra hbusy
          rw [Bool.not_eq_false] at hbusy
          obtain ⟨hbegun, hjoined⟩ := not_ready_of_busy hbusy
          have htable := jobTable_of_run hids hrun hbegun hjoined
          have hactive := hfree _ (mem_of_jobTable htable) ((organizationId_jobAt ..).trans horganization)
          rw [active_jobAt htable.met, hbusy] at hactive
          cases hactive
      · exact .inl (busy_of_next hready hnext hi)
    · rw [Function.update_of_ne hik] at hi
      exact .inl hi
  intro i j horganization hi hj
  rcases hbefore i hi with hi' | ⟨rfl, -, hfree⟩
  · rcases hbefore j hj with hj' | ⟨rfl, -, hfree⟩
    · exact hone i j horganization hi' hj'
    · rw [hfree i horganization] at hi'
      cases hi'
  · rcases hbefore j hj with hj' | ⟨rfl, -⟩
    · rw [hfree j horganization.symm] at hj'
      cases hj'
    · rfl

/-- After every run, at most one thread of an organization is at work. -/
theorem oneBusy_of_run (hids : Function.Injective fun i => (requests i).jobId)
    (hrun : exec (refreshStep isoformat requests) noRefresh as = some w) : OneBusy requests w.phase := by
  induction as using List.reverseRecOn generalizing w with
  | nil =>
    cases hrun
    intro i j _ hi
    cases hi
  | append_singleton as a ih =>
    rw [exec_append] at hrun
    obtain ⟨v, hv, hlast⟩ := Option.bind_eq_some_iff.1 hrun
    obtain ⟨v', hstep, hend⟩ := exec_cons_eq_some.1 hlast
    cases hend
    exact oneBusy_step hids hv (ih hv) hstep

/-- After every run, an organization has at most one job that is queued or running. -/
theorem one_active_of_run (hids : Function.Injective fun i => (requests i).jobId)
    (hrun : exec (refreshStep isoformat requests) noRefresh as = some w) {job job' : RefreshJob}
    (hjob : job ∈ w.shared.jobs) (hjob' : job' ∈ w.shared.jobs)
    (horganization : job.organizationId = job'.organizationId) (hactive : job.status.active = true)
    (hactive' : job'.status.active = true) : job = job' := by
  obtain ⟨i, rfl, hi⟩ := job_of_run hids hrun hjob
  obtain ⟨j, rfl, hj⟩ := job_of_run hids hrun hjob'
  rw [active_jobAt hi.met] at hactive
  rw [active_jobAt hj.met] at hactive'
  rw [organizationId_jobAt, organizationId_jobAt] at horganization
  rw [oneBusy_of_run hids hrun i j horganization hactive hactive']

/-! ### The end of a job -/

/-- How many steps a request and its thread can take at most. -/
def stepsLeft : RefreshPhase → Nat
  | .ready => 18
  | .queued => 17
  | .announced => 16
  | .working => 15
  | .running => 14
  | .refreshing done => 2 * (4 - done.length) + 5
  | .recorded done => 2 * (4 - done.length) + 6
  | .completed _ _ => 4
  | .published _ _ => 3
  | .raised _ _ _ _ => 2
  | .failed _ _ _ _ => 1
  | _ => 0

/-- Every step is one less to take. -/
theorem stepsLeft_next (hnext : refreshNext isoformat request table phase = some (table', phase')) :
    stepsLeft phase' < stepsLeft phase := by
  cases phase with
  | joined | ended | failedPublished => cases hnext
  | ready =>
    rcases next_of_ready hnext with ⟨job, -, -, -, -, rfl⟩ | ⟨-, -, rfl⟩
    · simp [stepsLeft]
    · simp [stepsLeft]
  | queued | working | running | raised | failed =>
    cases hnext
    simp [stepsLeft]
  | announced | recorded | completed | published =>
    simp only [refreshNext] at hnext
    split at hnext <;> cases hnext <;> simp [stepsLeft]
  | refreshing done =>
    simp only [refreshNext] at hnext
    split at hnext
    · cases hnext
      simp [stepsLeft]
    · rename_i key component hfactory
      cases hnext
      have hlength : done.length < 4 := (List.getElem?_eq_some_iff.1 hfactory).1
      simp only [stepsLeft, List.length_append, List.length_singleton]
      omega
    · split at hnext <;> cases hnext <;> simp [stepsLeft]

/-- The steps that a request has taken, and those it has left. -/
theorem count_add_stepsLeft (hrun : exec (refreshStep isoformat requests) w as = some w') (i : ι) :
    as.count (.next i) + stepsLeft (w'.phase i) ≤ stepsLeft (w.phase i) := by
  induction as generalizing w with
  | nil =>
    cases hrun
    simp
  | cons a as ih =>
    obtain ⟨v, hstep, hlater⟩ := exec_cons_eq_some.1 hrun
    have hrest := ih hlater
    obtain ⟨j, table, phase, rfl, hnext, rfl⟩ := step_cases hstep
    rw [List.count_cons]
    by_cases hij : j = i
    · subst hij
      have hless := stepsLeft_next hnext
      simp only [Function.update_self] at hrest
      simp only [beq_self_eq_true, if_true]
      omega
    · simp only [Function.update_of_ne (Ne.symm hij)] at hrest
      rw [if_neg (by simpa using hij)]
      omega

/-- A thread that can take no further step has come to its end, or could not be started. -/
theorem stopped_of_none (hmet : phase.Joined ∨ phase ≠ .ready ∧ MetAt request phase)
    (hnone : refreshNext isoformat request table phase = none) :
    phase.Joined ∨ phase.Stranded request ∨ phase.busy = false := by
  cases phase with
  | ready =>
    simp only [refreshNext] at hnone
    split at hnone <;> cases hnone
  | joined => exact .inl trivial
  | ended | failedPublished | completed | published | failed => exact .inr (.inr rfl)
  | queued | working | running | raised => cases hnone
  | announced =>
    simp only [refreshNext] at hnone
    split at hnone
    · cases hnone
    · rename_i hstart
      exact .inr (.inl ⟨rfl, by simpa using hstart⟩)
  | refreshing done =>
    simp only [refreshNext] at hnone
    split at hnone
    · cases hnone
    · cases hnone
    · split at hnone <;> cases hnone
  | recorded done =>
    simp only [refreshNext] at hnone
    split at hnone
    · rename_i hlast
      rcases hmet with hjoined | ⟨-, -, hne⟩
      · exact hjoined.elim
      · exact absurd (List.getLast?_eq_none_iff.1 hlast) hne
    · cases hnone

/-- Whether a request can take a step depends on nothing but its phase and the table. -/
theorem next_none_iff {i : ι} : refreshStep isoformat requests w (.next i) = none ↔
    refreshNext isoformat (requests i) w.shared (w.phase i) = none := Option.map_eq_none_iff

/-- A request whose thread could not be started is stuck. -/
theorem stranded_step {i : ι} (h : (w.phase i).Stranded (requests i))
    (hstep : refreshStep isoformat requests w a = some w') : (w'.phase i).Stranded (requests i) := by
  obtain ⟨j, table, phase, rfl, hnext, rfl⟩ := step_cases hstep
  by_cases hij : i = j
  · subst hij
    rw [h.1, refreshNext, h.2] at hnext
    cases hnext
  · simp only [Function.update_of_ne hij]
    exact h

end DeliveryAuthJobsAux

open DeliveryAuthJobsAux

/-- A request that made a job has in the table, and among the events, what its job would have made alone in as many
steps as its thread has taken: the other jobs do not change it. -/
theorem refresh_job_as_alone {isoformat : Int → String} {requests : ι → RefreshRequest} {as : List (Act ι Empty)}
    {w : World RefreshJobs ι RefreshPhase} (hids : Function.Injective fun i => (requests i).jobId)
    (hrun : exec (refreshStep isoformat requests) noRefresh as = some w) (i : ι) (hjoined : ¬(w.phase i).Joined) :
    ∃ v, aloneAfter isoformat (requests i) (as.count (.next i)) = some v ∧ v.phase () = w.phase i ∧
      v.shared = w.shared.ofJob (requests i).jobId := by
  rcases asAlone_of_run hids hrun i with ⟨⟨hready, hnone⟩ | hjoin, hempty⟩ | ⟨-, -, v, hv, hshared, hphase⟩
  · exact ⟨noRefresh, by rw [hnone]; rfl, hready.symm, hempty.symm⟩
  · exact absurd hjoin hjoined
  · exact ⟨v, hv, hphase, hshared⟩

/-- A refresh that finds everything in order. -/
def orderlyRefresh (jobId : String) (startable : Bool) : RefreshRequest where
  jobId := jobId
  organizationId := 1
  adminId := 7
  createdAt := 0
  startable := startable
  startedAt := 1
  botDelivery := .ok ⟨.refreshed, "Bot Framework delivery status was refreshed."⟩
  graphLookup := .ok ⟨.refreshed, "Microsoft Graph lookup status was refreshed."⟩
  graphDelivery := .ok ⟨.skipped, "Delegated Graph delivery has no connected service user."⟩
  settled := .ok (.obj [])
  completedAt := 2
  failedAt := 2

/-- Two requests of one organization; the thread of the first job can be started, or not. -/
def twoRefreshes (startable : Bool) : Bool → RefreshRequest
  | false => orderlyRefresh "job-1" startable
  | true => orderlyRefresh "job-2" true

/-- The two requests draw different ids. -/
theorem jobIds_twoRefreshes (startable : Bool) : Function.Injective fun i => (twoRefreshes startable i).jobId := by
  intro i j h
  cases i <;> cases j <;> simp [twoRefreshes, orderlyRefresh] at h ⊢

/-- The first request makes a job, and its thread takes four steps; the second one joins the job in between. -/
def crossingStarts : List (Act Bool Empty) :=
  [.next false, .next false, .next false, .next true, .next false, .next false]

/-- The job of the first request has got as far as it would alone in five steps. -/
theorem refresh_job_as_alone_crossing :
    ∃ w, exec (refreshStep (fun _ => "2026-01-01T08:00:00+00:00") (twoRefreshes true)) noRefresh
      crossingStarts = some w ∧
    ∃ v, aloneAfter (fun _ => "2026-01-01T08:00:00+00:00") (twoRefreshes true false)
      (crossingStarts.count (.next false)) = some v ∧ v.phase () = w.phase false ∧
      v.shared = w.shared.ofJob (twoRefreshes true false).jobId :=
  have hrun : exec (refreshStep (fun _ => "2026-01-01T08:00:00+00:00") (twoRefreshes true)) noRefresh crossingStarts =
    some _ := rfl
  ⟨_, hrun, refresh_job_as_alone (jobIds_twoRefreshes true) hrun false id⟩

/-- Every job in the table is that of a request, its record is what its thread has met so far, and its events come in
their order. -/
theorem refresh_jobs_lawful {isoformat : Int → String} {requests : ι → RefreshRequest} {as : List (Act ι Empty)}
    {w : World RefreshJobs ι RefreshPhase} (hids : Function.Injective fun i => (requests i).jobId)
    (hrun : exec (refreshStep isoformat requests) noRefresh as = some w) :
    ∀ job ∈ w.shared.jobs, ∃ i, RefreshLaw (requests i) job (w.shared.events.filter (·.isOf job.jobId)) := by
  intro job hjob
  obtain ⟨i, rfl, htable⟩ := job_of_run hids hrun hjob
  rw [jobAt_jobId]
  exact ⟨i, law_of_jobTable htable⟩

/-- The one job in the table is in order. -/
theorem refresh_jobs_lawful_crossing :
    ∃ w, exec (refreshStep (fun _ => "2026-01-01T08:00:00+00:00") (twoRefreshes true)) noRefresh
      crossingStarts = some w ∧
    ∀ job ∈ w.shared.jobs, ∃ i, RefreshLaw (twoRefreshes true i) job (w.shared.events.filter (·.isOf job.jobId)) :=
  have hrun : exec (refreshStep (fun _ => "2026-01-01T08:00:00+00:00") (twoRefreshes true)) noRefresh crossingStarts =
    some _ := rfl
  ⟨_, hrun, refresh_jobs_lawful (jobIds_twoRefreshes true) hrun⟩

/-- An organization has at most one job that is queued or running, and one thread at work. -/
theorem one_refresh_per_organization {isoformat : Int → String} {requests : ι → RefreshRequest} {as : List (Act ι Empty)}
    {w : World RefreshJobs ι RefreshPhase} (hids : Function.Injective fun i => (requests i).jobId)
    (hrun : exec (refreshStep isoformat requests) noRefresh as = some w) :
    (∀ job ∈ w.shared.jobs, ∀ job' ∈ w.shared.jobs, job.organizationId = job'.organizationId → job.status.active = true →
        job'.status.active = true → job = job') ∧
      ∀ i j, (requests i).organizationId = (requests j).organizationId → (w.phase i).busy = true →
        (w.phase j).busy = true → i = j := by
  exact ⟨fun job hjob job' hjob' => one_active_of_run hids hrun hjob hjob', oneBusy_of_run hids hrun⟩

/-- The second request has joined the job of the first one. -/
theorem one_refresh_per_organization_crossing :
    ∃ w, exec (refreshStep (fun _ => "2026-01-01T08:00:00+00:00") (twoRefreshes true)) noRefresh crossingStarts = some w ∧
      (∀ job ∈ w.shared.jobs, ∀ job' ∈ w.shared.jobs, job.organizationId = job'.organizationId →
        job.status.active = true → job'.status.active = true → job = job') ∧
      ∀ i j, (twoRefreshes true i).organizationId = (twoRefreshes true j).organizationId → (w.phase i).busy = true →
        (w.phase j).busy = true → i = j :=
  have hrun : exec (refreshStep (fun _ => "2026-01-01T08:00:00+00:00") (twoRefreshes true)) noRefresh crossingStarts =
    some _ := rfl
  ⟨_, hrun, one_refresh_per_organization (jobIds_twoRefreshes true) hrun⟩

/-- A request and its thread take 18 steps at most. When they can take no more, the request has joined another job, or
its job is completed or failed, unless its thread could not be started. -/
theorem refresh_job_ends {isoformat : Int → String} {requests : ι → RefreshRequest} {as : List (Act ι Empty)}
    {w : World RefreshJobs ι RefreshPhase} (hids : Function.Injective fun i => (requests i).jobId)
    (hrun : exec (refreshStep isoformat requests) noRefresh as = some w) (i : ι) :
    as.count (.next i) ≤ 18 ∧
      (refreshStep isoformat requests w (.next i) = none → (w.phase i).Joined ∨ (w.phase i).Stranded (requests i) ∨
        ∃ job ∈ w.shared.jobs, job.jobId = (requests i).jobId ∧ job.status.active = false) := by
  constructor
  · have hcount := count_add_stepsLeft hrun i
    simp only [noRefresh, stepsLeft] at hcount
    omega
  · intro hnone
    rw [next_none_iff] at hnone
    by_cases hjoined : (w.phase i).Joined
    · exact .inl hjoined
    · have hbegun : w.phase i ≠ .ready := by
        intro hready
        rw [hready, refreshNext] at hnone
        split at hnone <;> cases hnone
      have htable := jobTable_of_run hids hrun hbegun hjoined
      rcases stopped_of_none (.inr ⟨hbegun, htable.met⟩) hnone with h | h | h
      · exact .inl h
      · exact .inr (.inl h)
      · exact .inr (.inr ⟨_, mem_of_jobTable htable, jobAt_jobId _ _, (active_jobAt htable.met).trans h⟩)

/-- The first request makes a job, the second one joins it, and the thread takes its 15 steps to the end of the job. -/
def finishedRefresh : List (Act Bool Empty) :=
  [.next false, .next true] ++ List.replicate 15 (.next false)

/-- The first request has come to its end with its job completed. -/
theorem refresh_job_ends_finished :
    ∃ w, exec (refreshStep (fun _ => "2026-01-01T08:00:00+00:00") (twoRefreshes true)) noRefresh finishedRefresh =
      some w ∧ refreshStep (fun _ => "2026-01-01T08:00:00+00:00") (twoRefreshes true) w (.next false) = none ∧
      finishedRefresh.count (.next false) ≤ 18 ∧
      ((w.phase false).Joined ∨ (w.phase false).Stranded (twoRefreshes true false) ∨
        ∃ job ∈ w.shared.jobs, job.jobId = (twoRefreshes true false).jobId ∧ job.status.active = false) :=
  have hrun : exec (refreshStep (fun _ => "2026-01-01T08:00:00+00:00") (twoRefreshes true)) noRefresh finishedRefresh =
    some _ := rfl
  have hnone : refreshStep (fun _ => "2026-01-01T08:00:00+00:00") (twoRefreshes true) _ (.next false) = none := rfl
  have hends := refresh_job_ends (jobIds_twoRefreshes true) hrun false
  ⟨_, hrun, hnone, hends.1, hends.2 hnone⟩

/-- A job whose thread could not be started stays queued in every later state, and every later start of its organization
joins it. -/
theorem stranded_refresh_joined {isoformat : Int → String} {requests : ι → RefreshRequest}
    {before after : List (Act ι Empty)} {w w' : World RefreshJobs ι RefreshPhase}
    (hids : Function.Injective fun i => (requests i).jobId)
    (hbefore : exec (refreshStep isoformat requests) noRefresh before = some w) {i : ι}
    (hstranded : (w.phase i).Stranded (requests i)) (hafter : exec (refreshStep isoformat requests) w after = some w') :
    (∃ job ∈ w'.shared.jobs, job.jobId = (requests i).jobId ∧ job.status = .queued) ∧
      ∀ j w'', (requests j).organizationId = (requests i).organizationId → w'.phase j = .ready →
        refreshStep isoformat requests w' (.next j) = some w'' → w''.phase j = .joined (requests i).jobId := by
  have hrun : exec (refreshStep isoformat requests) noRefresh (before ++ after) = some w' := by
    rw [exec_append, hbefore]
    exact hafter
  have hstranded' : (w'.phase i).Stranded (requests i) :=
    exec_invariant (I := fun v : World RefreshJobs ι RefreshPhase => (v.phase i).Stranded (requests i))
      (fun _ _ _ h hstep => stranded_step h hstep) hstranded hafter
  have hbusy : (w'.phase i).busy = true := by rw [hstranded'.1]; rfl
  obtain ⟨hbegun, hjoined⟩ := not_ready_of_busy hbusy
  have htable := jobTable_of_run hids hrun hbegun hjoined
  have hmem := mem_of_jobTable htable
  refine ⟨⟨_, hmem, jobAt_jobId _ _, by rw [hstranded'.1]; rfl⟩, fun j w'' horganization hready hstart => ?_⟩
  obtain ⟨k, table, phase, hk, hnext, rfl⟩ := step_cases hstart
  cases hk
  rw [hready] at hnext
  simp only [Function.update_self]
  rcases next_of_ready hnext with ⟨job, hjob, hsame, hactive, -, rfl⟩ | ⟨hfree, -, -⟩
  · have heq := one_active_of_run hids hrun hjob hmem
      (by rw [organizationId_jobAt, hsame, horganization]) hactive (by rw [active_jobAt htable.met, hbusy])
    rw [heq, jobAt_jobId]
  · have hactive := hfree _ hmem (by rw [organizationId_jobAt, horganization])
    rw [active_jobAt htable.met, hbusy] at hactive
    cases hactive

/-- Two requests of one organization, where the thread of the first job cannot be started, and a request of another
organization. -/
def strandedRefreshes : Option Bool → RefreshRequest
  | some false => orderlyRefresh "job-1" false
  | some true => orderlyRefresh "job-2" true
  | none => { orderlyRefresh "job-3" true with organizationId := 2 }

/-- The three requests draw different ids. -/
theorem jobIds_strandedRefreshes : Function.Injective fun i => (strandedRefreshes i).jobId := by
  rintro (_ | _ | _) (_ | _ | _) h <;> simp [strandedRefreshes, orderlyRefresh] at h ⊢

/-- The thread of the first job cannot be started; the other organization runs a refresh, and then the second request
joins the job. -/
theorem stranded_refresh_joined_crossing :
    ∃ w w' w'', exec (refreshStep (fun _ => "2026-01-01T08:00:00+00:00") strandedRefreshes) noRefresh
        [.next (some false), .next (some false)] = some w ∧
      exec (refreshStep (fun _ => "2026-01-01T08:00:00+00:00") strandedRefreshes) w (List.replicate 16 (.next none)) =
      some w' ∧ refreshStep (fun _ => "2026-01-01T08:00:00+00:00") strandedRefreshes w' (.next (some true)) = some w'' ∧
      (∃ job ∈ w'.shared.jobs, job.jobId = (strandedRefreshes (some false)).jobId ∧ job.status = .queued) ∧
      w''.phase (some true) = .joined (strandedRefreshes (some false)).jobId :=
  have hbefore : exec (refreshStep (fun _ => "2026-01-01T08:00:00+00:00") strandedRefreshes) noRefresh
    [.next (some false), .next (some false)] = some _ := rfl
  have hstranded : RefreshPhase.Stranded (strandedRefreshes (some false)) _ := ⟨rfl, rfl⟩
  have hafter : exec (refreshStep (fun _ => "2026-01-01T08:00:00+00:00") strandedRefreshes) _
    (List.replicate 16 (.next none)) =
    some _ := rfl
  have hstart : refreshStep (fun _ => "2026-01-01T08:00:00+00:00") strandedRefreshes _ (.next (some true)) = some _ := rfl
  have hstays := stranded_refresh_joined jobIds_strandedRefreshes hbefore hstranded hafter
  ⟨_, _, _, hbefore, hafter, hstart, hstays.1, hstays.2 _ _ rfl rfl hstart⟩

end TeamsRehook
