import TeamsRehook.Webhook.NameConflicts
import TeamsRehook.Lemmas.Targets

namespace TeamsRehook

open Transition

/-! ## Losing requests -/

/-- The first row that the next step of a request flushes. -/
def flushedWrite (P : Platform) (request : RouteRequest) : RoutePhase → Option RouteWrite
  | .checked write => some write
  | .loaded route =>
    match request with
    | .update s run lookupFlushes _ _ payload =>
      match ensureDeliveryBackendFeatureEnabled
          ((payload.deliveryBackend.map (·.value)).getD (routeDeliveryBackend route)) s with
      | .ok () => (flushedByLookup P s lookupFlushes payload route).map (.change run.now route)
      | .error _ => none
    | .create .. | .register .. => none
  | .ready | .ended _ => none

/-- The next step of a request flushes a row whose name another route has. -/
def flushConflicts (P : Platform) (request : RouteRequest) (db : Database) (phase : RoutePhase) : Bool :=
  (flushedWrite P request phase).any fun write => write.conflicts db

/-- The tables in which an edit checks its name: those its lookup has flushed the row to, when it has. -/
def checkTables (P : Platform) (s : Settings) (run : RouteRun) (lookupFlushes : Bool) (payload : WebhookRouteUpdate)
    (route : WebhookRoute) (db : Database) : Option Database :=
  match flushedByLookup P s lookupFlushes payload route with
  | none => some db
  | some flushed =>
    if (RouteWrite.change run.now route flushed).conflicts db then none
    else ((RouteWrite.change run.now route flushed).store db).toOption

/-- The next step of a request comes to the check of its name, and finds that another route has it. -/
def checkFinds (P : Platform) (request : RouteRequest) (db : Database) : RoutePhase → Bool
  | .ready =>
    match request with
    | .create s run organizationId payload =>
      match checkedRoute P s run id (payload.route P run organizationId db.nextId) with
      | .ok row => nameTaken db.routes none ⟨organizationId, row.name, routeDeliveryBackend row⟩
      | .error _ => false
    | .update .. | .register .. => false
  | .loaded route =>
    match request with
    | .update s run lookupFlushes organizationId _ payload =>
      match ensureDeliveryBackendFeatureEnabled
        ((payload.deliveryBackend.map (·.value)).getD (routeDeliveryBackend route)) s,
        checkTables P s run lookupFlushes payload route db,
        checkedRoute P s run (settleMembers route) (payload.apply route) with
      | .ok (), some tables, .ok edited =>
        nameTaken tables.routes (some edited.id) ⟨organizationId, edited.name, routeDeliveryBackend edited⟩
      | _, _, _ => false
    | .create .. | .register .. => false
  | .checked _ | .ended _ => false

/-- The next step of a request loses its name to another route. -/
def Loses (P : Platform) (request : RouteRequest) (db : Database) (phase : RoutePhase) : Prop :=
  flushConflicts P request db phase = true ∨ checkFinds P request db phase = true

/-- The name that a flush writes; none when it writes nothing. -/
def RouteWrite.name (db : Database) : RouteWrite → Option RouteName
  | .insert _ row => some row.routeName
  | .change _ loaded edited =>
    if edited = loaded then none
    else (db.routes.find? (·.id == loaded.id)).map fun stored => (mergedRoute loaded edited stored).routeName

/-- A flush of a loaded row that changes no column of its name. -/
def RouteWrite.keepsName : RouteWrite → Bool
  | .insert .. => false
  | .change _ loaded edited => decide (edited.routeName = loaded.routeName)

/-- A route has the name. -/
def NameHeld (name : RouteName) (db : Database) : Prop := ∃ route ∈ db.routes, route.routeName = name

/-- A request that creates a route. -/
def RouteRequest.creates : RouteRequest → Bool
  | .create .. => true
  | .update .. | .register .. => false

section Runs

variable {ι : Type} [DecidableEq ι]

/-- What the step flushes has the name. -/
def FlushesOnly (P : Platform) (requests : ι → RouteRequest) (name : RouteName) (w : RouteSessions ι) :
    Processes.Act ι Empty → Prop
  | .next i => ∀ write ∈ flushedWrite P (requests i) (w.phase i), ∀ written ∈ write.name w.shared, written = name
  | .env _ => True

/-- A step before the commit of its request changes no route; a step that loses does not commit, and the request of an
administrator ends there with HTTP 409. -/
def LosesCleanly (P : Platform) (requests : ι → RouteRequest) (w : RouteSessions ι) (a : Processes.Act ι Empty) : Prop :=
  ∀ i w₁, a = .next i → routeSessionsStep P requests w a = some w₁ →
    (w₁.phase i ≠ .ended .done → w₁.shared.routes = w.shared.routes) ∧
    (Loses P (requests i) w.shared (w.phase i) → w₁.phase i ≠ .ended .done ∧
      ((requests i).admin = true → ∃ detail, w₁.phase i = .ended (.error (.http 409 detail))))

/-- What holds of a run: no two routes have a name, and a name that a route had at some moment, after which nothing else
was flushed, is the name of exactly one route at the end; the requests that lose do so cleanly, and none has ended in an
`IntegrityError` that nothing answers. -/
structure NameConflictLaw (P : Platform) (requests : ι → RouteRequest) (w : RouteSessions ι)
    (steps : List (Processes.Act ι Empty)) (w' : RouteSessions ι) : Prop where
  unique : Table.UniqueOn (·.routeName) w'.shared.routes
  winner : ∀ name earlier later w₁, steps = earlier ++ later → exec (routeSessionsStep P requests) w earlier = some w₁ →
    NameHeld name w₁.shared → Meets (routeSessionsStep P requests) (FlushesOnly P requests name) w₁ later →
    ∃! route, route ∈ w'.shared.routes ∧ route.routeName = name
  losers : Meets (routeSessionsStep P requests) (LosesCleanly P requests) w steps
  handled : ∀ i, w'.phase i ≠ .ended .integrityError

/-- A request that creates a route is the only one that flushes a row whose name another route has. -/
def FlushAnswered (P : Platform) (requests : ι → RouteRequest) (w : RouteSessions ι) : Processes.Act ι Empty → Prop
  | .next i => flushConflicts P (requests i) w.shared (w.phase i) = true → (requests i).creates = true
  | .env _ => True

instance (P : Platform) (requests : ι → RouteRequest) (w : RouteSessions ι) :
    (a : Processes.Act ι Empty) → Decidable (FlushAnswered P requests w a)
  | .next i =>
    inferInstanceAs (Decidable (flushConflicts P (requests i) w.shared (w.phase i) = true →
      (requests i).creates = true))
  | .env _ => isTrue trivial

end Runs

/-- Routes with one id each, no two of which have a name. -/
structure Database.RouteNames (db : Database) : Prop where
  ids : db.RouteIds
  unique : Table.UniqueOn (·.routeName) db.routes

namespace NameConflictsAux

/-! ## Names of checked rows -/

/-- The name of a route is that of its row: organization, name and backend. -/
theorem routeName_eq {a b : WebhookRoute} (horganization : a.organizationId = b.organizationId) (hname : a.name = b.name)
    (hbackend : a.deliveryBackend = b.deliveryBackend) : a.routeName = b.routeName := by
  unfold WebhookRoute.routeName
  rw [horganization, hname, hbackend]

/-- The check of a name looks for another route that has it. -/
theorem ensureRouteNameAvailable_eq (organizationId : Nat) (name deliveryBackend : String) (routeId : Option Nat)
    (db : Database) :
    ensureRouteNameAvailable organizationId name deliveryBackend routeId db =
      if nameTaken db.routes routeId ⟨organizationId, name, deliveryBackend⟩ = true then
        .error (.http 409 "Webhook route name already exists for this delivery backend")
      else .ok () := by
  have hrow : ∀ route : WebhookRoute, (route.routeName == ⟨organizationId, name, deliveryBackend⟩) =
      (route.organizationId == organizationId && route.name == name && route.deliveryBackend == deliveryBackend) := by
    intro route
    rw [Bool.eq_iff_iff]
    simp only [WebhookRoute.routeName, beq_iff_eq, RouteName.mk.injEq, Bool.and_eq_true, and_assoc]
  unfold ensureRouteNameAvailable nameTaken
  simp only [hrow]

/-- A user that becomes a chat keeps the name of its route. -/
theorem routeName_of_materialize {run : RouteRun} {route row : WebhookRoute}
    (h : materializeGraphUserTarget run route = .ok row) : row.routeName = route.routeName := by
  unfold materializeGraphUserTarget at h
  split at h
  · cases h
    rfl
  · dsimp only at h
    split at h
    · nomatch h
    · split at h
      · nomatch h
      · nomatch h
      · cases h
        rfl

/-- The checks of an endpoint keep the name of the route. -/
theorem routeName_of_checkedRoute {P : Platform} {s : Settings} {run : RouteRun} {settled : WebhookRoute → WebhookRoute}
    (hsettled : ∀ r, (settled r).routeName = r.routeName) {route row : WebhookRoute}
    (h : checkedRoute P s run settled route = .ok row) : row.routeName = route.routeName := by
  obtain ⟨mode, allowlist, chat, -, hchat, hnamed, -⟩ := checkedRoute_eq_ok h
  have hsame : row.routeName = (settled chat).routeName := by
    rcases hnamed with ⟨-, rfl⟩ | rfl
    · obtain ⟨teamName, name, heq⟩ := resolveRouteGraphNames_renamed run.names false (settled chat)
      rw [heq]
      rfl
    · rfl
  rw [hsame, hsettled, routeName_of_materialize hchat]
  rfl

/-- Settling the members keeps the name. -/
theorem routeName_settleMembers (route edited : WebhookRoute) :
    (settleMembers route edited).routeName = edited.routeName := by
  unfold settleMembers
  split
  · rfl
  · rfl

/-- The row that a lookup flushes has the name that was asked for. -/
theorem routeName_of_flushedByLookup {P : Platform} {s : Settings} {lookupFlushes : Bool} {payload : WebhookRouteUpdate}
    {route flushed : WebhookRoute} (h : flushedByLookup P s lookupFlushes payload route = some flushed) :
    flushed.routeName = (payload.apply route).routeName := by
  unfold flushedByLookup at h
  split at h
  next edited _ hedited =>
    obtain ⟨mode, allowlist, -, rfl⟩ := validateClientIpAccess_eq hedited
    split at h
    · cases h
      rfl
    · nomatch h
  · nomatch h

/-! ## Flushes -/

section Flushes

variable {db db' : Database} {now : Int} {loaded edited stored : WebhookRoute} {write : RouteWrite} {name : RouteName}

/-- A flush that changes none of the columns of the name leaves the name as it is stored. -/
theorem routeName_mergedRoute (h : edited.routeName = loaded.routeName) :
    (mergedRoute loaded edited stored).routeName = stored.routeName := by
  obtain ⟨horganization, hname, hbackend⟩ := RouteName.mk.inj h
  refine routeName_eq ?_ ?_ ?_
  · simp only [mergedRoute, horganization, Table.ormWrite_unchanged]
  · simp only [mergedRoute, hname, Table.ormWrite_unchanged]
  · simp only [mergedRoute, hbackend, Table.ormWrite_unchanged]

/-- What it is for a name to be free: a route that has it is the one with the id. -/
theorem nameTaken_eq_false {routes : List WebhookRoute} {routeId : Option Nat} :
    nameTaken routes routeId name = false ↔ ∀ route ∈ routes, route.routeName = name → routeId = some route.id := by
  unfold nameTaken
  simp only [List.any_eq_false, Bool.and_eq_true, beq_iff_eq, bne_iff_ne, not_and, not_not]

/-- The stored row of a loaded one. -/
theorem mem_of_find? (h : db.routes.find? (·.id == loaded.id) = some stored) :
    stored ∈ db.routes ∧ stored.id = loaded.id :=
  ⟨List.mem_of_find?_eq_some h, by simpa using List.find?_some h⟩

/-- A flush that changes none of the columns of the name meets no other route. -/
theorem conflicts_of_same (hunique : Table.UniqueOn (·.routeName) db.routes) (h : edited.routeName = loaded.routeName) :
    (RouteWrite.change now loaded edited).conflicts db = false := by
  simp only [RouteWrite.conflicts]
  split
  · rfl
  · split
    next stored hstored =>
      rw [routeName_mergedRoute h, nameTaken_eq_false]
      intro route hroute hname
      rw [hunique.eq_of_mem hroute (mem_of_find? hstored).1 hname]
    · rfl

/-- What a flush of a loaded row does: nothing, or it rewrites the stored row. -/
theorem store_change_cases (h : (RouteWrite.change now loaded edited).store db = .ok db') :
    edited = loaded ∧ db' = db ∨
      edited ≠ loaded ∧ ∃ stored, db.routes.find? (·.id == loaded.id) = some stored ∧
        db' = { db with
          routes := Table.update (·.id == stored.id) (fun _ =>
              { mergedRoute loaded edited stored with updatedAt := now }) db.routes } := by
  simp only [RouteWrite.store] at h
  split at h
  next hsame => exact .inl ⟨hsame, (Except.ok.inj h).symm⟩
  next hother =>
    split at h
    next stored hstored => exact .inr ⟨hother, stored, hstored, (Except.ok.inj h).symm⟩
    · nomatch h

/-- A flush that the unique constraint lets pass keeps the ids and the names unique. -/
theorem routeNames_store (hnames : db.RouteNames) (hfree : write.conflicts db = false) (h : write.store db = .ok db') :
    db'.RouteNames := by
  cases write with
  | insert now row =>
    cases h
    refine ⟨⟨Table.uniqueOn_append hnames.ids.unique fun route hroute => ?_, ?_⟩, Table.uniqueOn_append hnames.unique ?_⟩
    · exact (hnames.ids.fresh route hroute).ne
    · intro route hroute
      rcases List.mem_append.1 hroute with hroute | hroute
      · exact Nat.lt_succ_of_lt (hnames.ids.fresh route hroute)
      · rw [List.mem_singleton.1 hroute]
        exact Nat.lt_succ_self _
    · intro route hroute hname
      nomatch nameTaken_eq_false.1 hfree route hroute hname
  | change now loaded edited =>
    rcases store_change_cases h with ⟨-, rfl⟩ | ⟨hother, stored, hstored, rfl⟩
    · exact hnames
    · have hids : ∀ r ∈ db.routes, (r.id == stored.id) = true → stored.id = r.id := fun r _ hid => (beq_iff_eq.1 hid).symm
      refine ⟨⟨Table.uniqueOn_update_of_mem hnames.ids.unique hids, ?_⟩, ?_⟩
      · exact Table.forall_mem_update hnames.ids.fresh fun _ _ _ => hnames.ids.fresh stored (mem_of_find? hstored).1
      · simp only [RouteWrite.conflicts, if_neg hother, hstored] at hfree
        refine Table.uniqueOn_update_one hnames.ids.unique hnames.unique fun route hroute hid hname => ?_
        exact hid (Option.some.inj (nameTaken_eq_false.1 hfree route hroute hname)).symm

/-- A flush of a row with a name leaves the routes that have it, and so does one that changes no name. -/
theorem nameHeld_store (hnames : db.RouteNames) (hname : ∀ written ∈ write.name db, written = name ∨
    write.keepsName = true)
    (h : write.store db = .ok db') (hheld : NameHeld name db) : NameHeld name db' := by
  obtain ⟨route, hroute, hheld⟩ := hheld
  cases write with
  | insert now row =>
    cases h
    exact ⟨route, List.mem_append_left _ hroute, hheld⟩
  | change now loaded edited =>
    rcases store_change_cases h with ⟨-, rfl⟩ | ⟨hother, stored, hstored, rfl⟩
    · exact ⟨route, hroute, hheld⟩
    · cases hid : route.id == stored.id with
      | false => exact ⟨route, Table.mem_update_of_not hroute hid, hheld⟩
      | true =>
        refine ⟨_, Table.mem_update_of_pos hroute hid, ?_⟩
        obtain rfl := hnames.ids.unique.eq_of_mem hroute (mem_of_find? hstored).1 (beq_iff_eq.1 hid)
        have hwritten := hname (mergedRoute loaded edited route).routeName (by
          simp only [RouteWrite.name, if_neg hother, hstored, Option.map_some, Option.mem_def])
        rcases hwritten with hwritten | hkeeps
        · exact hwritten
        · exact (routeName_mergedRoute (of_decide_eq_true hkeeps)).trans hheld

end Flushes

/-! ## One step of a request -/

/-- What the next step of a request does to the tables, and where it leaves the request. -/
inductive SessionStep (P : Platform) (request : RouteRequest) (db : Database) (phase : RoutePhase) :
    Database → RoutePhase → Prop
  | unwritten (p : RoutePhase) (hp : p ≠ .ended .integrityError) : SessionStep P request db phase db p
  | refused (write : RouteWrite) (hwrite : flushedWrite P request phase = some write)
      (hconflict : write.conflicts db = true) :
    SessionStep P request db phase db (.ended request.conflictEnd)
  | written (write : RouteWrite) (db' : Database) (hwrite : flushedWrite P request phase = some write)
      (hfree : write.conflicts db = false) (hstore : write.store db = .ok db') :
    SessionStep P request db phase db' (.ended .done)
  | writtenTwice (write : RouteWrite) (db₁ : Database) (now : Int) (flushed edited : WebhookRoute) (db₂ : Database)
      (hwrite : flushedWrite P request phase = some write) (hfree : write.conflicts db = false)
      (hstore : write.store db = .ok db₁) (hsame : edited.routeName = flushed.routeName)
      (hstore₂ : (RouteWrite.change now flushed edited).store db₁ = .ok db₂) :
    SessionStep P request db phase db₂ (.ended .done)
  | refusedTwice (write : RouteWrite) (db₁ : Database) (now : Int) (flushed edited : WebhookRoute)
      (hfree : write.conflicts db = false) (hstore : write.store db = .ok db₁)
      (hsame : edited.routeName = flushed.routeName)
      (hconflict : (RouteWrite.change now flushed edited).conflicts db₁ = true) :
    SessionStep P request db phase db (.ended .integrityError)

section Steps

variable {P : Platform} {s : Settings} {run : RouteRun} {lookupFlushes : Bool} {organizationId : Nat}
    {payload : WebhookRouteUpdate}
  {route flushed edited : WebhookRoute} {db : Database}

/-- The checks of an edit keep the name that was asked for. -/
theorem routeName_of_checkedUpdate (h : checkedUpdate P s run organizationId payload route db = .ok edited) :
    edited.routeName = (payload.apply route).routeName := by
  obtain ⟨row, hrow, h⟩ := Except.bind_eq_ok_iff.1 h
  obtain ⟨_, -, h⟩ := Except.bind_eq_ok_iff.1 h
  cases h
  exact routeName_of_checkedRoute (routeName_settleMembers route) hrow

/-- An edit whose lookup has flushed the row. -/
theorem sessionStep_finishFlushedUpdate {request : RouteRequest} {phase : RoutePhase}
    (hend : request.conflictEnd = .integrityError)
    (hwrite : flushedWrite P request phase = some (.change run.now route flushed))
    (hname : flushed.routeName = (payload.apply route).routeName) :
    SessionStep P request db phase (finishFlushedUpdate P s run organizationId payload route flushed db).1
      (.ended (finishFlushedUpdate P s run organizationId payload route flushed db).2) := by
  have hunwritten : ∀ e, RoutePhase.ended (.error e) ≠ .ended .integrityError := fun e => nofun
  unfold finishFlushedUpdate
  split
  next hconflict => exact hend ▸ .refused _ hwrite hconflict
  next hfree =>
    have hfree := Bool.eq_false_of_not_eq_true hfree
    split
    next e _ => exact .unwritten _ (hunwritten e)
    next db₁ hstore =>
      split
      next e _ => exact .unwritten _ (hunwritten e)
      next edited hedited =>
        have hsame := (routeName_of_checkedUpdate hedited).trans hname.symm
        split
        next hconflict => exact .refusedTwice _ db₁ _ _ _ hfree hstore hsame hconflict
        next =>
          split
          next db₂ hstore₂ => exact .writtenTwice _ db₁ _ _ _ db₂ hwrite hfree hstore hsame hstore₂
          next e _ => exact .unwritten _ (hunwritten e)

/-- The last flush of a request. -/
theorem sessionStep_flushRoute {request : RouteRequest} {write : RouteWrite} :
    SessionStep P request db (.checked write) (flushRoute request write db).1
      (.ended (flushRoute request write db).2) := by
  unfold flushRoute
  split
  next hconflict => exact .refused write rfl hconflict
  next hfree =>
    split
    next db' hstore => exact .written write db' rfl (Bool.eq_false_of_not_eq_true hfree) hstore
    next e _ => exact .unwritten _ nofun

/-- The first step of a request writes nothing. -/
theorem beginRequest_ne (request : RouteRequest) : beginRequest P db request ≠ .ended .integrityError := by
  intro h
  cases request with
  | create s run organizationId payload =>
    simp only [beginRequest] at h
    split at h
    · nomatch h
    · nomatch h
  | update s run lookupFlushes organizationId routeId payload =>
    simp only [beginRequest] at h
    split at h
    · nomatch h
    · nomatch h
  | register run captured reference organizationId name =>
    simp only [beginRequest, registerLoadedRoute] at h
    split at h
    · nomatch h
    · split at h
      · nomatch h
      · split at h
        · nomatch h
        · split at h
          · nomatch h
          · nomatch h

/-- The step of a request is one of those. -/
theorem sessionStep_of_step {ι : Type} {requests : ι → RouteRequest} {i : ι} {db db' : Database} {phase p : RoutePhase}
    (h : routeSessionStep P requests i db phase = some (db', p)) : SessionStep P (requests i) db phase db' p := by
  cases phase with
  | ready =>
    cases h
    exact .unwritten _ (beginRequest_ne _)
  | loaded route =>
    simp only [routeSessionStep] at h
    split at h
    next s run lookupFlushes organizationId routeId payload hrequest =>
      have hwrite : ∀ flushed, ensureDeliveryBackendFeatureEnabled
            ((payload.deliveryBackend.map (·.value)).getD (routeDeliveryBackend route)) s = .ok () →
          flushedByLookup P s lookupFlushes payload route = some flushed →
          flushedWrite P (requests i) (.loaded route) = some (.change run.now route flushed) := by
        intro flushed hfeature hflushed
        simp only [flushedWrite, hrequest, hfeature, hflushed, Option.map_some]
      unfold updateLoadedRoute at h
      split at h
      next e _ =>
        cases h
        exact .unwritten _ fun h => by cases h
      next hfeature =>
        split at h
        next flushed hflushed =>
          cases h
          refine sessionStep_finishFlushedUpdate ?_ (hwrite flushed hfeature hflushed)
            (routeName_of_flushedByLookup hflushed)
          rw [hrequest]
          rfl
        next =>
          split at h
          · cases h
            exact .unwritten _ fun h => by cases h
          · cases h
            exact .unwritten _ fun h => by cases h
    · cases h
    · cases h
  | checked write =>
    cases h
    exact sessionStep_flushRoute
  | ended result => cases h

/-- Only a request that creates a route answers an `IntegrityError` of its flush, and it does with HTTP 409. -/
theorem conflictEnd_eq (request : RouteRequest) :
    request.conflictEnd =
      if request.creates = true then .error (.http 409 "Webhook route name already exists") else .integrityError := by
  cases request with
  | create s run organizationId payload => rfl
  | update s run lookupFlushes organizationId routeId payload => rfl
  | register run captured reference organizationId name => rfl

/-- A flush of a name that another route has ends the request, and changes nothing. -/
theorem step_of_flushConflicts {ι : Type} {requests : ι → RouteRequest} {i : ι} {db db' : Database} {phase p : RoutePhase}
    (hconflict : flushConflicts P (requests i) db phase = true)
    (h : routeSessionStep P requests i db phase = some (db', p)) :
    db' = db ∧ p = .ended (requests i).conflictEnd := by
  obtain ⟨write, hwrite, hconflict⟩ := (Option.any_eq_true _ _).1 hconflict
  cases phase with
  | ready => nomatch hwrite
  | loaded route =>
    simp only [flushedWrite] at hwrite
    split at hwrite
    next s run lookupFlushes organizationId routeId payload hrequest =>
      split at hwrite
      next hfeature =>
        obtain ⟨flushed, hflushed, rfl⟩ := Option.map_eq_some_iff.1 hwrite
        simp only [routeSessionStep, hrequest, updateLoadedRoute, hfeature, hflushed, finishFlushedUpdate,
          if_pos hconflict] at h
        cases h
        rw [hrequest]
        exact ⟨rfl, rfl⟩
      · nomatch hwrite
    · nomatch hwrite
    · nomatch hwrite
  | checked written =>
    obtain rfl := Option.some.inj hwrite
    simp only [routeSessionStep, flushRoute, if_pos hconflict] at h
    cases h
    exact ⟨rfl, rfl⟩
  | ended result => nomatch hwrite

/-- A check that finds the name of an edit with another route is answered with HTTP 409. -/
theorem checkedUpdate_of_taken (hedited : checkedRoute P s run (settleMembers route) (payload.apply route) = .ok edited)
    (htaken : nameTaken db.routes (some edited.id) ⟨organizationId, edited.name, routeDeliveryBackend edited⟩ = true) :
    checkedUpdate P s run organizationId payload route db =
      .error (.http 409 "Webhook route name already exists for this delivery backend") := by
  unfold checkedUpdate
  simp only [hedited, bind, Except.bind, ensureRouteNameAvailable_eq, if_pos htaken]

/-- A request whose check finds the name with another route ends with HTTP 409, and changes nothing. -/
theorem step_of_checkFinds {ι : Type} {requests : ι → RouteRequest} {i : ι} {db db' : Database} {phase p : RoutePhase}
    (hfinds : checkFinds P (requests i) db phase = true) (h : routeSessionStep P requests i db phase = some (db', p)) :
    db' = db ∧ p = .ended (.error (.http 409 "Webhook route name already exists for this delivery backend")) := by
  cases phase with
  | ready =>
    simp only [checkFinds] at hfinds
    split at hfinds
    next s run organizationId payload hrequest =>
      split at hfinds
      next row hrow =>
        have hchecked : checkedCreate P s run organizationId payload db =
            .error (.http 409 "Webhook route name already exists for this delivery backend") := by
          unfold checkedCreate
          simp only [hrow, bind, Except.bind, ensureRouteNameAvailable_eq, if_pos hfinds]
        simp only [routeSessionStep, hrequest, beginRequest, hchecked] at h
        cases h
        exact ⟨rfl, rfl⟩
      · cases hfinds
    · cases hfinds
    · cases hfinds
  | loaded route =>
    simp only [checkFinds] at hfinds
    split at hfinds
    next s run lookupFlushes organizationId routeId payload hrequest =>
      split at hfinds
      next tables edited hfeature htables hedited =>
        simp only [routeSessionStep, hrequest, updateLoadedRoute, hfeature] at h
        unfold checkTables at htables
        split at htables
        next hflushed =>
          obtain rfl := Option.some.inj htables
          simp only [hflushed, checkedUpdate_of_taken hedited hfinds] at h
          cases h
          exact ⟨rfl, rfl⟩
        next flushed hflushed =>
          split at htables
          · cases htables
          next hfree =>
            have hstore := Except.toOption_eq_some_iff.1 htables
            simp only [hflushed, finishFlushedUpdate, if_neg hfree, hstore, checkedUpdate_of_taken hedited hfinds] at h
            cases h
            exact ⟨rfl, rfl⟩
      · cases hfinds
    · cases hfinds
    · cases hfinds
  | checked write => cases hfinds
  | ended result => cases hfinds

end Steps

/-! ## Steps and runs -/

section Runs

variable {P : Platform} {request : RouteRequest} {db db' : Database} {phase p : RoutePhase} {name : RouteName}

/-- Every step keeps the ids and the names unique. -/
theorem SessionStep.routeNames (h : SessionStep P request db phase db' p) (hnames : db.RouteNames) : db'.RouteNames := by
  cases h with
  | unwritten | refused | refusedTwice => exact hnames
  | written write db' hwrite hfree hstore => exact routeNames_store hnames hfree hstore
  | writtenTwice write db₁ now flushed edited db₂ hwrite hfree hstore hsame hstore₂ =>
    have hnames₁ := routeNames_store hnames hfree hstore
    exact routeNames_store hnames₁ (conflicts_of_same hnames₁.unique hsame) hstore₂

/-- Before the commit of its request a step changes nothing. -/
theorem SessionStep.unchanged (h : SessionStep P request db phase db' p) (hp : p ≠ .ended .done) : db' = db := by
  cases h with
  | unwritten | refused | refusedTwice => rfl
  | written | writtenTwice => exact absurd rfl hp

/-- A request ends in an `IntegrityError` when it flushes a name that another route has, and does not create a route. -/
theorem SessionStep.flushConflicts (h : SessionStep P request db phase db' (.ended .integrityError))
    (hnames : db.RouteNames) : flushConflicts P request db phase = true ∧ request.creates = false := by
  generalize hp : RoutePhase.ended .integrityError = p at h
  cases h with
  | unwritten p hne => exact absurd hp.symm hne
  | refused write hwrite hconflict =>
    refine ⟨?_, ?_⟩
    · unfold TeamsRehook.flushConflicts
      rw [hwrite]
      exact hconflict
    · cases hcreates : request.creates with
      | false => rfl
      | true =>
        rw [conflictEnd_eq, if_pos hcreates] at hp
        nomatch hp
  | written | writtenTwice => nomatch hp
  | refusedTwice write db₁ now flushed edited hfree hstore hsame hconflict =>
    rw [conflicts_of_same (routeNames_store hnames hfree hstore).unique hsame] at hconflict
    nomatch hconflict

/-- A route keeps having the name in a step that flushes nothing else. -/
theorem SessionStep.nameHeld (h : SessionStep P request db phase db' p) (hnames : db.RouteNames)
    (honly : ∀ write ∈ flushedWrite P request phase, ∀ written ∈ write.name db, written = name)
    (hheld : NameHeld name db) : NameHeld name db' := by
  cases h with
  | unwritten | refused | refusedTwice => exact hheld
  | written write db' hwrite hfree hstore =>
    exact nameHeld_store hnames (fun m hm => .inl (honly write hwrite m hm)) hstore hheld
  | writtenTwice write db₁ now flushed edited db₂ hwrite hfree hstore hsame hstore₂ =>
    have hheld₁ := nameHeld_store hnames (fun m hm => .inl (honly write hwrite m hm)) hstore hheld
    have hnames₁ := routeNames_store hnames hfree hstore
    have hkeeps : (RouteWrite.change now flushed edited).keepsName = true := decide_eq_true hsame
    exact nameHeld_store hnames₁ (fun _ _ => .inr hkeeps) hstore₂ hheld₁

variable {ι : Type} [DecidableEq ι] {requests : ι → RouteRequest} {w w' : RouteSessions ι} {a : Processes.Act ι Empty}

/-- A step of a run is the next step of one request. -/
theorem exists_of_step (h : routeSessionsStep P requests w a = some w') :
    ∃ i p, a = .next i ∧ routeSessionStep P requests i w.shared (w.phase i) = some (w'.shared, p) ∧
      w'.phase = Function.update w.phase i p := by
  rcases Processes.World.step_cases h with ⟨i, s, p, rfl, hnext, rfl⟩ | ⟨e, -⟩
  · exact ⟨i, p, rfl, hnext, rfl⟩
  · exact e.elim

/-- Every step of a run keeps the ids and the names unique. -/
theorem routeNames_step (w : RouteSessions ι) (a : Processes.Act ι Empty) (w' : RouteSessions ι)
    (hnames : w.shared.RouteNames) (h : routeSessionsStep P requests w a = some w') : w'.shared.RouteNames := by
  obtain ⟨i, p, -, hnext, -⟩ := exists_of_step h
  exact (sessionStep_of_step hnext).routeNames hnames

/-- A flush that nothing answers ends in an `IntegrityError`. -/
theorem unhandled_of_step (h : routeSessionsStep P requests w a = some w') (hguard : ¬FlushAnswered P requests w a) :
    ∃ i, w'.phase i = .ended .integrityError := by
  obtain ⟨i, p, rfl, hnext, hphase⟩ := exists_of_step h
  obtain ⟨hconflict, hcreates⟩ := Classical.not_imp.1 hguard
  refine ⟨i, ?_⟩
  rw [hphase, Function.update_self, (step_of_flushConflicts hconflict hnext).2, conflictEnd_eq, if_neg hcreates]

/-- A request that has ended stays as it is. -/
theorem unhandled_kept (w : RouteSessions ι) (a : Processes.Act ι Empty) (w' : RouteSessions ι)
    (hbad : ∃ i, w.phase i = .ended .integrityError) (h : routeSessionsStep P requests w a = some w') :
    ∃ i, w'.phase i = .ended .integrityError := by
  obtain ⟨i, hi⟩ := hbad
  obtain ⟨j, p, -, hnext, hphase⟩ := exists_of_step h
  refine ⟨i, ?_⟩
  rw [hphase, Function.update_of_ne, hi]
  rintro rfl
  rw [hi] at hnext
  nomatch hnext

/-- With each flush answered, no request ends in an `IntegrityError`. -/
theorem handled_step (w : RouteSessions ι) (a : Processes.Act ι Empty) (w' : RouteSessions ι)
    (hI : w.shared.RouteNames ∧ ∀ i, w.phase i ≠ .ended .integrityError) (hguard : FlushAnswered P requests w a)
    (h : routeSessionsStep P requests w a = some w') :
    w'.shared.RouteNames ∧ ∀ i, w'.phase i ≠ .ended .integrityError := by
  refine ⟨routeNames_step w a w' hI.1 h, ?_⟩
  obtain ⟨i, p, rfl, hnext, hphase⟩ := exists_of_step h
  rw [hphase]
  refine Processes.forall_move (Q := fun _ q => q ≠ RoutePhase.ended .integrityError) (fun j _ => hI.2 j) ?_
  rintro rfl
  obtain ⟨hconflict, hcreates⟩ := (sessionStep_of_step hnext).flushConflicts hI.1
  rw [hguard hconflict] at hcreates
  nomatch hcreates

/-- With its flush answered, a step loses cleanly. -/
theorem losesCleanly_of_flushAnswered (w : RouteSessions ι) (a : Processes.Act ι Empty)
    (hguard : FlushAnswered P requests w a) : LosesCleanly P requests w a := by
  rintro i w₁ rfl h
  obtain ⟨j, p, hij, hnext, hphase⟩ := exists_of_step h
  cases hij
  rw [hphase, Function.update_self]
  refine ⟨fun hp => by rw [(sessionStep_of_step hnext).unchanged hp], ?_⟩
  rintro (hconflict | hfinds)
  · obtain ⟨-, rfl⟩ := step_of_flushConflicts hconflict hnext
    rw [conflictEnd_eq, if_pos (hguard hconflict)]
    exact ⟨nofun, fun _ => ⟨_, rfl⟩⟩
  · obtain ⟨-, rfl⟩ := step_of_checkFinds hfinds hnext
    exact ⟨nofun, fun _ => ⟨_, rfl⟩⟩

/-- A name stays with a route for as long as nothing else is flushed. -/
theorem nameHeld_step (w : RouteSessions ι) (a : Processes.Act ι Empty) (w' : RouteSessions ι)
    (hI : w.shared.RouteNames ∧ NameHeld name w.shared) (honly : FlushesOnly P requests name w a)
    (h : routeSessionsStep P requests w a = some w') : w'.shared.RouteNames ∧ NameHeld name w'.shared := by
  obtain ⟨i, p, rfl, hnext, -⟩ := exists_of_step h
  have hstep := sessionStep_of_step hnext
  exact ⟨hstep.routeNames hI.1, hstep.nameHeld hI.1 honly hI.2⟩

end Runs

end NameConflictsAux

open NameConflictsAux

/-! ## Name conflicts -/

/-- Any number of requests that create and edit routes and of `register` commands, in any interleaving of their
sessions: the conflicts of their names end as they should exactly when in no step an edit or a `register` flushes its
row while another route has the name. -/
theorem name_conflicts_clean {ι : Type} [DecidableEq ι] (P : Platform) (requests : ι → RouteRequest) (db : Database)
    (hnames : db.RouteNames) (steps : List (Processes.Act ι Empty)) (w' : RouteSessions ι)
    (hrun : exec (routeSessionsStep P requests) ⟨db, fun _ => .ready⟩ steps = some w') :
    NameConflictLaw P requests ⟨db, fun _ => .ready⟩ steps w' ↔
      Meets (routeSessionsStep P requests) (FlushAnswered P requests) ⟨db, fun _ => .ready⟩ steps := by
  constructor
  · intro hlaw
    refine meets_of_not_bad (fun w a w' hguard h => ?_) unhandled_kept hrun
      fun ⟨i, hi⟩ => hlaw.handled i hi
    exact unhandled_of_step h hguard
  · intro hmeets
    have hstart : db.RouteNames ∧ ∀ i : ι, RoutePhase.ready ≠ .ended .integrityError := ⟨hnames, fun _ => nofun⟩
    obtain ⟨hnames', hhandled⟩ := exec_invariant_of_meets handled_step hstart hmeets hrun
    refine ⟨hnames'.unique, ?_, ?_, hhandled⟩
    · intro name earlier later w₁ hsteps hearlier hheld honly
      have hlater : exec (routeSessionsStep P requests) w₁ later = some w' := by
        rw [hsteps, exec_append, hearlier] at hrun
        exact hrun
      have hnames₁ := exec_invariant (I := fun w : RouteSessions ι => w.shared.RouteNames) routeNames_step hnames hearlier
      obtain ⟨-, route, hroute, hname⟩ := exec_invariant_of_meets nameHeld_step ⟨hnames₁, hheld⟩ honly hlater
      exact ⟨route, ⟨hroute, hname⟩, fun other h => hnames'.unique.eq_of_mem h.1 hroute (h.2.trans hname.symm)⟩
    · exact hmeets.imp_of_invariant (I := fun _ => True) (fun _ _ _ _ _ => trivial)
        (fun w a _ hguard => losesCleanly_of_flushAnswered w a hguard) trivial

/-! ## Fixed inputs -/

/-- A request for the route "alerts" to a conversation. -/
def createAlerts : RouteRequest :=
  .create {} { now := 0, oneOnOneChat := fun _ _ _ => .error .valueError, routeToken := "created" } 1
    { name := "alerts", targetName := "Ada", botServiceUrl := "https://smba.example/", botConversationId := "19:ada" }

/-- A request that renames the route 2 to "alerts". -/
def renameToAlerts : RouteRequest :=
  .update {} { now := 0, oneOnOneChat := fun _ _ _ => .error .valueError } false 1 2 { name := some "alerts" }

/-- An organization with one route, of another name. -/
def jiraRoutes : Database where
  routes := [
    { id := 2, organizationId := 1, name := "jira", routeTokenHash := "", targetName := "Ada"
      botServiceUrl := "https://smba.example/", botConversationId := "19:ada" }]
  nextId := 3

/-- Two requests that create one name, both checked before one of them is flushed: the other one is answered. -/
theorem name_conflicts_clean_creates :
    ∃ w', exec (routeSessionsStep .plain fun _ : Fin 2 => createAlerts) ⟨jiraRoutes, fun _ => .ready⟩
        [.next 0, .next 1, .next 0, .next 1] = some w' ∧
      NameConflictLaw .plain (fun _ => createAlerts) ⟨jiraRoutes, fun _ => .ready⟩ [.next 0, .next 1, .next 0,
          .next 1] w' := by
  refine ⟨_, rfl, (name_conflicts_clean .plain (fun _ : Fin 2 => createAlerts) jiraRoutes
    ⟨⟨by decide, by decide⟩, by decide⟩
    [.next 0, .next 1, .next 0, .next 1] _ rfl).2 (meets_of_forall (fun a _ w => ?_) _)⟩
  cases a with
  | next i => exact fun _ => rfl
  | env e => exact trivial

/-- A route that is renamed, and one that is created with the name between the check and the flush: the flush of the
renamed one ends in an `IntegrityError`. -/
theorem rename_ends_in_integrityError :
    ∃ w', exec (routeSessionsStep .plain fun i : Fin 2 => if i = 0 then renameToAlerts else createAlerts)
        ⟨jiraRoutes, fun _ => .ready⟩ [.next 0, .next 0, .next 1, .next 1, .next 0] = some w' ∧
      w'.phase 0 = .ended .integrityError ∧
      ¬NameConflictLaw .plain (fun i => if i = 0 then renameToAlerts else createAlerts) ⟨jiraRoutes, fun _ => .ready⟩
        [.next 0, .next 0, .next 1, .next 1, .next 0] w' :=
  ⟨_, rfl, rfl, fun hlaw => hlaw.handled 0 rfl⟩

end TeamsRehook
