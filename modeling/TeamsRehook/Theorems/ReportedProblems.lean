import TeamsRehook.Lemmas.RowOrigins
import TeamsRehook.Theorems.DeliveryLog
import TeamsRehook.Theorems.Monitoring

/-!
# The last delivery of a route

A route whose last delivery failed or was rejected keeps the monitoring status from being `ok`, whatever is received,
edited, refreshed and cleaned up meanwhile, until another delivery to it ends; and a delivery that no other one to its
route overlaps ends with the route showing its outcome.
-/

namespace TeamsRehook

/-- Whether a step ends a delivery to a route. -/
def LogStep.DeliversTo (x : LogState) (routeId : Nat) : LogStep → Prop
  | .finish _ _ delivery => ∃ d, x.inFlight[delivery]? = some d ∧ d.route.id = routeId
  | .test _ _ _ testedId _ => testedId = routeId
  | _ => False

/-- No step of a history ends a delivery to a route. -/
def NoDeliveryTo (P : Platform) (V : Services) (routeId : Nat) : LogState → List LogStep → Prop
  | _, [] => True
  | x, step :: steps =>
    ¬step.DeliversTo x routeId ∧ ∀ x', logStep P V x step = some x' → NoDeliveryTo P V routeId x' steps

/-- The last delivery failed or was rejected. -/
def WebhookRoute.LastFailed (route : WebhookRoute) : Prop :=
  route.lastDeliveryStatus = some .failed ∨ route.lastDeliveryStatus = some .rejected

namespace ReportedProblemsAux

variable {P : Platform} {V : Services} {db db' db₁ : Database} {may : WebhookRoute → Prop}

/-- The routes are new, or have the last delivery they had; others are what `may` says. -/
structure KeepsLast (may : WebhookRoute → Prop) (db db' : Database) : Prop where
  nextId : db.nextId ≤ db'.nextId
  routes : ∀ row ∈ db'.routes, db.nextId ≤ row.id ∨ may row ∨
    ∃ old ∈ db.routes, old.id = row.id ∧ old.lastDeliveryStatus = row.lastDeliveryStatus

/-- An operation that leaves the routes keeps what they show of their last delivery. -/
theorem keepsLast_of_routes (hroutes : db'.routes = db.routes) (hnext : db.nextId ≤ db'.nextId) : KeepsLast may db db' :=
  ⟨hnext, fun row hrow => .inr (.inr ⟨row, hroutes ▸ hrow, rfl, rfl⟩)⟩

/-- An operation that leaves the routes and the events keeps what the routes show. -/
theorem keepsLast_of_same (h : SameRoutes db db') : KeepsLast may db db' := keepsLast_of_routes h.routes h.nextId

/-- Nothing that happens keeps what the routes show. -/
theorem KeepsLast.refl (db : Database) : KeepsLast may db db := keepsLast_of_routes rfl (le_refl _)

/-- Operations that keep what every route shows compose. -/
theorem KeepsLast.trans (h : KeepsLast (fun _ => False) db db₁) (h' : KeepsLast (fun _ => False) db₁ db') :
    KeepsLast (fun _ => False) db db' := by
  refine ⟨h.nextId.trans h'.nextId, fun row hrow => ?_⟩
  rcases h'.routes row hrow with hnew | hmay | ⟨mid, hmid, hid, hlast⟩
  · exact .inl (h.nextId.trans hnew)
  · exact hmay.elim
  · rcases h.routes mid hmid with hnew | hmay | ⟨old, hold, hid', hlast'⟩
    · exact .inl (hid ▸ hnew)
    · exact hmay.elim
    · exact .inr (.inr ⟨old, hold, hid'.trans hid, hlast'.trans hlast⟩)

theorem KeepsLast.mono {may' : WebhookRoute → Prop} (h : KeepsLast may db db') (hmay : ∀ row, may row → may' row) :
    KeepsLast may' db db' := ⟨h.nextId, fun row hrow => (h.routes row hrow).imp_right (Or.imp_left (hmay row))⟩

/-- What is kept of every route is kept of some. -/
theorem KeepsLast.weaken (h : KeepsLast (fun _ => False) db db') : KeepsLast may db db' := h.mono fun _ => False.elim

/-- What a change of a route keeps of it. -/
def SameLast (old row : WebhookRoute) : Prop := old.id = row.id ∧ old.lastDeliveryStatus = row.lastDeliveryStatus

/-- A route that is stored with the same last delivery keeps what it shows. -/
theorem keepsLast_storeRoute {now : Int} {route changed : WebhookRoute} (hroute : route ∈ db.routes)
    (hsame : SameLast route changed) : KeepsLast may db (storeRoute now changed db) := by
  refine ⟨le_refl _, fun row hrow => .inr (.inr ?_)⟩
  rcases mem_routes_storeRoute hrow with hold | ⟨_, -, -, rfl⟩
  · exact ⟨row, hold, rfl, rfl⟩
  · exact ⟨route, hroute, hsame⟩

/-- A deletion keeps what the other routes show. -/
theorem keepsLast_deleteRoute (routeId : Nat) (db : Database) : KeepsLast may db (deleteRoute routeId db) :=
  ⟨le_refl _, fun row hrow => .inr (.inr ⟨row, (Table.mem_delete.1 hrow).1, rfl, rfl⟩)⟩

/-- A new route keeps what the others show. -/
theorem keepsLast_insertRoute {now : Int} {route : WebhookRoute} (hid : route.id = db.nextId)
    (h : insertRoute now route db = .ok db') : KeepsLast may db db' := by
  refine ⟨?_, fun row hrow => ?_⟩
  · unfold insertRoute at h
    split at h
    · cases h
    · cases h
      exact Nat.le_succ _
  · rw [(routes_insertRoute h).1] at hrow
    rcases List.mem_append.1 hrow with hold | hnew
    · exact .inr (.inr ⟨row, hold, rfl, rfl⟩)
    · rw [List.mem_singleton.1 hnew]
      exact .inl (le_of_eq hid.symm)

/-! ## Activities -/

/-- A route with other names shows the same last delivery. -/
theorem sameLast_of_renamed {route row : WebhookRoute} (h : route.RenamedFrom row) : SameLast route row := by
  obtain ⟨teamName, name, rfl⟩ := h
  exact ⟨rfl, rfl⟩

/-- A command of the bot keeps what the routes show of their last delivery. -/
theorem keepsLast_effect {run : BotRun} {organizationId : Nat} {captured : Captured}
    {reference : Option BotConversationReference} {argument : String} {command : BotCommand}
    (h : RouteEffect P run organizationId captured reference argument db command db') :
    KeepsLast may db db' := by
  cases h with
  | unchanged => exact .refl db
  | setActive isActive _ hroute => exact keepsLast_storeRoute hroute ⟨rfl, rfl⟩
  | setAccess mode allowlist hroute => exact keepsLast_storeRoute hroute ⟨rfl, rfl⟩
  | delete hroute => exact keepsLast_deleteRoute _ db
  | update _ _ hroute hrow =>
    obtain ⟨hid, hlast⟩ := sameLast_of_renamed (tryResolveRouteGraphNames_renamed hrow)
    exact keepsLast_storeRoute (List.mem_of_find?_eq_some hroute) ⟨hid, hlast⟩
  | create _ hroute hrow hinsert =>
    refine keepsLast_insertRoute ?_ hinsert
    rw [← (sameLast_of_renamed (tryResolveRouteGraphNames_renamed hrow)).1]
    simp only [registeredRoute, routeToRegister, hroute]

/-- An activity keeps what the routes show of their last delivery. -/
theorem keepsLast_activity {s : Settings} {run : BotRun} {body : Bytes} {authorization : Option BotCommandAuthorization}
    (h : receiveBotActivity P s run body db = .ok (db', authorization)) : KeepsLast may db db' := by
  unfold receiveBotActivity at h
  obtain ⟨activity, -, h⟩ := Except.bind_eq_ok_iff.1 h
  cases activity with
  | none =>
    obtain ⟨rfl, -⟩ := Prod.mk.inj (Except.ok.inj h)
    exact .refl _
  | some activity =>
    obtain ⟨db₁, reference, -, ⟨hsame, -, -⟩ | ⟨db₂, command, argument, a, hrun, -, hhandle⟩⟩ := receiveActivity_end h
    · exact keepsLast_of_same hsame
    · obtain ⟨db₃, db₄, n, revealed, hstart, heffect, rfl, -, -⟩ :=
        (handleCommand_end (strip_of_commandOf hrun.parsed) hhandle).exists_effect
      obtain ⟨reveals, m, heq, hm⟩ := issueWebhookRevealUrls_eq P s run n revealed db₄
      have hrevealed : KeepsLast (fun _ => False) db₄ (issueWebhookRevealUrls P s run n revealed db₄) := by
        rw [heq]
        exact ⟨hm, fun row hrow => .inr (.inr ⟨row, hrow, rfl, rfl⟩)⟩
      exact (((keepsLast_of_same hrun.routes).trans (keepsLast_of_same hstart.sameRoutes)).trans
        ((keepsLast_effect heffect).trans hrevealed)).weaken

/-! ## The other operations -/

/-- A route with a new chat shows the same last delivery. -/
theorem sameLast_materialize {run : RouteRun} {route row : WebhookRoute}
    (h : materializeGraphUserTarget run route = .ok row) : SameLast route row := by
  unfold materializeGraphUserTarget at h
  split at h
  · cases h
    exact ⟨rfl, rfl⟩
  · dsimp only at h
    split at h
    · cases h
    · split at h
      · cases h
      · cases h
      · cases h
        exact ⟨rfl, rfl⟩

/-- A route with other members shows the same last delivery. -/
theorem sameLast_settleMembers (route edited : WebhookRoute) : SameLast edited (settleMembers route edited) := by
  unfold settleMembers
  split
  · exact ⟨rfl, rfl⟩
  · exact ⟨rfl, rfl⟩

/-- A checked edit of a route shows the same last delivery. -/
theorem sameLast_checkedRoute {s : Settings} {run : RouteRun} {settled : WebhookRoute → WebhookRoute}
    (hsettled : ∀ r, SameLast r (settled r)) {route row : WebhookRoute}
    (h : checkedRoute P s run settled route = .ok row) : SameLast route row := by
  obtain ⟨mode, allowlist, chat, -, hchat, hnamed, -⟩ := checkedRoute_eq_ok h
  obtain ⟨hid, hlast⟩ := sameLast_materialize hchat
  have hrow : SameLast (settled chat) row := by
    rcases hnamed with ⟨-, rfl⟩ | rfl
    · exact sameLast_of_renamed (resolveRouteGraphNames_renamed run.names false (settled chat))
    · exact ⟨rfl, rfl⟩
  exact ⟨hid.trans ((hsettled chat).1.trans hrow.1), hlast.trans ((hsettled chat).2.trans hrow.2)⟩

/-- A refresh of the members shows the same last delivery. -/
theorem sameLast_refreshRouteMembers {now : Int} {fetched : Except Exn ConversationMembers} {valueErrorText : String}
    {route row : WebhookRoute} (h : refreshRouteMembers now fetched valueErrorText route = .ok row) :
    SameLast route row := by
  unfold refreshRouteMembers at h
  split at h
  · split at h
    · cases h
      exact ⟨rfl, rfl⟩
    · split at h
      · cases h
        exact ⟨rfl, rfl⟩
      · cases h
  · cases h
    exact ⟨rfl, rfl⟩

/-- What writes a route other than an activity and a creation. -/
theorem exists_old_of_origin {step : LiveStep} {row : WebhookRoute} (horigin : RouteOrigin P db step row)
    (hactivity : ∀ s run body, step ≠ .routes (.activity s run body))
    (hcreate : ∀ s run organizationId payload, step ≠ .routes (.create s run organizationId payload)) :
    ∃ old ∈ db.routes, old.id = row.id ∧ old.lastDeliveryStatus = row.lastDeliveryStatus := by
  cases horigin with
  | kept hold => exact ⟨row, hold, rfl, rfl⟩
  | activated | accessSet | registered => exact (hactivity _ _ _ rfl).elim
  | created => exact (hcreate _ _ _ _ rfl).elim
  | updated t hold _ _ hrow =>
    obtain ⟨hid, hlast⟩ := sameLast_checkedRoute (sameLast_settleMembers _) hrow
    exact ⟨_, hold, hid, hlast⟩
  | membersRefreshed t hold hrow =>
    obtain ⟨hid, hlast⟩ := sameLast_refreshRouteMembers hrow
    exact ⟨_, hold, hid, hlast⟩
  | @namesRefreshed s now G organizationId old t hold _ =>
    obtain ⟨hid, hlast⟩ := sameLast_of_renamed (resolveRouteGraphNames_renamed G true old)
    exact ⟨old, hold, hid, hlast⟩
  | @routeNamesRefreshed s now G organizationId routeId old t hold _ =>
    obtain ⟨hid, hlast⟩ := sameLast_of_renamed (resolveRouteGraphNames_renamed G true old)
    exact ⟨old, hold, hid, hlast⟩
  | regenerated t hold => exact ⟨_, hold, rfl, rfl⟩

/-- An operation that raises keeps what the routes show. -/
theorem keepsLast_committed {result : Except Exn Database} (h : ∀ db', result = .ok db' → KeepsLast may db db') :
    KeepsLast may db (committed db result) := by
  cases result with
  | ok db' => exact h db' rfl
  | error e => exact .refl db

/-- What writes the routes while messages are sent keeps what they show of their last delivery. -/
theorem keepsLast_live {step : LiveStep} (hnext : db.nextId ≤ db'.nextId) (h : liveStep P db step = some db') :
    KeepsLast may db db' := by
  have horigins := (rowOrigins_of_step h).routes
  have hother : (∀ s run body, step ≠ .routes (.activity s run body)) →
      (∀ s run organizationId payload, step ≠ .routes (.create s run organizationId payload)) → KeepsLast may db db' :=
    fun hactivity hcreate => ⟨hnext, fun row hrow =>
      .inr (.inr (exists_old_of_origin (horigins row hrow) hactivity hcreate))⟩
  cases step with
  | regenerate => exact hother (fun _ _ _ h => by cases h) (fun _ _ _ _ h => by cases h)
  | routes step =>
    simp only [liveStep, Option.ite_none_right_eq_some] at h
    cases step with
    | activity s run body =>
      obtain rfl := Option.some.inj h.2
      refine keepsLast_committed fun db' hreceive => ?_
      obtain ⟨⟨db₁, authorization⟩, hreceived, rfl⟩ := Except.map_eq_ok_iff.1 hreceive
      exact keepsLast_activity hreceived
    | create s run organizationId payload =>
      obtain rfl := Option.some.inj h.2
      refine keepsLast_committed fun db' hcreated => ?_
      obtain ⟨row, hrow, hinsert⟩ := createWebhookRoute_eq_ok hcreated
      obtain ⟨hid, -⟩ := sameLast_checkedRoute (fun _ => ⟨rfl, rfl⟩) hrow
      exact keepsLast_insertRoute hid.symm hinsert
    | _ => exact hother (fun _ _ _ h => by cases h) (fun _ _ _ _ h => by cases h)

/-! ## Deliveries -/

/-- The first transaction of a request can only reject it for its route. -/
theorem keepsLast_admitWebhook (s : Settings) (r : WebhookRequest) (db : Database) :
    KeepsLast (fun row => row.lastDeliveryStatus = some .rejected) db (admitWebhook P V s r db).1 := by
  have hview := admitWebhook_view P V s r db
  generalize admitWebhook P V s r db = out at hview
  cases hview with
  | blocked => exact keepsLast_of_routes rfl (le_refl _)
  | turnedAway => exact keepsLast_of_routes rfl (Nat.le_succ _)
  | rejected =>
    refine ⟨Nat.le_succ _, fun row hrow => .inr ?_⟩
    obtain ⟨old, hold, rfl⟩ := Table.mem_update.1 hrow
    split
    · exact .inl rfl
    · exact .inr ⟨old, hold, rfl, rfl⟩
  | raised => exact .refl db
  | accepted route body message abuse hacc =>
    have hres := reserve_view P s r route (requestIdempotencyKey r.idempotencyKeyHeader)
      (requestMetadata P r body (requestIdempotencyKey r.idempotencyKeyHeader)) message db abuse
    generalize settle db _ = out at hres
    cases hres with
    | fresh => exact keepsLast_of_routes rfl (Nat.le_succ _)
    | takenOver => exact keepsLast_of_routes rfl (le_refl _)
    | answered => exact .refl db
    | refused => exact .refl db

/-- The end of a delivery changes what its own route shows, and no other. -/
theorem keepsLast_complete (s : Settings) (run : ProviderRun) (d : Reserved) (db : Database) :
    KeepsLast (fun row => row.id = d.route.id) db (complete P s run d db).1 := by
  obtain hsame | ⟨sent, credentials, -, hflush⟩ := complete_cases P s run d db
  · rw [hsame]
    exact .refl db
  · rw [flushDelivery_ok hflush]
    refine ⟨le_refl _, fun row hrow => .inr ?_⟩
    obtain ⟨old, hold, rfl⟩ := Table.mem_update.1 hrow
    split
    · next hid => exact .inl (beq_iff_eq.1 hid)
    · exact .inr ⟨old, hold, rfl, rfl⟩

/-- A recorded event leaves the routes. -/
theorem recordEvent_routes {now : Int} {route : Option WebhookRoute} {tokenHash : String} {f : EventFields}
    {event : WebhookDeliveryEvent} (h : recordEvent now route tokenHash f db = .ok (db', event)) :
    db'.routes = db.routes := by
  obtain ⟨hok, -⟩ | ⟨hrefused, -⟩ := recordEvent_cases now route tokenHash f db
  · rw [hok] at h
    cases h
    rfl
  · rw [hrefused] at h
    cases h

/-- A cleanup leaves the routes. -/
theorem routes_cleanup {s : Settings} {now : Int} {force : Bool} {last last' : Option Int}
    (h : cleanupLogEvents s now force last db = .ok (db', last')) : db'.routes = db.routes := by
  unfold cleanupLogEvents at h
  obtain ⟨cutoff, -, h⟩ := Except.bind_eq_ok_iff.1 h
  obtain ⟨skipped, -, h⟩ := Except.bind_eq_ok_iff.1 h
  split at h
  · obtain ⟨rfl, -⟩ := Prod.mk.inj (Except.ok.inj h)
    rfl
  · obtain ⟨rfl, -⟩ := Prod.mk.inj (Except.ok.inj h)
    rfl

/-- A test changes what its own route shows, and no other. -/
theorem keepsLast_testWebhookRoute (s : Settings) (run : ProviderRun) (organizationId routeId : Nat)
    (payload : WebhookRouteTestRequest) (db : Database)
    (hnext : db.nextId ≤ (testWebhookRoute P s run organizationId routeId payload db).1.nextId) :
    KeepsLast (fun row => row.id = routeId) db (testWebhookRoute P s run organizationId routeId payload db).1 := by
  refine ⟨hnext, ?_⟩
  unfold testWebhookRoute
  cases hroute : getOrgRoute organizationId routeId db with
  | error e => exact (KeepsLast.refl db).routes
  | ok route =>
    dsimp only
    split
    · exact (KeepsLast.refl db).routes
    · split
      · exact (KeepsLast.refl db).routes
      · split
        · exact (KeepsLast.refl db).routes
        · next hrecord =>
          intro row hrow
          rw [recordEvent_routes hrecord] at hrow
          rcases mem_routes_storeRoute hrow with hold | ⟨_, -, -, rfl⟩
          · exact .inr (.inr ⟨row, hold, rfl, rfl⟩)
          · exact .inr (.inl (mem_of_getOrgRoute hroute).2)

/-! ## Steps and runs -/

/-- Ids are given out in their order. -/
theorem nextId_logStep {x x' : LogState} {a : LogStep} (h : logStep P V x a = some x') : x.db.nextId ≤ x'.db.nextId :=
  DeliveryLogAux.nextId_le (DeliveryLogAux.changes_logStep (C := fun _ => True) (fun _ _ _ _ _ _ => trivial) h)

/-- A step rejects a request, ends a delivery, or leaves what the last delivery of a route was. -/
theorem keepsLast_logStep {x x' : LogState} {a : LogStep} (h : logStep P V x a = some x') :
    KeepsLast (fun row => row.lastDeliveryStatus = some .rejected ∨ a.DeliversTo x row.id) x.db x'.db := by
  have hnext := nextId_logStep h
  cases a with
  | receive s r =>
    obtain rfl := Option.some.inj h
    exact ⟨hnext, fun row hrow => ((keepsLast_admitWebhook s r x.db).routes row hrow).imp_right (Or.imp_left .inl)⟩
  | finish s run delivery =>
    obtain ⟨d, hd, rfl⟩ := Option.map_eq_some_iff.1 h
    have hkept : KeepsLast (fun row => row.id = d.route.id) x.db (complete P s run d x.db).1 :=
      keepsLast_complete s run d x.db
    dsimp only
    exact hkept.mono fun row hid => .inr ⟨d, hd, hid.symm⟩
  | test s run organizationId routeId payload =>
    obtain rfl := Option.some.inj h
    have hkept : KeepsLast (fun row => row.id = routeId) x.db
        (testWebhookRoute P s run organizationId routeId payload x.db).1 :=
      keepsLast_testWebhookRoute s run organizationId routeId payload x.db hnext
    dsimp only
    exact hkept.mono fun row hid => .inr hid.symm
  | cleanup s now force =>
    simp only [logStep] at h
    split at h
    · next hcleanup =>
      obtain rfl := Option.some.inj h
      exact keepsLast_of_routes (routes_cleanup hcleanup) hnext
    · obtain rfl := Option.some.inj h
      exact .refl _
  | live step =>
    obtain ⟨db', hstep, rfl⟩ := Option.map_eq_some_iff.1 h
    exact keepsLast_live hnext hstep

/-- A run that ends no delivery to a route leaves what its last delivery was, where a request can be rejected meanwhile.
-/
theorem last_exec {x x' : LogState} {steps : List LogStep} {routeId : Nat} {C : Option DeliveryStatus → Prop}
    (hrejected : C (some .rejected)) (hid : routeId < x.db.nextId)
    (hlast : ∀ route ∈ x.db.routes, route.id = routeId → C route.lastDeliveryStatus)
    (hquiet : NoDeliveryTo P V routeId x steps) (hrun : Transition.exec (logStep P V) x steps =
        some x') : ∀ route ∈ x'.db.routes, route.id = routeId → C route.lastDeliveryStatus := by
  induction steps generalizing x with
  | nil =>
    cases hrun
    exact hlast
  | cons a steps ih =>
    obtain ⟨x₁, hstep, hrest⟩ := Transition.exec_cons_eq_some.1 hrun
    refine ih (lt_of_lt_of_le hid (nextId_logStep hstep)) (fun route hroute hrouteId => ?_) (hquiet.2 x₁ hstep) hrest
    rcases (keepsLast_logStep hstep).routes route hroute with hnew | (hstatus | hdelivers) | ⟨old, hold, hsame, hkept⟩
    · exact absurd (hrouteId ▸ hnew) (not_le.2 hid)
    · rwa [hstatus]
    · exact absurd (hrouteId ▸ hdelivers) hquiet.1
    · rw [← hkept]
      exact hlast old hold (hsame.trans hrouteId)

/-- After a reservation the rows of the route have the last delivery that its session has loaded, and its id was given
out. -/
theorem last_of_reserved {s : Settings} {r : WebhookRequest} {d : Reserved} (hids : db.RouteIds)
    (h : admitWebhook P V s r db = (db', .reserved d)) :
    d.route.id < db'.nextId ∧ ∀ route ∈ db'.routes, route.id = d.route.id →
    route.lastDeliveryStatus = d.route.lastDeliveryStatus := by
  obtain ⟨hroute, hroutes, hnext⟩ : d.route ∈ db.routes ∧ db'.routes = db.routes ∧ db.nextId ≤ db'.nextId := by
    obtain ⟨hroute, abuse, ⟨-, rfl⟩ | ⟨-, rfl⟩⟩ := admitWebhook_reserved h
    · exact ⟨hroute, rfl, Nat.le_succ _⟩
    · exact ⟨hroute, rfl, le_refl _⟩
  refine ⟨lt_of_lt_of_le (hids.fresh d.route hroute) hnext, fun route hmem hsame => ?_⟩
  rw [hids.unique.eq_of_mem (hroutes ▸ hmem) hroute hsame]

/-- A flush writes the outcome unless the session has loaded the same one, so it shows on a row that has what was
loaded. -/
theorem last_finishRoute {now : Int} {d : Reserved} {sent : Sent} {row : WebhookRoute}
    (h : row.lastDeliveryStatus = some .rejected ∨ row.lastDeliveryStatus = d.route.lastDeliveryStatus) :
    (finishRoute now d sent row).lastDeliveryStatus = some sent.status ∨
      (finishRoute now d sent row).lastDeliveryStatus = some .rejected := by
  unfold finishRoute Table.ormWrite
  dsimp only
  split
  · next hloaded => exact h.symm.imp_left fun hsame => hsame.trans hloaded.symm
  · exact .inl rfl

/-- When the status is `ok`, no route of an enabled backend has a problem. -/
theorem isProblem_eq_false_of_ok {s : AuthSettings} {c : MonitoringContext} {snapshots : List AuthDiagnosticSnapshot}
    (hok : (buildMonitoringStatus P s c snapshots db).status = .ok) {route : WebhookRoute} (hroute : route ∈ db.routes)
    (hbackend : route.deliveryBackend ∈ enabledDeliveryBackends s.toSettings) : route.isProblem = false := by
  obtain ⟨hread, -, -, -, hcounts, -⟩ := MonitoringAux.rollup_eq_ok_iff.1 hok
  rw [if_pos hread] at hcounts
  exact MonitoringAux.counts_eq_zero_iff.1 hcounts route (List.mem_filter.2 ⟨hroute, List.contains_iff_mem.2 hbackend⟩)

/-- A route whose last delivery has failed is a problem. -/
theorem isProblem_of_lastFailed {route : WebhookRoute} (h : route.LastFailed) : route.isProblem = true := by
  rcases h with h | h
  · simp [WebhookRoute.isProblem, h]
  · simp [WebhookRoute.isProblem, h]

end ReportedProblemsAux

open ReportedProblemsAux in
/-- Once the last delivery to a route failed or was rejected, the monitoring status is not `ok` after any run that ends
no delivery to the route, as long as the route is there and its backend is enabled: no cleanup, edit, refresh or request
makes the failure disappear. -/
theorem failed_route_reported {P : Platform} {V : Services} {x x' : LogState} {steps : List LogStep} {routeId : Nat}
    (hid : routeId < x.db.nextId) (hfailed : ∀ route ∈ x.db.routes, route.id = routeId → route.LastFailed)
    (hquiet : NoDeliveryTo P V routeId x steps) (hrun : Transition.exec (logStep P V) x steps = some x')
    {route : WebhookRoute} (hroute : route ∈ x'.db.routes) (hrouteId : route.id = routeId) (s : AuthSettings)
    (hbackend : route.deliveryBackend ∈ enabledDeliveryBackends s.toSettings) (c : MonitoringContext)
    (snapshots : List AuthDiagnosticSnapshot) : (buildMonitoringStatus P s c snapshots x'.db).status ≠ .ok := by
  intro hok
  have hlast : route.LastFailed :=
    last_exec (C := fun last => last = some .failed ∨ last = some .rejected) (.inr rfl) hid hfailed
    hquiet hrun route hroute hrouteId
  have hproblem := isProblem_of_lastFailed hlast
  exact Bool.false_ne_true ((isProblem_eq_false_of_ok hok hroute hbackend).symm.trans hproblem)

/-- The last delivery to the route failed. -/
def failedAlerts : LogState :=
  { db := { alertsState.db with routes := [{ alertsRoute with lastDeliveryStatus := some .failed }] } }

/-- Another request for the route is accepted, and its message is not sent yet. -/
theorem failed_route_reported_accepted :
    ∃ x', Transition.exec (logStep .plain .plain) failedAlerts [.receive alertsState.settings (unkeyedRequest 0)] =
      some x' ∧ (buildMonitoringStatus .plain {} { generatedAt := 1, share := fun _ _ => 0 } [] x'.db).status ≠ .ok :=
  have hrun : Transition.exec (logStep .plain .plain) failedAlerts [.receive alertsState.settings (unkeyedRequest 0)] =
    some _ := rfl
  have hfailed : ∀ route ∈ failedAlerts.db.routes, route.id = 1 → route.LastFailed :=
    fun _ hroute _ => .inl (List.mem_singleton.1 hroute ▸ rfl)
  have hquiet : NoDeliveryTo .plain .plain 1 failedAlerts [.receive alertsState.settings (unkeyedRequest 0)] :=
    ⟨fun h => h, fun _ _ => trivial⟩
  ⟨_, hrun, failed_route_reported (by decide) hfailed hquiet hrun List.mem_cons_self rfl {} (by decide) _ _⟩

open ReportedProblemsAux in
/-- When no other delivery to a route ends between the two transactions of a delivery and its final commit goes through,
the route shows its outcome afterwards, or that a request was rejected meanwhile. -/
theorem delivery_outcome_shown {P : Platform} {V : Services} {s₀ : Settings} {r : WebhookRequest} {db : Database}
    {x x' : LogState} {d : Reserved} {steps : List LogStep} (hids : db.RouteIds)
    (hreserved : admitWebhook P V s₀ r db = (x.db, .reserved d)) (hquiet : NoDeliveryTo P V d.route.id x steps)
    (hrun : Transition.exec (logStep P V) x steps = some x') (s : Settings) (run : ProviderRun) {response : Response}
    (hcommitted : (complete P s run d x'.db).2 = .ok response) :
    ∃ sent, (deliverToRoute P s d.route d.message run x'.db.credentials).2 = .ok sent ∧
      ∀ shown ∈ (complete P s run d x'.db).1.routes, shown.id = d.route.id →
        shown.lastDeliveryStatus = some sent.status ∨ shown.lastDeliveryStatus = some .rejected := by
  obtain ⟨hfresh, hloaded⟩ := last_of_reserved hids hreserved
  have hlast := last_exec (C := fun last => last = some .rejected ∨ last = d.route.lastDeliveryStatus) (.inl rfl) hfresh
    (fun route hmem hsame => .inr (hloaded route hmem hsame)) hquiet hrun
  obtain ⟨sent, hsent, hflush⟩ := complete_ok hcommitted
  refine ⟨sent, hsent, fun shown hshown hid => ?_⟩
  rw [flushDelivery_ok hflush] at hshown
  obtain ⟨old, hold, rfl⟩ := Table.mem_update.1 hshown
  split at hid
  · next hsame =>
    rw [if_pos hsame]
    exact last_finishRoute (hlast old hold (beq_iff_eq.1 hsame))
  · next hother => exact (hother (beq_iff_eq.2 hid)).elim

/-- The tables after a request for the route is reserved. -/
def reservedAlerts : LogState :=
  { db := (admitWebhook .plain .plain alertsState.settings (unkeyedRequest 0) alertsState.db).1 }

/-- Another request for the route is reserved before the first message is sent. -/
theorem delivery_outcome_shown_reserved :
    ∃ x' d sent, admitWebhook .plain .plain alertsState.settings (unkeyedRequest 0) alertsState.db =
      (reservedAlerts.db, .reserved d) ∧ Transition.exec (logStep .plain .plain) reservedAlerts
        [.receive alertsState.settings (unkeyedRequest 1)] = some x' ∧
      (deliverToRoute .plain alertsState.settings d.route d.message (mockRun 2) x'.db.credentials).2 = .ok sent ∧
      ∀ shown ∈ (complete .plain alertsState.settings (mockRun 2) d x'.db).1.routes, shown.id = d.route.id →
        shown.lastDeliveryStatus = some sent.status ∨ shown.lastDeliveryStatus = some .rejected := by
  have hreserved : admitWebhook .plain .plain alertsState.settings (unkeyedRequest 0) alertsState.db =
    (reservedAlerts.db, .reserved _) := rfl
  have hrun : Transition.exec (logStep .plain .plain) reservedAlerts
    [.receive alertsState.settings (unkeyedRequest 1)] = some _ := rfl
  have hids : alertsState.db.RouteIds := ⟨by simp [Table.UniqueOn, alertsState], by decide⟩
  have hquiet : NoDeliveryTo .plain .plain 1 reservedAlerts [.receive alertsState.settings (unkeyedRequest 1)] :=
    ⟨fun h => h, fun _ _ => trivial⟩
  obtain ⟨sent, hsent, hshown⟩ := delivery_outcome_shown hids hreserved hquiet hrun alertsState.settings (mockRun 2) rfl
  exact ⟨_, _, sent, hreserved, hrun, hsent, hshown⟩

/-- With two deliveries at the same time the route can show one that is not the last: both begin when the last one had
failed, the second is delivered, and then the first fails, which the session takes for no change. The status is `ok`
again after five minutes. -/
example : (Transition.exec (logStep .plain .plain) failedAlerts
      [.receive alertsState.settings (unkeyedRequest 0), .receive alertsState.settings (unkeyedRequest 1),
        .finish alertsState.settings (mockRun 2) 1, .finish {} (mockRun 3) 0]).map (fun x =>
      (x.db.routes.map (·.lastDeliveryStatus), x.db.events.map (·.status),
        (buildMonitoringStatus .plain { botDeliveryMode := "mock", graphLookupEnabled := false }
          { generatedAt := minutes 10, share := fun _ _ => 0 } [] x.db).status)) =
    some ([some .delivered], [.failed, .delivered], .ok) := rfl

end TeamsRehook
