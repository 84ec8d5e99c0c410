import TeamsRehook.Lib.Except
import TeamsRehook.Lib.Splitting
import TeamsRehook.Monitoring

/-!
# The monitoring status

What a status says of the tables it is read from, and that a status which is not `ok` always comes with a reason.
-/

namespace TeamsRehook

namespace MonitoringAux

/-! ## The key -/

/-- A header is the scheme and what follows the first blank, or has no blank. -/
theorem splitFirst_blank (header : String) :
    (' ' ∉ header.toList ∧ Python.splitFirst header " " = none) ∨
      ∃ scheme token, ' ' ∉ scheme.toList ∧ header = scheme ++ " " ++ token ∧ Python.splitFirst header " " =
      some (scheme, token) := by
  by_cases hblank : ' ' ∈ header.toList
  · obtain ⟨scheme, token, hheader, hscheme⟩ : ∃ scheme token : String, header = scheme ++ " " ++ token ∧
        ' ' ∉ scheme.toList :=
      Python.exists_first String.toList_ofList hblank
    exact .inr ⟨scheme, token, hscheme, hheader, hheader ▸ Python.splitFirst_append String.toList_ofList hscheme token⟩
  · exact .inl ⟨hblank, Python.splitFirst_of_not_mem String.toList_ofList hblank⟩

/-- Two texts that are compared as equal are. -/
theorem compareDigest_eq_ok_true {a b : String} (h : compareDigest a b = .ok true) : isAscii b = true ∧ a = b := by
  unfold compareDigest at h
  split at h
  · next hascii => exact ⟨(Bool.and_eq_true_iff.1 hascii).2, beq_iff_eq.1 (Except.ok.inj h)⟩
  · cases h

variable {db : Database} {backends : Option (List String)} {problem : RouteProblem}

/-! ## Counts -/

/-- The routes that are counted. -/
def countedRoutes (backends : Option (List String)) (db : Database) : List WebhookRoute :=
  db.routes.filter fun route => backends.all (·.contains route.deliveryBackend)

/-- A problem is counted for the routes that have it. -/
theorem count_routeCounts :
    problem.count (routeCounts backends db) = (countedRoutes backends db).countP (problem.affects ·.problemRoute) := by
  cases problem <;> rfl

/-- Without a filter every route is counted. -/
theorem countedRoutes_none : countedRoutes none db = db.routes := List.filter_eq_self.2 fun _ _ => rfl

/-- A route has a problem when it has one of the problems that are told. -/
theorem isProblem_iff {route : WebhookRoute} :
    route.isProblem = true ↔ ∃ problem : RouteProblem, problem.affects route.problemRoute = true := by
  constructor
  · intro h
    simp only [WebhookRoute.isProblem, Bool.or_eq_true, List.contains_iff_mem, List.mem_cons, List.not_mem_nil,
      or_false] at h
    rcases h with (h | h | h) | h
    · exact ⟨.inactive, h⟩
    · exact ⟨.lastFailed, beq_iff_eq.2 h⟩
    · exact ⟨.lastRejected, beq_iff_eq.2 h⟩
    · exact ⟨.untested, h⟩
  · rintro ⟨problem, h⟩
    simp only [WebhookRoute.isProblem, Bool.or_eq_true, List.contains_iff_mem, List.mem_cons, List.not_mem_nil, or_false]
    cases problem with
    | inactive => exact .inl (.inl h)
    | lastFailed => exact .inl (.inr (.inl (beq_iff_eq.1 h)))
    | lastRejected => exact .inl (.inr (.inr (beq_iff_eq.1 h)))
    | untested => exact .inr h

/-- No problem is counted when no counted route has one. -/
theorem counts_eq_zero_iff : (∀ problem : RouteProblem, problem.count (routeCounts backends db) = 0) ↔
    ∀ route ∈ countedRoutes backends db, route.isProblem = false := by
  simp only [count_routeCounts, List.countP_eq_zero]
  constructor
  · intro h route hroute
    refine Bool.eq_false_iff.2 fun hproblem => ?_
    obtain ⟨problem, hproblem⟩ := isProblem_iff.1 hproblem
    exact h problem route hroute hproblem
  · intro h problem route hroute hproblem
    exact Bool.eq_false_iff.1 (h route hroute) (isProblem_iff.2 ⟨problem, hproblem⟩)

/-- Counting some of the routes counts no problem, when counting all of them does not. -/
theorem count_eq_zero_of_none (h : problem.count (routeCounts none db) = 0) :
    problem.count (routeCounts backends db) = 0 := by
  rw [count_routeCounts, countedRoutes_none] at h
  rw [count_routeCounts]
  exact Nat.le_zero.1 (h ▸ List.filter_sublist.countP_le)

variable {share : Nat → Nat → Nat} {since : Int}

/-- The deliveries of a window that failed or were rejected. -/
theorem window_eq_zero_iff : ((rollingWindow share since backends db).deliveryFailureCount = 0 ∧
    (rollingWindow share since backends db).deliveryRejectionCount = 0) ↔
      ∀ event ∈ windowEvents since backends db, event.status ≠ .failed ∧ event.status ≠ .rejected := by
  simp only [rollingWindow, List.countP_eq_zero, beq_iff_eq]
  exact ⟨fun h event hevent => ⟨h.1 event hevent, h.2 event hevent⟩, fun h => ⟨fun event hevent => (h event hevent).1,
    fun event hevent => (h event hevent).2⟩⟩

/-- An event that is counted with a filter is counted without one. -/
theorem mem_windowEvents_none {event : WebhookDeliveryEvent} (h : event ∈ windowEvents since backends db) :
    event ∈ windowEvents since none db := by
  rw [windowEvents, List.mem_filter] at h ⊢
  exact ⟨h.1, by simpa using (Bool.and_eq_true_iff.1 h.2).1⟩

/-! ## The rollup -/

/-- There is no problem when each count is zero. -/
theorem forall_count_eq_zero_iff {routes : MonitoringRoutes} : (∀ problem : RouteProblem, problem.count routes = 0) ↔
    routes.inactive = 0 ∧ routes.withLastFailure = 0 ∧ routes.withLastRejection = 0 ∧ routes.untestedActive = 0 := by
  refine ⟨fun h => ⟨h .inactive, h .lastFailed, h .lastRejected, h .untested⟩, fun h problem => ?_⟩
  cases problem with
  | inactive => exact h.1
  | lastFailed => exact h.2.1
  | lastRejected => exact h.2.2.1
  | untested => exact h.2.2.2

/-- The status is healthy when everything is. -/
theorem rollup_eq_ok_iff
    {databaseOk realMode botEnabled botReady lookupEnabled lookupReady deliveryEnabled deliveryReady : Bool}
    {routes : MonitoringRoutes} {window : MonitoringRollingWindow} :
    rollupStatus databaseOk realMode botEnabled botReady lookupEnabled lookupReady deliveryEnabled deliveryReady routes
      window = .ok ↔
      databaseOk = true ∧ (botEnabled = true → realMode = true → botReady = true) ∧
        (lookupEnabled = true → lookupReady = true) ∧ (deliveryEnabled = true → deliveryReady = true) ∧
        (∀ problem : RouteProblem, problem.count routes = 0) ∧ window.deliveryFailureCount = 0 ∧
        window.deliveryRejectionCount = 0 := by
  rw [forall_count_eq_zero_iff]
  unfold rollupStatus
  split
  · next h =>
    simp only [Bool.or_eq_true, Bool.and_eq_true, Bool.not_eq_true'] at h
    refine ⟨fun h => (by cases h), fun hok => ?_⟩
    rcases h with h | ⟨⟨hbot, hreal⟩, hready⟩
    · exact absurd hok.1 (by simp [h])
    · exact absurd (hok.2.1 hbot hreal) (by simp [hready])
  · next h =>
    simp only [Bool.or_eq_true, Bool.and_eq_true, Bool.not_eq_true', not_or, not_and, Bool.not_eq_false] at h
    split
    · next hwarn =>
      refine ⟨fun h => (by cases h), fun ⟨_, _, hlookup, hdelivery, hroutes, hwindow⟩ => ?_⟩
      simp only [hroutes, hwindow, bne_self_eq_false, Bool.or_false, Bool.or_eq_true, Bool.and_eq_true,
        Bool.not_eq_true'] at hwarn
      rcases hwarn with hwarn | hwarn
      · exact absurd (hlookup hwarn.1) (by simp [hwarn.2])
      · exact absurd (hdelivery hwarn.1) (by simp [hwarn.2])
    · next hwarn =>
      simp only [Bool.or_eq_true, Bool.and_eq_true, Bool.not_eq_true', bne_iff_ne, not_or, not_and, Bool.not_eq_false,
        not_not] at hwarn
      obtain ⟨⟨⟨⟨⟨⟨⟨hlookup, hdelivery⟩, hinactive⟩, hfailed⟩, hrejected⟩, huntested⟩, hfailures⟩, hrejections⟩ := hwarn
      exact ⟨fun _ => ⟨h.1, fun hbot hreal => h.2 ⟨hbot, hreal⟩, hlookup, hdelivery,
        ⟨hinactive, hfailed, hrejected, huntested⟩, hfailures, hrejections⟩, fun _ => rfl⟩

/-! ## Readiness -/

variable {P : Platform} {s : AuthSettings} {snapshots : List AuthDiagnosticSnapshot} {failure : Option MonitoringFailure}

/-- The report tells whether the bot is enabled. -/
theorem monitoringBot_enabled : (monitoringBot P s snapshots db).enabled = s.botFrameworkEnabled := by
  unfold monitoringBot
  split
  · next h => exact h.symm
  · next h => exact (Bool.eq_false_iff.2 h).symm

/-- The report tells whether the Graph lookup is enabled. -/
theorem monitoringGraphLookup_enabled : (monitoringGraphLookup P s snapshots db).enabled = s.graphLookupEnabled := by
  unfold monitoringGraphLookup
  split
  · next h => exact h.symm
  · next h => exact (Bool.eq_false_iff.2 h).symm

/-- The report tells whether delivery through Graph is enabled, which needs the lookup. -/
theorem monitoringGraphDelivery_enabled :
    (monitoringGraphDelivery P s.toSettings failure db).enabled = (s.graphDeliveryEnabled && s.graphLookupEnabled) := by
  unfold monitoringGraphDelivery monitoringStatusGraphDelivery monitoringGraphDeliveryReadiness
  split
  · rfl
  · split
    · next h => split <;> exact h.symm
    · next h => exact (Bool.eq_false_iff.2 h).symm

/-! ## The details -/

/-- The routes that are told are of the table, and no more of them have a problem than are counted. -/
theorem problemRouteNames_length_le : (problemRouteNames (problemRoutes db) problem).length ≤ problem.count
    (routeCounts none db) := by
  rw [problemRouteNames, List.length_map, ← List.countP_eq_length_filter, problemRoutes, List.countP_map,
    count_routeCounts, countedRoutes_none]
  calc _ ≤ _ := (List.take_sublist _ _).countP_le
    _ = _ := (List.perm_insertionSort _ _).countP_eq _
    _ ≤ _ := List.filter_sublist.countP_le

/-- A name that is reported is that of a route with the problem. -/
theorem exists_of_problemRouteNames {name : String} (h : name ∈ problemRouteNames (problemRoutes db) problem) :
    ∃ route ∈ db.routes, route.name = name ∧ problem.affects route.problemRoute = true := by
  obtain ⟨told, htold, rfl⟩ := List.mem_map.1 h
  obtain ⟨htold, hproblem⟩ := List.mem_filter.1 htold
  obtain ⟨route, hroute, rfl⟩ := List.mem_map.1 htold
  have hmem := (List.mem_insertionSort _).1 (List.mem_of_mem_take hroute)
  exact ⟨route, (List.mem_filter.1 hmem).1, rfl, hproblem⟩

/-- Without a detail of the routes, none has a problem. -/
theorem count_eq_zero_of_details {routes : MonitoringRoutes} {told : List MonitoringProblemRoute}
    (h : prtgRouteProblemDetails routes told = []) (problem : RouteProblem) : problem.count routes = 0 := by
  unfold prtgRouteProblemDetails at h
  rw [List.flatMap_eq_nil_iff] at h
  have hproblem := h problem (by cases problem <;> decide)
  by_contra hcount
  rw [if_pos hcount] at hproblem
  cases hproblem

/-- A list that is told under a condition is empty only without it. -/
theorem not_of_told {condition : Prop} [Decidable condition] {detail : String}
    (h : (if condition then [detail] else []) = []) : ¬condition := fun hcondition => by
  rw [if_pos hcondition] at h
  cases h

/-- What it takes that there are no details. -/
theorem of_no_details {out : MonitoringStatus} (h : prtgStatusDetails out = []) :
    out.database.ok = true ∧ (out.readiness.bot.enabled = true → out.readiness.bot.ready = true) ∧
      (out.readiness.graphLookup.enabled = true → out.readiness.graphLookup.ready = true) ∧
      (out.readiness.graphDelivery.enabled = true → out.readiness.graphDelivery.ready = true) ∧
      (∀ problem : RouteProblem, problem.count out.routes = 0) ∧
      (out.window "5m").deliveryFailureCount = 0 ∧ (out.window "5m").deliveryRejectionCount = 0 := by
  unfold prtgStatusDetails at h
  split at h
  · next hcritical => exact absurd h hcritical.2
  · simp only [List.append_eq_nil_iff, prtgCriticalDetails] at h
    obtain ⟨⟨⟨⟨⟨hdatabase, hbot⟩, hlookup⟩, hdelivery⟩, hroutes⟩, hwindow⟩ := h
    have hdatabase := not_of_told hdatabase
    have hbot := not_of_told hbot
    have hlookup := not_of_told hlookup
    have hdelivery := not_of_told hdelivery
    have hwindow := not_of_told hwindow
    simp only [Bool.and_eq_true, Bool.not_eq_true', not_and, Bool.not_eq_false, not_or, not_not]
      at hdatabase hbot hlookup hdelivery hwindow
    exact ⟨hdatabase, hbot, hlookup, hdelivery, count_eq_zero_of_details hroutes, hwindow⟩

end MonitoringAux

open MonitoringAux in
/-- The status is given to who sends the key after the scheme `Bearer`, and to no one when no key is configured. -/
theorem monitoring_key_required (P : Platform) (monitoringApiKey : String) (authorization : Option String) :
    requireMonitoringApiKey P monitoringApiKey authorization = .ok () ↔
      Python.strip monitoringApiKey ≠ "" ∧ isAscii (Python.strip monitoringApiKey) = true ∧
        ∃ scheme, P.lower scheme = "bearer" ∧ ' ' ∉ scheme.toList ∧
          authorization = some (scheme ++ " " ++ Python.strip monitoringApiKey) := by
  unfold requireMonitoringApiKey
  generalize Python.strip monitoringApiKey = expected
  constructor
  · intro h
    by_cases hexpected : expected = ""
    · rw [if_pos hexpected] at h
      cases h
    rw [if_neg hexpected] at h
    rcases splitFirst_blank (authorization.getD "") with ⟨-, hsplit⟩ | ⟨scheme, token, hscheme, hheader, hsplit⟩
    · rw [hsplit] at h
      simp [throw, throwThe, MonadExceptOf.throw, bind, Except.bind] at h
    · simp only [hsplit, Option.getD_some] at h
      by_cases hrefused : (P.lower scheme != "bearer" || token == "") = true
      · rw [if_pos hrefused] at h
        cases h
      · rw [if_neg hrefused] at h
        obtain ⟨same, hsame, h⟩ := Except.bind_eq_ok_iff.1 h
        cases same with
        | false => cases h
        | true =>
          obtain ⟨hascii, rfl⟩ := compareDigest_eq_ok_true hsame
          simp only [Bool.or_eq_true, bne_iff_ne, beq_iff_eq, not_or, not_not] at hrefused
          refine ⟨hexpected, hascii, scheme, hrefused.1, hscheme, ?_⟩
          cases authorization with
          | none =>
            have hempty : Python.splitFirst "" " " = none := by decide
            cases hempty.symm.trans hsplit
          | some header => exact congrArg some hheader
  · rintro ⟨hexpected, hascii, scheme, hlower, hblank, rfl⟩
    have hsplit : Python.splitFirst (scheme ++ " " ++ expected) " " = some (scheme, expected) :=
      Python.splitFirst_append String.toList_ofList hblank _
    simp [hexpected, hsplit, hlower, compareDigest, hascii, bind, Except.bind, pure, Except.pure]

open MonitoringAux in
/-- A status is `ok` exactly when the tables could be read, each service that is in use is ready, no route of an enabled
backend has a problem, and no delivery of the last five minutes failed or was rejected, except those of routes of other
backends. -/
theorem monitoring_ok_iff (P : Platform) (s : AuthSettings) (c : MonitoringContext)
    (snapshots : List AuthDiagnosticSnapshot) (db : Database) :
    (buildMonitoringStatus P s c snapshots db).status = .ok ↔
      c.failure = none ∧ (s.botFrameworkEnabled = true → s.realBotDelivery P = true →
        (monitoringBot P s snapshots db).ready = true) ∧
        (s.graphLookupEnabled = true → (monitoringGraphLookup P s snapshots db).ready = true) ∧
        (s.graphDeliveryEnabled = true → s.graphLookupEnabled = true →
          (monitoringStatusGraphDelivery P s.toSettings db).ready = true) ∧
        (∀ route ∈ db.routes, route.deliveryBackend ∈ enabledDeliveryBackends s.toSettings → route.isProblem = false) ∧
        ∀ event ∈ db.events, c.generatedAt - minutes 5 ≤ event.createdAt →
          (event.routeId = none ∨ ∃ route, db.routeOf event = some route ∧
            route.deliveryBackend ∈ enabledDeliveryBackends s.toSettings) →
          event.status ≠ .failed ∧ event.status ≠ .rejected := by
  refine rollup_eq_ok_iff.trans ((and_congr_left' beq_iff_eq).trans (and_congr_right fun hfailure => ?_))
  refine and_congr_right fun _ => and_congr_right fun _ => and_congr ?_ (and_congr ?_ ?_)
  · simp [hfailure, monitoringGraphDelivery]
  · simp [hfailure, counts_eq_zero_iff, countedRoutes]
  · simp only [hfailure, beq_self_eq_true, if_true, window_eq_zero_iff, windowEvents, List.mem_filter, Bool.and_eq_true,
      decide_eq_true_eq, Option.all_some, Bool.or_eq_true, beq_iff_eq, Option.any_eq_true, List.contains_iff_mem, and_imp]

open MonitoringAux in
/-- Whatever the tables, the settings and the failures are, the text of a status that is not `ok` gives a reason; the
routes it names have the problem it names them for, and are not more than it counts. -/
theorem monitoring_problem_explained (P : Platform) (s : AuthSettings) (c : MonitoringContext)
    (snapshots : List AuthDiagnosticSnapshot) (db : Database) :
    ((buildMonitoringStatus P s c snapshots db).status ≠ .ok →
      prtgStatusDetails (buildMonitoringStatus P s c snapshots db) ≠ []) ∧
      ∀ problem : RouteProblem,
        (problemRouteNames (buildMonitoringStatus P s c snapshots db).problemRoutes problem).length ≤
            problem.count (buildMonitoringStatus P s c snapshots db).routes ∧
          ∀ name ∈ problemRouteNames (buildMonitoringStatus P s c snapshots db).problemRoutes problem,
            ∃ route ∈ db.routes, route.name = name ∧ problem.affects route.problemRoute = true := by
  constructor
  · intro hstatus hdetails
    obtain ⟨hdatabase, hbot, hlookup, hdelivery, hroutes, hwindow⟩ := of_no_details hdetails
    refine hstatus (rollup_eq_ok_iff.2 ?_)
    have hread : (c.failure == none) = true := by
      simp only [buildMonitoringStatus] at hdatabase
      by_contra hfailure
      rw [if_neg hfailure] at hdatabase
      cases hdatabase
    simp only [buildMonitoringStatus, hread, if_true] at hroutes hwindow ⊢
    refine ⟨trivial, fun henabled _ => hbot ?_, fun henabled => hlookup ?_, fun henabled => hdelivery ?_,
      fun problem => count_eq_zero_of_none (hroutes problem), window_eq_zero_iff.2 fun event hevent => ?_⟩
    · exact monitoringBot_enabled.trans henabled
    · exact monitoringGraphLookup_enabled.trans henabled
    · exact monitoringGraphDelivery_enabled.trans henabled
    · exact window_eq_zero_iff.1 hwindow event (mem_windowEvents_none hevent)
  · intro problem
    by_cases hread : (c.failure == none) = true
    · simp only [buildMonitoringStatus, hread, if_true]
      exact ⟨problemRouteNames_length_le, fun name => exists_of_problemRouteNames⟩
    · simp only [buildMonitoringStatus, hread]
      exact ⟨Nat.zero_le _, fun name hname => by cases hname⟩

/-- A sensor has the same channels at every status, and no two of them have the same name. -/
theorem prtgChannels_names (out out' : MonitoringStatus) :
    (prtgChannels out).map (·.channel) = (prtgChannels out').map (·.channel) ∧
    ((prtgChannels out).map (·.channel)).Nodup := by
  have hnames : (prtgChannels out).map (·.channel) = (prtgChannels out').map (·.channel) := rfl
  refine ⟨hnames, ?_⟩
  have hclosed : (prtgChannels out).map (·.channel) =
      ["Service State", "Database OK", "Bot Ready", "Graph Lookup Ready", "Graph Delivery Ready", "Routes Total",
        "Routes Active", "Routes Inactive", "Routes Last Failed", "Routes Last Rejected", "Routes Untested Active",
        "Deliveries 5m Success", "Deliveries 5m Failed", "Deliveries 5m Rejected", "Success Rate 5m",
        "Deliveries 15m Success", "Deliveries 15m Failed", "Deliveries 15m Rejected", "Success Rate 15m",
        "Deliveries 1h Success", "Deliveries 1h Failed", "Deliveries 1h Rejected",
        "Success Rate 1h"] := rfl
  rw [hclosed]
  decide

end TeamsRehook
