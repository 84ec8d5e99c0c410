import TeamsRehook.Delivery.AuthDiagnostics
import TeamsRehook.Delivery.GraphReadiness
import TeamsRehook.Lib.Python
import TeamsRehook.Webhook.DeliveryLog

/-!
# Monitoring

`routers/monitoring.py`: the key that a monitoring system calls with, the status that is rolled up from the readiness of
the services, the routes and the last deliveries, and the channels and the text that a PRTG sensor shows of it.
-/

namespace TeamsRehook

/-- `require_monitoring_api_key`, with the `monitoring_api_key` of the settings and the `Authorization` header. -/
def requireMonitoringApiKey (P : Platform) (monitoringApiKey : String) (authorization : Option String) :
    Except Exn Unit := do
  let expected := Python.strip monitoringApiKey
  if expected = "" then
    throw (.http 503 "Monitoring API key is not configured")
  let (scheme, token) := (Python.splitFirst (authorization.getD "") " ").getD (authorization.getD "", "")
  if P.lower scheme != "bearer" || token == "" then
    throw (.http 401 "Invalid monitoring API key")
  if !(← compareDigest token expected) then
    throw (.http 401 "Invalid monitoring API key")

/-! ## What is counted -/

/-- `MonitoringRoutesOut`. -/
structure MonitoringRoutes where
  total : Nat := 0
  active : Nat := 0
  inactive : Nat := 0
  withLastFailure : Nat := 0
  withLastRejection : Nat := 0
  untestedActive : Nat := 0
  deriving DecidableEq, Repr

/-- `MonitoringRollingWindowOut`, with the rate in thousandths. -/
structure MonitoringRollingWindow where
  deliverySuccessCount : Nat := 0
  deliveryFailureCount : Nat := 0
  deliveryRejectionCount : Nat := 0
  successRate : Option Nat := none
  deriving DecidableEq, Repr

/-- `MonitoringDeliveriesOut`. -/
structure MonitoringDeliveries where
  lastSuccessAt : Option Int := none
  lastFailureAt : Option Int := none
  lastRejectionAt : Option Int := none
  deriving DecidableEq, Repr

/-- `MonitoringProblemRouteOut`. -/
structure MonitoringProblemRoute where
  id : Nat
  name : String
  deliveryBackend : String
  isActive : Bool
  lastDeliveryStatus : Option DeliveryStatus
  lastDeliveryAt : Option Int
  deriving DecidableEq, Repr

/-- `_enabled_delivery_backends`. -/
def enabledDeliveryBackends (s : Settings) : List String :=
  (if s.botFrameworkEnabled then ["bot_framework"] else []) ++
    (if s.graphDeliveryEnabled && s.graphLookupEnabled then ["graph"] else [])

/-- `_route_counts`, of every route or of those with one of the backends. -/
def routeCounts (deliveryBackends : Option (List String)) (db : Database) : MonitoringRoutes :=
  let routes := db.routes.filter fun route => deliveryBackends.all (·.contains route.deliveryBackend)
  { total := routes.length
    active := routes.countP (·.isActive)
    inactive := routes.countP (!·.isActive)
    withLastFailure := routes.countP (·.lastDeliveryStatus == some .failed)
    withLastRejection := routes.countP (·.lastDeliveryStatus == some .rejected)
    untestedActive := routes.countP fun route => route.isActive && route.lastDeliveryStatus == none }

/-- The events that `_rolling_window` counts: with backends, those of no route and those whose route has one of them. -/
def windowEvents (since : Int) (deliveryBackends : Option (List String)) (db : Database) : List WebhookDeliveryEvent :=
  db.events.filter fun event => decide (since ≤ event.createdAt) &&
    deliveryBackends.all fun backends => event.routeId == none ||
    (db.routeOf event).any (backends.contains ·.deliveryBackend)

/-- `_rolling_window`, where `share` is what the floats give for `round(delivered / total, 3)`, in thousandths. -/
def rollingWindow (share : Nat → Nat → Nat) (since : Int) (deliveryBackends : Option (List String)) (db : Database) :
    MonitoringRollingWindow :=
  let events := windowEvents since deliveryBackends db
  let delivered := events.countP (·.status == .delivered)
  let failed := events.countP (·.status == .failed)
  let rejected := events.countP (·.status == .rejected)
  let total := delivered + failed + rejected
  { deliverySuccessCount := delivered
    deliveryFailureCount := failed
    deliveryRejectionCount := rejected
    successRate := if total = 0 then none else some (share delivered total) }

/-- `_last_delivery_at`. -/
def latestDeliveryAt (db : Database) (status : DeliveryStatus) : Option Int :=
  ((db.events.filter (·.status == status)).map (·.createdAt)).max?

/-- `_delivery_summary`. -/
def deliverySummary (db : Database) : MonitoringDeliveries where
  lastSuccessAt := latestDeliveryAt db .delivered
  lastFailureAt := latestDeliveryAt db .failed
  lastRejectionAt := latestDeliveryAt db .rejected

/-- `PROBLEM_ROUTE_LIMIT`. -/
def problemRouteLimit : Nat := 25

/-- Whether `_problem_routes` selects a route. -/
def WebhookRoute.isProblem (route : WebhookRoute) : Bool :=
  !route.isActive || [some .failed, some .rejected].contains route.lastDeliveryStatus ||
    (route.isActive && route.lastDeliveryStatus == none)

/-- What is told of a route with a problem. -/
def WebhookRoute.problemRoute (route : WebhookRoute) : MonitoringProblemRoute where
  id := route.id
  name := route.name
  deliveryBackend := route.deliveryBackend
  isActive := route.isActive
  lastDeliveryStatus := route.lastDeliveryStatus
  lastDeliveryAt := route.lastDeliveryAt

/-- `_problem_routes`. -/
def problemRoutes (db : Database) : List MonitoringProblemRoute :=
  (((db.routes.filter (·.isProblem)).insertionSort fun route route' => route'.updatedAt ≤ route.updatedAt).take
    problemRouteLimit).map
    (·.problemRoute)

/-! ## The status -/

/-- The texts `ok`, `warn` and `crit` of a status. -/
inductive RollupStatus where
  | ok | warn | crit
  deriving DecidableEq, Repr

/-- `_rollup_status`. -/
def rollupStatus (databaseOk realMode botEnabled botReady graphLookupEnabled graphLookupReady graphDeliveryEnabled : Bool)
    (graphDeliveryReady : Bool) (routes : MonitoringRoutes) (shortWindow : MonitoringRollingWindow) : RollupStatus :=
  if !databaseOk || (botEnabled && realMode && !botReady) then .crit
  else if (graphLookupEnabled && !graphLookupReady) || (graphDeliveryEnabled && !graphDeliveryReady) ||
    routes.inactive != 0 ||
      routes.withLastFailure != 0 || routes.withLastRejection != 0 || routes.untestedActive != 0 ||
      shortWindow.deliveryFailureCount != 0 || shortWindow.deliveryRejectionCount != 0 then .warn
  else .ok

/-- `MonitoringReadinessComponentOut`. -/
structure MonitoringReadinessComponent where
  enabled : Bool := true
  ready : Bool
  authStatus : String
  deriving DecidableEq, Repr

/-- `MonitoringReadinessOut`. -/
structure MonitoringReadiness where
  bot : MonitoringReadinessComponent
  graphLookup : MonitoringGraphReadinessOut
  graphDelivery : MonitoringGraphReadinessOut
  deriving DecidableEq, Repr

/-- `MonitoringDatabaseOut`. -/
structure MonitoringDatabase where
  ok : Bool
  message : String := ""
  deriving DecidableEq, Repr

/-- `MonitoringStatusOut`. -/
structure MonitoringStatus where
  ok : Bool
  status : RollupStatus
  service : String
  version : String
  generatedAt : Int
  database : MonitoringDatabase
  deliveryMode : String
  readiness : MonitoringReadiness
  routes : MonitoringRoutes
  deliveries : MonitoringDeliveries
  rollingWindows : List (String × MonitoringRollingWindow)
  problemRoutes : List MonitoringProblemRoute
  deriving DecidableEq, Repr

/-- `WINDOWS`. -/
def monitoringWindows : List (String × Int) := [("5m", minutes 5), ("15m", minutes 15), ("1h", hours 1)]

/-- Where an exception ends the reading of the tables: before the readiness of the delivery through Graph is known, or
after it. -/
inductive MonitoringFailure where
  | beforeReadiness | afterReadiness
  deriving DecidableEq, Repr

/-- What a status is made with, besides the settings and the tables: the name and the version of the app, the time, the
rounding of the floats, and the exception, if there is one. -/
structure MonitoringContext where
  appName : String := "Teams Rehook"
  appVersion : String := "0.1.0"
  generatedAt : Int
  share : Nat → Nat → Nat
  failure : Option MonitoringFailure := none

/-- The organization whose snapshots tell the readiness, with its snapshots: without an organization there are none. -/
def monitoredSnapshots (snapshots : List AuthDiagnosticSnapshot) (db : Database) : Nat × List AuthDiagnosticSnapshot :=
  match db.organizations.head? with
  | some organization => (organization.id, snapshots)
  | none => (0, [])

/-- The readiness of the bot in a status. -/
def monitoringBot (P : Platform) (s : AuthSettings) (snapshots : List AuthDiagnosticSnapshot) (db : Database) :
    MonitoringReadinessComponent :=
  if s.botFrameworkEnabled then
    let readiness := botReadiness P s (monitoredSnapshots snapshots db).1 (monitoredSnapshots snapshots db).2
    { enabled := true, ready := readiness.ready, authStatus := readiness.authStatus }
  else { enabled := false, ready := true, authStatus := "disabled" }

/-- The readiness of the Graph lookup in a status. -/
def monitoringGraphLookup (P : Platform) (s : AuthSettings) (snapshots : List AuthDiagnosticSnapshot) (db : Database) :
    MonitoringGraphReadinessOut :=
  if s.graphLookupEnabled then
    let readiness := graphLookupReadiness P s (monitoredSnapshots snapshots db).1 (monitoredSnapshots snapshots db).2
    { enabled := true, ready := readiness.ready, authStatus := readiness.authStatus,
      credentialSource := readiness.credentialSource }
  else { enabled := false, ready := true, authStatus := "disabled", credentialSource := "disabled" }

/-- The readiness of the delivery through Graph in a status: not known, when reading the tables fails first. -/
def monitoringGraphDelivery (P : Platform) (s : Settings) (failure : Option MonitoringFailure) (db : Database) :
    MonitoringGraphReadinessOut :=
  if failure = some .beforeReadiness then
    { enabled := s.graphDeliveryEnabled && s.graphLookupEnabled, ready := false, authStatus := "unknown",
      credentialSource := "missing" }
  else monitoringStatusGraphDelivery P s db

/-- `_build_monitoring_status`. -/
def buildMonitoringStatus (P : Platform) (s : AuthSettings) (c : MonitoringContext)
    (snapshots : List AuthDiagnosticSnapshot) (db : Database) : MonitoringStatus :=
  let enabledBackends := enabledDeliveryBackends s.toSettings
  let bot := monitoringBot P s snapshots db
  let graphLookup := monitoringGraphLookup P s snapshots db
  let graphDelivery := monitoringGraphDelivery P s.toSettings c.failure db
  let databaseOk := c.failure == none
  let status := rollupStatus databaseOk (s.realBotDelivery P) s.botFrameworkEnabled bot.ready s.graphLookupEnabled
    graphLookup.ready
    (s.graphDeliveryEnabled && s.graphLookupEnabled) graphDelivery.ready
    (if databaseOk then routeCounts (some enabledBackends) db else {})
    (if databaseOk then rollingWindow c.share (c.generatedAt - minutes 5) (some enabledBackends) db else {})
  { ok := status == .ok
    status := status
    service := c.appName
    version := c.appVersion
    generatedAt := c.generatedAt
    database := if databaseOk then { ok := true } else { ok := false, message := "Database check failed" }
    deliveryMode := deliveryMode P s.toSettings
    readiness := { bot := bot, graphLookup := graphLookup, graphDelivery := graphDelivery }
    routes := if databaseOk then routeCounts none db else {}
    deliveries := if databaseOk then deliverySummary db else {}
    rollingWindows := monitoringWindows.map fun window =>
      (window.1, if databaseOk then rollingWindow c.share (c.generatedAt - window.2) none db else {})
    problemRoutes := if databaseOk then problemRoutes db else [] }

/-- `status_out.rolling_windows.get(label, MonitoringRollingWindowOut())`. -/
def MonitoringStatus.window (out : MonitoringStatus) (label : String) : MonitoringRollingWindow :=
  (out.rollingWindows.lookup label).getD {}

/-! ## The text of a sensor -/

/-- `_format_problem_route_names`. -/
def formatProblemRouteNames (names : List String) (count : Nat) : String :=
  let visibleNames := names.take 3
  let remaining := count - visibleNames.length
  let formatted := ", ".intercalate visibleNames
  if remaining ≠ 0 then formatted ++ ", and " ++ toString remaining ++ " more" else formatted

/-- `_route_detail`. -/
def routeDetail (singular plural : String) (count : Nat) (names : List String) : String :=
  let label := if count = 1 then singular else plural
  if names = [] then toString count ++ " " ++ label
  else toString count ++ " " ++ label ++ ": " ++ formatProblemRouteNames names count

/-- A problem of a route that the text of a sensor tells. -/
inductive RouteProblem where
  | inactive | lastFailed | lastRejected | untested
  deriving DecidableEq, Repr

/-- How many routes have the problem. -/
def RouteProblem.count (routes : MonitoringRoutes) : RouteProblem → Nat
  | .inactive => routes.inactive
  | .lastFailed => routes.withLastFailure
  | .lastRejected => routes.withLastRejection
  | .untested => routes.untestedActive

/-- Whether a route that is told has the problem. -/
def RouteProblem.affects (route : MonitoringProblemRoute) : RouteProblem → Bool
  | .inactive => !route.isActive
  | .lastFailed => route.lastDeliveryStatus == some .failed
  | .lastRejected => route.lastDeliveryStatus == some .rejected
  | .untested => route.isActive && route.lastDeliveryStatus == none

/-- What is said of one route, and of several. -/
def RouteProblem.labels : RouteProblem → String × String
  | .inactive => ("route is inactive", "routes are inactive")
  | .lastFailed => ("route last failed", "routes last failed")
  | .lastRejected => ("route was last rejected", "routes were last rejected")
  | .untested => ("active route has not been tested yet", "active routes have not been tested yet")

/-- `_problem_route_names` of the routes with a problem. -/
def problemRouteNames (problemRoutes : List MonitoringProblemRoute) (problem : RouteProblem) : List String :=
  (problemRoutes.filter problem.affects).map (·.name)

/-- `_prtg_route_problem_details`. -/
def prtgRouteProblemDetails (routes : MonitoringRoutes) (problemRoutes : List MonitoringProblemRoute) : List String :=
  ([.inactive, .lastFailed, .lastRejected, .untested] : List RouteProblem).flatMap fun problem =>
    if problem.count routes ≠ 0 then
      [routeDetail problem.labels.1 problem.labels.2 (problem.count routes) (problemRouteNames problemRoutes problem)]
    else []

/-- The details that alone are told of a critical status. -/
def prtgCriticalDetails (out : MonitoringStatus) : List String :=
  (if !out.database.ok then ["the database check failed"] else []) ++
    (if out.readiness.bot.enabled && !out.readiness.bot.ready then
      ["bot delivery is not ready (" ++ out.readiness.bot.authStatus ++ ")"] else [])

/-- `_prtg_status_details`. -/
def prtgStatusDetails (out : MonitoringStatus) : List String :=
  let shortWindow := out.window "5m"
  if out.status = .crit ∧ prtgCriticalDetails out ≠ [] then prtgCriticalDetails out
  else
    prtgCriticalDetails out ++
      (if out.readiness.graphLookup.enabled && !out.readiness.graphLookup.ready then
        ["Graph lookup is not ready (" ++ out.readiness.graphLookup.authStatus ++ ")"] else []) ++
      (if out.readiness.graphDelivery.enabled && !out.readiness.graphDelivery.ready then
        ["Graph delivery is not ready (" ++ out.readiness.graphDelivery.authStatus ++ ")"] else []) ++
      prtgRouteProblemDetails out.routes out.problemRoutes ++
      (if shortWindow.deliveryFailureCount ≠ 0 ∨ shortWindow.deliveryRejectionCount ≠ 0 then
        ["recent webhook deliveries failed or were rejected in the last 5 minutes"] else [])

/-- `_prtg_status_message`. -/
def prtgStatusMessage (out : MonitoringStatus) : String :=
  if out.status = .ok then "All monitored components are ready and recent deliveries look healthy."
  else if prtgStatusDetails out ≠ [] then "; ".intercalate (prtgStatusDetails out) ++ "."
  else "Check the sensor channels for details."

/-- `_prtg_text`. -/
def prtgText (out : MonitoringStatus) : String :=
  let statusLabel := match out.status with
    | .ok => "OK"
    | .warn => "warning"
    | .crit => "critical"
  out.service ++ " " ++ statusLabel ++ ": " ++ prtgStatusMessage out

/-! ## The channels of a sensor -/

/-- A channel of a sensor; the value of a percentage is in tenths. -/
structure PrtgChannel where
  channel : String
  value : Nat
  unit : String
  customUnit : Option String := none
  valueLookup : Option String := none
  float : Option Nat := none
  decimalMode : Option String := none
  deriving DecidableEq, Repr

/-- `_prtg_count_channel`. -/
def prtgCountChannel (channel : String) (value : Nat) : PrtgChannel :=
  { channel := channel, value := value, unit := "Count" }

/-- `_prtg_boolean_channel`. -/
def prtgBooleanChannel (channel : String) (value : Bool) : PrtgChannel where
  channel := channel
  value := if value then 1 else 0
  unit := "Custom"
  customUnit := some "state"
  valueLookup := some "prtg.standardlookups.boolean.statetrueok"

/-- `_prtg_percent_channel`: a rate in thousandths is a percentage in tenths. -/
def prtgPercentChannel (channel : String) (successRate : Option Nat) : PrtgChannel where
  channel := channel
  value := successRate.getD 1000
  unit := "Percent"
  float := some 1
  decimalMode := some "All"

/-- `_prtg_service_state`. -/
def prtgServiceState : RollupStatus → Nat
  | .ok => 0
  | .warn => 1
  | .crit => 2

/-- `_prtg_channels`. -/
def prtgChannels (out : MonitoringStatus) : List PrtgChannel :=
  [{ channel := "Service State"
     value := prtgServiceState out.status
     unit := "Custom"
     customUnit := some "state"
     valueLookup := some "prtg.standardlookups.wmi.diskhealth.health" },
    prtgBooleanChannel "Database OK" out.database.ok,
    prtgBooleanChannel "Bot Ready" out.readiness.bot.ready,
    prtgBooleanChannel "Graph Lookup Ready" out.readiness.graphLookup.ready,
    prtgBooleanChannel "Graph Delivery Ready" out.readiness.graphDelivery.ready,
    prtgCountChannel "Routes Total" out.routes.total,
    prtgCountChannel "Routes Active" out.routes.active,
    prtgCountChannel "Routes Inactive" out.routes.inactive,
    prtgCountChannel "Routes Last Failed" out.routes.withLastFailure,
    prtgCountChannel "Routes Last Rejected" out.routes.withLastRejection,
    prtgCountChannel "Routes Untested Active" out.routes.untestedActive] ++
    monitoringWindows.flatMap fun window =>
      [prtgCountChannel ("Deliveries " ++ window.1 ++ " Success") (out.window window.1).deliverySuccessCount,
        prtgCountChannel ("Deliveries " ++ window.1 ++ " Failed") (out.window window.1).deliveryFailureCount,
        prtgCountChannel ("Deliveries " ++ window.1 ++ " Rejected") (out.window window.1).deliveryRejectionCount,
        prtgPercentChannel ("Success Rate " ++ window.1) (out.window window.1).successRate]

end TeamsRehook
