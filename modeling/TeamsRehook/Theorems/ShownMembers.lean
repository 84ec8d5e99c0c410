import TeamsRehook.Lemmas.RowOrigins

/-!
# Shown members and their target

The members that a route shows, and the conversation or chat they were fetched for. A history carries a log of the
fetches that its steps have made: for which target, and what they gave.
-/

namespace TeamsRehook

/-- What members are fetched for: a conversation of the bot, or a chat in Graph. -/
inductive MemberTarget where
  | conversation (conversationId : String)
  | chat (chatId : String)
  deriving DecidableEq, Repr

/-- The members as they are shown. -/
structure MemberData where
  memberSummary : String := ""
  memberCount : Nat := 0
  memberListJson : String := "[]"
  deriving DecidableEq, Repr

/-- What was fetched, as it is shown. -/
def ConversationMembers.data (members : ConversationMembers) : MemberData :=
  ⟨members.memberSummary, members.memberCount, members.memberListJson⟩

/-- The members of a reference. -/
def BotConversationReference.memberData (reference : BotConversationReference) : MemberData :=
  ⟨reference.memberSummary, reference.memberCount, reference.memberListJson⟩

/-- The members of a route. -/
def WebhookRoute.memberData (route : WebhookRoute) : MemberData :=
  ⟨route.memberSummary, route.memberCount, route.memberListJson⟩

/-- The conversation of a reference. -/
def BotConversationReference.memberTarget (reference : BotConversationReference) : MemberTarget :=
  .conversation (Python.strip reference.conversationId)

/-- The conversation or chat a route delivers to, if it delivers to one. -/
def WebhookRoute.memberTarget (route : WebhookRoute) : Option MemberTarget :=
  if routeDeliveryBackend route = "graph" then
    if Python.strip route.graphTargetKind = "chat" then some (.chat (Python.strip route.graphTargetId)) else none
  else if routeDeliveryBackend route = "bot_framework" then some (.conversation (Python.strip route.botConversationId))
  else none

/-! ## The fetches of a history -/

/-- The fetches that were made, with what they gave. -/
abbrev FetchLog := List (MemberTarget × MemberData)

/-- The fetch for a target, if one is made, when it gives members. -/
def fetchesOf (target : Option MemberTarget) (fetched : Except Exn ConversationMembers) : FetchLog :=
  match target, fetched with
  | some target, .ok members => [(target, members.data)]
  | _, _ => []

/-- What `_refresh_route_members` fetches the members of. -/
def WebhookRoute.fetchTarget (route : WebhookRoute) : Option MemberTarget :=
  let backend := routeDeliveryBackend route
  if backend == "graph" && Python.strip route.graphTargetKind == "chat" then
    some (.chat (Python.strip route.graphTargetId))
  else if backend == "bot_framework" && Python.strip route.botServiceUrl != "" &&
    Python.strip route.botConversationId != "" then
    some (.conversation (Python.strip route.botConversationId))
  else none

/-- What `_refresh_reference_chat_members` fetches the members of. -/
def BotConversationReference.fetchTarget (P : Platform) (now : Int) (force : Bool)
    (reference : BotConversationReference) : Option MemberTarget :=
  if refreshesChatMembers P now force reference then some reference.memberTarget else none

/-- The fetches of `_upsert_reference`. -/
def capturedFetches (P : Platform) (run : BotRun) (captured : Captured) (db : Database) : FetchLog :=
  if captured.conversationId = "" ∨ captured.serviceUrl = "" then []
  else
    match tryResolveReferenceGraphNames run.referenceNames false
      ((db.referenceToCapture run.now captured.conversationId).captures P run.now captured) with
    | .ok reference => fetchesOf (reference.fetchTarget P run.now false) run.members
    | .error _ => []

/-- The fetches of a step. -/
def RouteStep.fetches (P : Platform) (db : Database) : RouteStep → FetchLog
  | .activity _ run body =>
    match activityOfBody P body with
    | .ok (some sent) => capturedFetches P run (extractActivity P sent) db
    | _ => []
  | .refreshMembers _ fetched _ organizationId routeId =>
    match getOrgRoute organizationId routeId db with
    | .ok route => fetchesOf route.fetchTarget fetched
    | .error _ => []
  | .refreshReferenceMembers now force fetched referenceId =>
    match db.references.find? (·.id == referenceId) with
    | some reference => fetchesOf (reference.fetchTarget P now force) fetched
    | none => []
  | _ => []

/-- The tables and the fetches made so far. -/
abbrev FetchedState := Database × FetchLog

/-- The fetches of a step of a live history. -/
def LiveStep.fetches (P : Platform) (db : Database) : LiveStep → FetchLog
  | .routes step => step.fetches P db
  | .regenerate _ _ _ => []

/-- One step of a live history, with the fetches it makes. -/
def fetchedStep (P : Platform) (x : FetchedState) (step : LiveStep) : Option FetchedState :=
  (liveStep P x.1 step).map fun db => (db, x.2 ++ step.fetches P x.1)

namespace ShownMembersAux

variable {P : Platform} {db db' : Database} {log log' : FetchLog} {route row old : WebhookRoute}
  {reference changed : BotConversationReference}

/-! ## Data that was fetched -/

/-- There are no members, or they were fetched for the target. -/
def Backed (log : FetchLog) (target : Option MemberTarget) (data : MemberData) : Prop :=
  data = {} ∨ ∃ fetched, target = some fetched ∧ (fetched, data) ∈ log

theorem Backed.mono {target : Option MemberTarget} {data : MemberData} (h : Backed log target data) (hlog : log ⊆ log') :
    Backed log' target data := by
  rcases h with h | ⟨fetched, htarget, hmem⟩
  · exact .inl h
  · exact .inr ⟨fetched, htarget, hlog hmem⟩

/-- The members of a route are those of its target. -/
def RouteBacked (log : FetchLog) (route : WebhookRoute) : Prop := Backed log route.memberTarget route.memberData

/-- The members of a reference are those of its conversation. -/
def ReferenceBacked (log : FetchLog) (reference : BotConversationReference) : Prop :=
  Backed log (some reference.memberTarget) reference.memberData

/-- The members of all rows are those of their targets. -/
structure MembersLaw (x : FetchedState) : Prop where
  routes : ∀ route ∈ x.1.routes, RouteBacked x.2 route
  references : ∀ reference ∈ x.1.references, ReferenceBacked x.2 reference

/-! ## References -/

/-- Names from Graph change neither the members nor the conversation. -/
theorem resolveReference_members (G : GraphNames) (force : Bool) (reference : BotConversationReference) :
    (resolveReferenceGraphNames G force reference).1.memberData = reference.memberData ∧
      (resolveReferenceGraphNames G force reference).1.memberTarget = reference.memberTarget :=
  resolveReferenceGraphNames_invariant (I := fun row => row.memberData = reference.memberData ∧
    row.memberTarget = reference.memberTarget)
    G force ⟨rfl, rfl⟩ (fun _ _ _ h => h) (fun _ _ _ h => h) fun _ _ _ h => h

/-- A refresh keeps the members, or replaces them with those it has fetched. -/
theorem referenceBacked_refresh {now : Int} {force : Bool} {fetched : Except Exn ConversationMembers}
    (h : ReferenceBacked log reference)
    (hrefresh : refreshReferenceChatMembers P now force fetched reference = .ok changed) :
    ReferenceBacked (log ++ fetchesOf (reference.fetchTarget P now force) fetched) changed := by
  have hkept := Backed.mono h (List.subset_append_left log (fetchesOf (reference.fetchTarget P now force) fetched))
  unfold refreshReferenceChatMembers at hrefresh
  split at hrefresh
  next hrefreshes =>
    split at hrefresh
    next members =>
      obtain rfl := Except.ok.inj hrefresh
      refine .inr ⟨_, rfl, List.mem_append_right _ ?_⟩
      rw [BotConversationReference.fetchTarget, if_pos hrefreshes]
      exact List.mem_singleton_self _
    next =>
      obtain rfl := Except.ok.inj hrefresh
      exact hkept
    next =>
      obtain rfl := Except.ok.inj hrefresh
      exact hkept
    next => nomatch hrefresh
  next =>
    obtain rfl := Except.ok.inj hrefresh
    exact hkept

/-- The reference that an activity leaves, from those before. -/
theorem referenceBacked_captures {run : BotRun} {captured : Captured}
    (h : ∀ reference ∈ db.references, ReferenceBacked log reference)
    (hcaptures : CapturesReference P run captured db reference) :
    ReferenceBacked (log ++ capturedFetches P run captured db) reference := by
  obtain ⟨hconversation, hservice, named, hnamed, hfound⟩ := hcaptures
  have hloaded : ReferenceBacked log (db.referenceToCapture run.now captured.conversationId) := by
    rcases (db.referenceToCapture_cases run.now captured.conversationId).1 with hstored | hnew
    · exact h _ hstored
    · rw [hnew]
      exact .inl rfl
  have hnamedBacked : ReferenceBacked log named := by
    obtain ⟨hdata, htarget⟩ := resolveReference_members run.referenceNames false
      ((db.referenceToCapture run.now captured.conversationId).captures P run.now captured)
    rw [Changed.eq_of_try hnamed]
    unfold ReferenceBacked
    rw [hdata, htarget]
    exact hloaded
  have hfetches : capturedFetches P run captured db = fetchesOf (named.fetchTarget P run.now false) run.members := by
    unfold capturedFetches
    rw [if_neg (not_or.2 ⟨hconversation, hservice⟩), hnamed]
  rw [hfetches]
  exact referenceBacked_refresh hnamedBacked hfound

/-! ## Routes -/

/-- Routes with the same key deliver to the same target: the key separates targets. -/
theorem memberTarget_of_key (h : routeMemberTargetKey route = routeMemberTargetKey row) :
    route.memberTarget = row.memberTarget := by
  unfold routeMemberTargetKey at h
  unfold WebhookRoute.memberTarget
  dsimp only at h
  by_cases hroute : routeDeliveryBackend route = "graph"
  · by_cases hrow : routeDeliveryBackend row = "graph"
    · rw [if_pos hroute, if_pos hrow] at h
      obtain ⟨-, h⟩ := Prod.mk.inj h
      obtain ⟨hkind, h⟩ := Prod.mk.inj h
      rw [if_pos hroute, if_pos hrow, hkind, (Prod.mk.inj h).1]
    · rw [if_pos hroute, if_neg hrow] at h
      exact absurd ((Prod.mk.inj h).1.symm.trans hroute) hrow
  · by_cases hrow : routeDeliveryBackend row = "graph"
    · rw [if_neg hroute, if_pos hrow] at h
      exact absurd ((Prod.mk.inj h).1.trans hrow) hroute
    · rw [if_neg hroute, if_neg hrow] at h
      obtain ⟨hbackend, h⟩ := Prod.mk.inj h
      obtain ⟨-, h⟩ := Prod.mk.inj h
      rw [if_neg hroute, if_neg hrow, hbackend, (Prod.mk.inj h).1]

/-- The moment of a change does not matter to the members. -/
theorem routeBacked_updatedAt (t : Int) (h : RouteBacked log route) : RouteBacked log { route with updatedAt := t } := h

/-- Names from Graph change neither the members nor the target. -/
theorem routeBacked_renamed (h : RouteBacked log route) (hrow : route.RenamedFrom row) : RouteBacked log row := by
  obtain ⟨teamName, name, rfl⟩ := hrow
  exact h

/-- A user becomes a chat, with the members as they are. -/
theorem memberData_materialize {run : RouteRun} (h : materializeGraphUserTarget run route = .ok row) :
    row.memberData = route.memberData := by
  unfold materializeGraphUserTarget at h
  split at h
  · obtain rfl := Except.ok.inj h
    rfl
  · dsimp only at h
    split at h
    · nomatch h
    · split at h
      · nomatch h
      · nomatch h
      · obtain rfl := Except.ok.inj h
        rfl

/-- The members of an edited route are cleared when its target is another one. -/
theorem routeBacked_settle (h : RouteBacked log old) (hdata : row.memberData = old.memberData) :
    RouteBacked log (settleMembers old row) := by
  unfold settleMembers
  by_cases hkey : routeMemberTargetKey row = routeMemberTargetKey old
  · rw [if_neg (not_not_intro hkey)]
    unfold RouteBacked
    rw [hdata, memberTarget_of_key hkey]
    exact h
  · rw [if_pos hkey]
    exact .inl rfl

theorem memberData_access (mode allowlist : String) :
    WebhookRoute.memberData { route with clientIpAccessMode := mode, clientIpAllowlist := allowlist } =
    route.memberData := rfl

/-- What the checks of an endpoint leave, when the members are settled behind them. -/
theorem routeBacked_checkedRoute {s : Settings} {run : RouteRun} {settled : WebhookRoute → WebhookRoute}
    (hsettled : ∀ chat : WebhookRoute, chat.memberData = route.memberData → RouteBacked log (settled chat))
    (h : checkedRoute P s run settled route = .ok row) : RouteBacked log row := by
  obtain ⟨mode, allowlist, chat, -, hchat, hnamed, -⟩ := checkedRoute_eq_ok h
  have hdata := (memberData_materialize hchat).trans (memberData_access mode allowlist)
  have hbacked := hsettled chat hdata
  rcases hnamed with ⟨-, hrow⟩ | hrow
  · rw [hrow]
    exact routeBacked_renamed hbacked (resolveRouteGraphNames_renamed run.names false (settled chat))
  · rw [hrow]
    exact hbacked

/-- The members that are fetched are those of the target that the route delivers to. -/
theorem fetchTarget_of_hasMembers (h : route.hasMembers = true) :
    ∃ target, route.memberTarget = some target ∧ route.fetchTarget = some target := by
  unfold WebhookRoute.hasMembers at h
  unfold WebhookRoute.memberTarget WebhookRoute.fetchTarget
  dsimp only
  by_cases hchat : (routeDeliveryBackend route == "graph" && Python.strip route.graphTargetKind == "chat") = true
  · obtain ⟨hbackend, hkind⟩ := Bool.and_eq_true_iff.1 hchat
    exact ⟨_, by rw [if_pos (beq_iff_eq.1 hbackend), if_pos (beq_iff_eq.1 hkind)], if_pos hchat⟩
  · have hconversation := (Bool.or_eq_true_iff.1 h).resolve_left hchat
    have hbackend := beq_iff_eq.1 (Bool.and_eq_true_iff.1 (Bool.and_eq_true_iff.1 hconversation).1).1
    refine ⟨_, by rw [if_neg (by rw [hbackend]; decide), if_pos hbackend], ?_⟩
    rw [if_neg hchat, if_pos hconversation]

/-- A refresh keeps the members, or replaces them with those it has fetched. -/
theorem routeBacked_refresh {now : Int} {fetched : Except Exn ConversationMembers} {valueErrorText : String}
    (h : RouteBacked log route) (hrefresh : refreshRouteMembers now fetched valueErrorText route = .ok row) :
    RouteBacked (log ++ fetchesOf route.fetchTarget fetched) row := by
  have hkept := Backed.mono h (List.subset_append_left log (fetchesOf route.fetchTarget fetched))
  unfold refreshRouteMembers at hrefresh
  split at hrefresh
  next hmembers =>
    split at hrefresh
    next members =>
      obtain rfl := Except.ok.inj hrefresh
      obtain ⟨target, htarget, hfetch⟩ := fetchTarget_of_hasMembers hmembers
      refine .inr ⟨target, htarget, List.mem_append_right _ ?_⟩
      rw [hfetch]
      exact List.mem_singleton_self _
    next e =>
      split at hrefresh
      · obtain rfl := Except.ok.inj hrefresh
        exact hkept
      · nomatch hrefresh
  next =>
    obtain rfl := Except.ok.inj hrefresh
    exact hkept

/-- A registered route delivers to the conversation of the reference whose members it takes over. -/
theorem routeBacked_registered {captured : Captured} {found : BotConversationReference} (now : Int) (route : WebhookRoute)
    (hsame : (capturedWithReference captured found).conversationId = found.conversationId)
    (h : ReferenceBacked log found) :
    RouteBacked log (registeredRoute P now (capturedWithReference captured found) found route) := by
  have hbackend : routeDeliveryBackend (registeredRoute P now (capturedWithReference captured found) found route) =
      "bot_framework" := by
    change Python.orElse (Python.strip "bot_framework") "bot_framework" = "bot_framework"
    decide +kernel
  have htarget : (registeredRoute P now (capturedWithReference captured found) found route).memberTarget =
      some found.memberTarget := by
    unfold WebhookRoute.memberTarget BotConversationReference.memberTarget
    rw [if_neg (by rw [hbackend]; decide), if_pos hbackend, ← hsame]
    rfl
  unfold RouteBacked
  rw [htarget]
  exact h

/-! ## Steps -/

theorem MembersLaw.mono (h : MembersLaw (db, log)) (hlog : log ⊆ log') : MembersLaw (db, log') :=
  ⟨fun route hroute => (h.routes route hroute).mono hlog, fun reference hreference =>
    (h.references reference hreference).mono hlog⟩

/-- A refresh of the members of a route. -/
theorem membersLaw_refreshMembers (P : Platform) {now : Int} {fetched : Except Exn ConversationMembers}
    {valueErrorText : String} {organizationId routeId : Nat} (h : MembersLaw (db, log)) :
    MembersLaw (committed db (refreshWebhookRouteMembers now fetched valueErrorText organizationId routeId db),
      log ++ RouteStep.fetches P db (.refreshMembers now fetched valueErrorText organizationId routeId)) := by
  have hkept := h.mono (List.subset_append_left log
    (RouteStep.fetches P db (.refreshMembers now fetched valueErrorText organizationId routeId)))
  cases hrefresh : refreshWebhookRouteMembers now fetched valueErrorText organizationId routeId db with
  | error e => exact hkept
  | ok db' =>
    obtain ⟨route, hroute, hrefresh⟩ := Except.bind_eq_ok_iff.1 hrefresh
    obtain ⟨row, hrow, hrefresh⟩ := Except.bind_eq_ok_iff.1 hrefresh
    obtain rfl := Except.ok.inj hrefresh
    have hfetches : RouteStep.fetches P db (.refreshMembers now fetched valueErrorText organizationId routeId) =
        fetchesOf route.fetchTarget fetched := by
      simp only [RouteStep.fetches, hroute]
    refine ⟨fun route' hroute' => ?_, hkept.references⟩
    rcases mem_routes_storeRoute hroute' with hold | ⟨old, -, -, hnew⟩
    · exact hkept.routes route' hold
    · have hbacked := routeBacked_refresh (h.routes route (mem_of_getOrgRoute hroute).1) hrow
      rw [hnew, hfetches]
      exact hbacked

/-- A refresh of the members of a reference. -/
theorem membersLaw_refreshReferenceMembers {now : Int} {force : Bool} {fetched : Except Exn ConversationMembers}
    {referenceId : Nat} (h : MembersLaw (db, log)) :
    MembersLaw (committed db (refreshBotConversationReferenceMembers P now force fetched referenceId db),
      log ++ RouteStep.fetches P db (.refreshReferenceMembers now force fetched referenceId)) := by
  have hkept := h.mono (List.subset_append_left log
    (RouteStep.fetches P db (.refreshReferenceMembers now force fetched referenceId)))
  cases hrefresh : refreshBotConversationReferenceMembers P now force fetched referenceId db with
  | error e => exact hkept
  | ok db' =>
    unfold refreshBotConversationReferenceMembers at hrefresh
    split at hrefresh
    · nomatch hrefresh
    next reference hreference =>
      obtain ⟨changed, hchanged, hrefresh⟩ := Except.bind_eq_ok_iff.1 hrefresh
      obtain rfl := Except.ok.inj hrefresh
      have hfetches : RouteStep.fetches P db (.refreshReferenceMembers now force fetched referenceId) =
          fetchesOf (reference.fetchTarget P now force) fetched := by
        simp only [RouteStep.fetches, hreference]
      refine ⟨hkept.routes, fun row hrow => ?_⟩
      obtain ⟨old, hold, hnew⟩ := Table.mem_update.1 hrow
      split at hnew
      · have hbacked := referenceBacked_refresh (h.references reference (List.mem_of_find?_eq_some hreference)) hchanged
        rw [hnew, hfetches]
        exact hbacked
      · rw [hnew]
        exact hkept.references old hold

/-- The steps that refresh members. -/
def Refreshes : LiveStep → Prop
  | .routes (.refreshMembers _ _ _ _ _) => True
  | .routes (.refreshReferenceMembers _ _ _ _) => True
  | _ => False

theorem conversationId_captured {run : BotRun} {captured : Captured} (h : CapturesReference P run captured db reference) :
    (capturedWithReference captured reference).conversationId = reference.conversationId := by
  obtain ⟨hconversation, -, named, hnamed, hfound⟩ := h
  have hloaded := (db.referenceToCapture_cases run.now captured.conversationId).2
  have hsame := (BotConversationReference.sameConversation_resolve run.referenceNames false
    ((db.referenceToCapture run.now captured.conversationId).captures P run.now captured)).conversationId
  rw [← Changed.eq_of_try hnamed] at hsame
  have hid : reference.conversationId = captured.conversationId :=
    ((BotConversationReference.sameConversation_refresh hfound).conversationId.trans hsame).trans hloaded
  rw [hid]
  exact if_neg hconversation

/-- What a reference comes from, when the step refreshes no members. -/
theorem referenceBacked_of_origin {step : LiveStep} (h : MembersLaw (db, log)) (hstep : ¬Refreshes step)
    (horigin : ReferenceOrigin P db step reference) : ReferenceBacked (log ++ step.fetches P db) reference := by
  have hkept := h.mono (List.subset_append_left log (step.fetches P db))
  cases horigin with
  | kept hold => exact hkept.references _ hold
  | @captured s run body activity _ hbody hcaptures =>
    have hfetches : LiveStep.fetches P db (.routes (.activity s run body)) =
        capturedFetches P run (extractActivity P activity) db := by
      simp only [LiveStep.fetches, RouteStep.fetches, hbody]
    rw [hfetches]
    exact referenceBacked_captures h.references hcaptures
  | membersRefreshed _ _ _ => exact absurd trivial hstep
  | @namesRefreshed _ _ G _ old t hold =>
    obtain ⟨hdata, htarget⟩ := resolveReference_members G true old
    have hbacked := hkept.references old hold
    unfold ReferenceBacked at hbacked
    rw [← hdata, ← htarget] at hbacked
    exact hbacked

/-- What a route comes from, when the step refreshes no members. -/
theorem routeBacked_of_origin {step : LiveStep} (h : MembersLaw (db, log)) (hstep : ¬Refreshes step)
    (horigin : RouteOrigin P db step route) : RouteBacked (log ++ step.fetches P db) route := by
  have hkept := h.mono (List.subset_append_left log (step.fetches P db))
  cases horigin with
  | kept hold => exact hkept.routes _ hold
  | @activated _ _ _ old _ t hold => exact hkept.routes old hold
  | @accessSet _ _ _ old _ _ t hold _ => exact hkept.routes old hold
  | @registered s run body activity found argument old row t hbody hcommand hfound hroute hrow =>
    have hfetches : LiveStep.fetches P db (.routes (.activity s run body)) =
        capturedFetches P run (extractActivity P activity) db := by
      simp only [LiveStep.fetches, RouteStep.fetches, hbody]
    have hreference := referenceBacked_captures h.references hfound
    have hbacked := routeBacked_renamed (routeBacked_registered run.now old (conversationId_captured hfound) hreference)
      (tryResolveRouteGraphNames_renamed hrow)
    rw [hfetches]
    exact routeBacked_updatedAt t hbacked
  | @created s run organizationId payload row t haccepted hrow =>
    -- a new route has no members
    exact routeBacked_updatedAt t (routeBacked_checkedRoute (fun chat hchat => .inl hchat) hrow)
  | @updated _ _ _ _ payload old row t hold hid haccepted hrow =>
    have hdata : (payload.apply old).memberData = old.memberData := rfl
    exact routeBacked_updatedAt t
      (routeBacked_checkedRoute (fun chat hchat => routeBacked_settle (hkept.routes old hold) (hchat.trans hdata)) hrow)
  | membersRefreshed _ _ _ => exact absurd trivial hstep
  | @namesRefreshed _ _ G _ old t hold _ =>
    exact routeBacked_updatedAt t (routeBacked_renamed (hkept.routes old hold)
      (resolveRouteGraphNames_renamed G true old))
  | @routeNamesRefreshed _ _ G _ _ old t hold _ =>
    exact routeBacked_updatedAt t (routeBacked_renamed (hkept.routes old hold)
      (resolveRouteGraphNames_renamed G true old))
  | @regenerated _ _ _ old t hold => exact hkept.routes old hold

/-- Every step of a live history keeps the members of all rows those of their targets. -/
theorem membersLaw_step {x x' : FetchedState} {step : LiveStep} (h : MembersLaw x)
    (hstep : fetchedStep P x step = some x') : MembersLaw x' := by
  obtain ⟨db', hlive, rfl⟩ := Option.map_eq_some_iff.1 hstep
  by_cases hrefreshes : Refreshes step
  · cases step with
    | regenerate now routeId routeToken => exact absurd hrefreshes id
    | routes step =>
      cases step with
      | refreshMembers now fetched valueErrorText organizationId routeId =>
        obtain rfl := Option.some.inj hlive
        exact membersLaw_refreshMembers P h
      | refreshReferenceMembers now force fetched referenceId =>
        obtain rfl := Option.some.inj hlive
        exact membersLaw_refreshReferenceMembers h
      | _ => exact absurd hrefreshes id
  · have horigins := rowOrigins_of_step hlive
    exact ⟨fun route hroute => routeBacked_of_origin h hrefreshes (horigins.routes route hroute),
      fun reference hreference => referenceBacked_of_origin h hrefreshes (horigins.references reference hreference)⟩

end ShownMembersAux

open ShownMembersAux Transition

/-- In every run of live operations, from tables without members, a route that has members delivers to a conversation or
a chat, and they are what a fetch of the run gave for it. -/
theorem shown_members_fetched {P : Platform} {db db' : Database} {log : FetchLog} {steps : List LiveStep}
    (hroutes : ∀ route ∈ db.routes, route.memberData = {})
    (hreferences : ∀ reference ∈ db.references, reference.memberData = {})
    (h : exec (fetchedStep P) (db, []) steps = some (db', log)) :
    ∀ route ∈ db'.routes, route.memberData ≠ {} → ∃ target, route.memberTarget = some target ∧
    (target, route.memberData) ∈ log := by
  have hstart : MembersLaw (db, []) :=
    ⟨fun route hroute => .inl (hroutes route hroute), fun reference hreference => .inl (hreferences reference hreference)⟩
  have hlaw := exec_invariant (I := MembersLaw) (fun _ _ _ h hstep => membersLaw_step h hstep) hstart h
  intro route hroute hmembers
  rcases hlaw.routes route hroute with hnone | hfetched
  · exact absurd hnone hmembers
  · exact hfetched

/-! ## Fixed inputs -/

/-- Requests for routes when no service answers. -/
def chatRouteRun : RouteRun where
  now := 0
  oneOnOneChat _ _ _ := .error .valueError
  routeToken := "route-token"

/-- A route to a conversation of the bot. -/
def chatRoute : WebhookRouteCreate where
  name := "alerts"
  targetName := "Team chat"
  botServiceUrl := "https://smba.example"
  botConversationId := "19:first"

/-- The conversation has one member. -/
def adaMembers : ConversationMembers := .ofMembers .plain [memberFromRaw [("name", .str "Ada")]]

/-- The route is created and its members are fetched; then its target is changed, and the members of the new one cannot
be fetched. -/
def memberSteps : List LiveStep :=
  [.routes (.create {} chatRouteRun 1 chatRoute), .routes (.refreshMembers 1 (.ok adaMembers) "" 1 3),
    .routes (.update {} chatRouteRun 1 3 { botConversationId := some "19:second" }),
    .routes (.refreshMembers 2 (.error (.botConversationMembers "not found")) "" 1 3)]

/-- The members are shown until the target changes. -/
theorem shown_members_fetched_ada :
    ∃ db log, exec (fetchedStep .plain) (adaDatabase, []) (memberSteps.take 2) = some (db, log) ∧
      db.routes.map (·.memberData) = [adaMembers.data] ∧ log = [(.conversation "19:first", adaMembers.data)] ∧
      ∀ route ∈ db.routes, route.memberData ≠ {} → ∃ target, route.memberTarget = some target ∧
      (target, route.memberData) ∈ log := by
  obtain ⟨db, log, h, hdata, hlog⟩ : ∃ db log, exec (fetchedStep .plain) (adaDatabase, []) (memberSteps.take 2) =
      some (db, log) ∧ db.routes.map (·.memberData) = [adaMembers.data] ∧
      log = [(.conversation "19:first", adaMembers.data)] :=
    ⟨_, _, rfl, by decide +kernel, by decide +kernel⟩
  exact ⟨db, log, h, hdata, hlog, shown_members_fetched (by simp [adaDatabase]) (by simp [adaDatabase]) h⟩

/-- Behind the change of the target no members are shown. -/
example : (exec (fetchedStep .plain) (adaDatabase, []) memberSteps).map (fun x => x.1.routes.map (·.memberData)) =
    some [{}] := by
  decide +kernel

end TeamsRehook
