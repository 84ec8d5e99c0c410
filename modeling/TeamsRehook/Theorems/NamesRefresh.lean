import TeamsRehook.Webhook.Administration
import TeamsRehook.Lib.Except

/-!
# Refreshing the names from Graph

A refresh leaves the names that Graph gives, and a second one finds nothing to change.
-/

namespace TeamsRehook

/-- A name is what a lookup gives, which has to end and may give none. -/
def NameFrom (look : Except Exn String) (name : String) : Prop := ∃ found, look = .ok found ∧ (found ≠ "" → name = found)

/-- The names of a reference are those that Graph gives. -/
structure BotConversationReference.NamedFrom (G : GraphNames) (r : BotConversationReference) : Prop where
  team : r.graphTeamId ≠ "" → NameFrom (safeTeamName G r.graphTeamId) r.teamName
  channel : r.graphTeamId ≠ "" → r.channelId ≠ "" → NameFrom (safeChannelName G r.graphTeamId r.channelId) r.channelName
  user : r.graphUserId ≠ "" → NameFrom (safeUserName G r.graphUserId) r.userName

/-- What Graph gives as the name of a route's channel, nothing when the route has none. -/
def WebhookRoute.channelLookup (G : GraphNames) (route : WebhookRoute) : Except Exn String :=
  if route.graphTeamId ≠ "" ∧ route.graphChannelId ≠ "" then safeChannelName G route.graphTeamId route.graphChannelId
  else .ok ""

/-- The names of a route are those that Graph gives: the name of its team, and of its target, which for a channel has
both names. -/
structure WebhookRoute.NamedFrom (G : GraphNames) (route : WebhookRoute) : Prop where
  team : route.graphTeamId ≠ "" → NameFrom (safeTeamName G route.graphTeamId) route.graphTeamName
  target : ∃ channelName, route.channelLookup G = .ok channelName ∧
    (route.graphTargetKind = "channel" → route.graphTeamName ≠ "" → channelName ≠ "" →
      route.targetName = route.graphTeamName ++ " / " ++ channelName)
  teamTarget : route.graphTargetKind = "team" → route.graphTeamName ≠ "" → route.targetName = route.graphTeamName
  userTarget : route.graphTargetKind = "user" → route.graphTargetId ≠ "" →
    NameFrom (safeUserName G route.graphTargetId) route.targetName

namespace NamesRefreshAux

variable {G : GraphNames} {ρ : Type}

/-! ## One name -/

/-- A lookup that ended has set the name that it found, or left the one there was. -/
theorem named_eq_ok {wanted : Bool} {look : Except Exn String} {set : String → ρ} {row row' : ρ} {old : String}
    (hold : set old = row) (h : named wanted look set row = (row', none)) :
    ∃ name, row' = set name ∧ (wanted = true → NameFrom look name) := by
  unfold named at h
  split at h
  · split at h
    · next found =>
      obtain ⟨rfl, -⟩ := Prod.mk.inj h
      by_cases hempty : found = ""
      · exact ⟨old, by rw [if_pos hempty, hold], fun _ => ⟨found, rfl, fun hne => (hne hempty).elim⟩⟩
      · exact ⟨found, if_neg hempty, fun _ => ⟨found, rfl, fun _ => rfl⟩⟩
    · cases h
  · next hwanted =>
    obtain ⟨rfl, -⟩ := Prod.mk.inj h
    exact ⟨old, hold.symm, fun h => (hwanted h).elim⟩

/-- A name that the lookup gives is not changed. -/
theorem named_of_nameFrom {wanted : Bool} {look : Except Exn String} {set : String → ρ} {row : ρ} {name : String}
    (hset : set name = row) (h : wanted = true → NameFrom look name) : named wanted look set row = (row, none) := by
  unfold named
  split
  · next hwanted =>
    obtain ⟨found, rfl, hfound⟩ := h hwanted
    by_cases hempty : found = ""
    · simp [hempty]
    · simp [← hfound hempty, hset]
  · rfl

/-- Two changes raise nothing when neither does. -/
theorem andThen_eq_ok {x : Changed ρ} {f : ρ → Changed ρ} {row : ρ} (h : x.andThen f = (row, none)) :
    ∃ between, x = (between, none) ∧ f between = (row, none) := by
  unfold Changed.andThen at h
  split at h
  · next hnone => exact ⟨x.1, Prod.ext rfl hnone, h⟩
  · cases h

/-! ## References -/

/-- A reference that is refreshed has the names that Graph gives. -/
theorem namedFrom_resolveReference {r r' : BotConversationReference}
    (h : resolveReferenceGraphNames G true r = (r', none)) : r'.NamedFrom G := by
  obtain ⟨r₂, h₂, h₃⟩ := andThen_eq_ok h
  obtain ⟨r₁, h₁, h₂⟩ := andThen_eq_ok h₂
  obtain ⟨team, rfl, hteam⟩ := named_eq_ok rfl h₁
  obtain ⟨channel, rfl, hchannel⟩ := named_eq_ok rfl h₂
  obtain ⟨user, rfl, huser⟩ := named_eq_ok rfl h₃
  exact ⟨fun h => hteam (by simp [h]), fun h h' => hchannel (by simp [h, h']), fun h => huser (by simp [h])⟩

/-- A reference that has them stays as it is. -/
theorem resolveReference_of_namedFrom {r : BotConversationReference} (h : r.NamedFrom G) :
    resolveReferenceGraphNames G true r = (r, none) := by
  unfold resolveReferenceGraphNames
  rw [named_of_nameFrom rfl fun hwanted => h.team (by simpa using hwanted)]
  dsimp only [Changed.andThen]
  rw [named_of_nameFrom rfl fun hwanted => ?_]
  · dsimp only
    rw [named_of_nameFrom rfl fun hwanted => h.user (by simpa using hwanted)]
  · simp only [Bool.true_or, Bool.and_true, Bool.and_eq_true, bne_iff_ne] at hwanted
    exact h.channel hwanted.1 hwanted.2

/-- The time of a row does not matter for its names. -/
theorem namedFrom_flushed {now : Int} {r r' : BotConversationReference} (h : r'.NamedFrom G) :
    (r.flushed now r').NamedFrom G :=
  ⟨h.team, h.channel, h.user⟩

/-! ## Routes -/

/-- The rest of the resolution, when the name of the team is known. -/
def resolveChannel (G : GraphNames) (route : WebhookRoute) : Changed WebhookRoute :=
  match route.channelLookup G with
  | .ok channelName => resolveTargetName G true channelName route
  | .error e => (route, some e)

/-- A route takes the name of its team and then that of its channel. -/
theorem resolveRoute_eq (r : WebhookRoute) : resolveRouteGraphNames G true r =
    (named (r.graphTeamId != "" && (true || r.graphTeamName == "")) (safeTeamName G r.graphTeamId)
      (fun name => { r with graphTeamName := name }) r).andThen (resolveChannel G) := by
  unfold resolveRouteGraphNames
  dsimp only [Bool.true_or]
  refine congrArg (Changed.andThen _) (funext fun route => ?_)
  unfold resolveChannel
  cases hchannel : route.channelLookup G <;> unfold WebhookRoute.channelLookup at hchannel <;> simp [hchannel]

/-- A route with a new target name has the names that Graph gives. -/
theorem namedFrom_resolveTarget {r r' : WebhookRoute} {channelName : String}
    (hchannel : r.channelLookup G = .ok channelName)
    (hteam : r.graphTeamId ≠ "" → NameFrom (safeTeamName G r.graphTeamId) r.graphTeamName)
        (h : resolveTargetName G true channelName r = (r', none)) : r'.NamedFrom G := by
  unfold resolveTargetName at h
  split at h
  · next hkind =>
    obtain ⟨rfl, -⟩ := Prod.mk.inj h
    refine ⟨hteam, ⟨channelName, hchannel, fun _ _ _ => rfl⟩, fun h => ?_, fun h => ?_⟩
    · exact absurd (hkind.1.symm.trans h) (by decide)
    · exact absurd (hkind.1.symm.trans h) (by decide)
  · next hchannelKind =>
    split at h
    · next hkind =>
      obtain ⟨rfl, -⟩ := Prod.mk.inj h
      refine ⟨hteam, ⟨channelName, hchannel, fun h => ?_⟩, fun _ _ => rfl, fun h => ?_⟩
      · exact absurd (hkind.1.symm.trans h) (by decide)
      · exact absurd (hkind.1.symm.trans h) (by decide)
    · next hteamKind =>
      obtain ⟨name, rfl, huser⟩ := named_eq_ok rfl h
      exact ⟨hteam, ⟨channelName, hchannel, fun h h' h'' => (hchannelKind ⟨h, h', h''⟩).elim⟩, fun h h' =>
        (hteamKind ⟨h, h'⟩).elim, fun (hkind : r.graphTargetKind = "user") (hid : r.graphTargetId ≠ "") =>
          huser (by simp [hkind, hid])⟩

/-- A route that is refreshed has the names that Graph gives. -/
theorem namedFrom_resolveRoute {r r' : WebhookRoute} (h : resolveRouteGraphNames G true r = (r', none)) :
    r'.NamedFrom G := by
  rw [resolveRoute_eq] at h
  obtain ⟨r₁, h₁, h₂⟩ := andThen_eq_ok h
  obtain ⟨team, rfl, hteam⟩ := named_eq_ok rfl h₁
  unfold resolveChannel at h₂
  split at h₂
  · next channelName hchannel => exact namedFrom_resolveTarget hchannel (fun h => hteam (by simp [h])) h₂
  · cases h₂

/-- Setting the name that a route has changes nothing. -/
theorem setTargetName_eq {r : WebhookRoute} {name : String} (h : r.targetName = name) :
    { r with targetName := name } = r := by
  subst h
  rfl

/-- A route that has the names stays as it is. -/
theorem resolveRoute_of_namedFrom {r : WebhookRoute} (h : r.NamedFrom G) :
    resolveRouteGraphNames G true r = (r, none) := by
  obtain ⟨channelName, hchannel, htarget⟩ := h.target
  rw [resolveRoute_eq, named_of_nameFrom rfl fun hwanted => h.team (by simpa using hwanted)]
  simp only [Changed.andThen, resolveChannel, hchannel, resolveTargetName]
  split
  · next hkind => rw [setTargetName_eq (htarget hkind.1 hkind.2.1 hkind.2.2)]
  · split
    · next hkind => rw [setTargetName_eq (h.teamTarget hkind.1 hkind.2)]
    · refine named_of_nameFrom rfl fun hwanted => ?_
      simp only [Bool.true_or, Bool.and_true, Bool.and_eq_true, beq_iff_eq, bne_iff_ne] at hwanted
      exact h.userTarget hwanted.1 hwanted.2

/-! ## Tables -/

/-- A change that raises nothing gives its row. -/
theorem raised_eq_ok {x : Changed ρ} {row : ρ} (h : x.raised = .ok row) : x = (row, none) := by
  unfold Changed.raised at h
  split at h
  · next hnone =>
    cases h
    exact Prod.ext rfl hnone
  · cases h

/-- A step over the rows that leaves each in a state which it does not change. -/
theorem mapM_settled {f f' : ρ → Except Exn ρ} {rows rows' : List ρ} (h : rows.mapM f = .ok rows')
    (hsettled : ∀ row row', f row = .ok row' → f' row' = .ok row') : rows'.mapM f' = .ok rows' := by
  refine Except.mapM_eq_ok_iff.2 ?_
  have hrows := Except.mapM_eq_ok_iff.1 h
  clear h
  induction hrows with
  | nil => exact .nil
  | cons hrow _ ih => exact .cons (hsettled _ _ hrow) ih

/-- Each resulting row comes from one of the rows. -/
theorem mem_of_mapM {f : ρ → Except Exn ρ} {rows rows' : List ρ} (h : rows.mapM f = .ok rows') {row' : ρ}
    (hmem : row' ∈ rows') : ∃ row, f row = .ok row' := by
  have hrows := Except.mapM_eq_ok_iff.1 h
  clear h
  induction hrows with
  | nil => cases hmem
  | cons hrow _ ih =>
    rcases List.mem_cons.1 hmem with rfl | hmem
    · exact ⟨_, hrow⟩
    · exact ih hmem

/-- After a refresh, a reference has the names that Graph gives. -/
theorem reference_settled {now : Int} {r r' : BotConversationReference}
    (h : (resolveReferenceGraphNames G true r).raised.map (r.flushed now) = .ok r') : r'.NamedFrom G := by
  obtain ⟨changed, hchanged, rfl⟩ := Except.map_eq_ok_iff.1 h
  exact namedFrom_flushed (namedFrom_resolveReference (raised_eq_ok hchanged))

/-- A second refresh leaves the reference. -/
theorem reference_kept {r : BotConversationReference} (h : r.NamedFrom G) (now : Int) :
    (resolveReferenceGraphNames G true r).raised.map (r.flushed now) = .ok r := by
  rw [resolveReference_of_namedFrom h]
  exact congrArg Except.ok (by simp [BotConversationReference.flushed])

/-- After a refresh, a route has the names that Graph gives. -/
theorem route_settled {now : Int} {r r' : WebhookRoute}
    (h : (resolveRouteGraphNames G true r).raised.map (r.flushed now) = .ok r') : r'.NamedFrom G := by
  obtain ⟨changed, hchanged, rfl⟩ := Except.map_eq_ok_iff.1 h
  have hnamed := namedFrom_resolveRoute (raised_eq_ok hchanged)
  exact ⟨hnamed.team, hnamed.target, hnamed.teamTarget, hnamed.userTarget⟩

/-- A second refresh leaves the route. -/
theorem route_kept {r : WebhookRoute} (h : r.NamedFrom G) (now : Int) :
    (resolveRouteGraphNames G true r).raised.map (r.flushed now) = .ok r := by
  rw [resolveRoute_of_namedFrom h]
  exact congrArg Except.ok (by simp [WebhookRoute.flushed])

/-- A refresh succeeds when that of every row does. -/
theorem refresh_eq_ok_iff {s : Settings} {now : Int} {organizationId : Nat} {db db' : Database} :
    refreshWebhookRouteGraphNames s now G organizationId db = .ok db' ↔
      ensureGraphLookupEnabled s = .ok () ∧ ∃ references routes,
        (db.references.mapM fun r => (resolveReferenceGraphNames G true r).raised.map (r.flushed now)) = .ok references ∧
        (db.routes.mapM fun r => if r.organizationId = organizationId then
          (resolveRouteGraphNames G true r).raised.map (r.flushed now) else .ok r) = .ok routes ∧
        db' = { db with references := references, routes := routes } := by
  unfold refreshWebhookRouteGraphNames
  constructor
  · intro h
    obtain ⟨_, henabled, h⟩ := Except.bind_eq_ok_iff.1 h
    obtain ⟨references, hreferences, h⟩ := Except.bind_eq_ok_iff.1 h
    obtain ⟨routes, hroutes, h⟩ := Except.bind_eq_ok_iff.1 h
    cases h
    exact ⟨henabled, references, routes, hreferences, hroutes, rfl⟩
  · rintro ⟨henabled, references, routes, hreferences, hroutes, rfl⟩
    exact Except.bind_eq_ok_iff.2 ⟨_, henabled,
      Except.bind_eq_ok_iff.2 ⟨_, hreferences, Except.bind_eq_ok_iff.2 ⟨_, hroutes, rfl⟩⟩⟩

end NamesRefreshAux

open NamesRefreshAux in
/-- After a refresh of the names, those of every reference and of every route of the organization are what Graph gives,
and a second refresh, at any time, changes nothing while Graph gives the same. -/
theorem names_refresh_settles {s : Settings} {now : Int} {G : GraphNames} {organizationId : Nat} {db db' : Database}
    (h : refreshWebhookRouteGraphNames s now G organizationId db = .ok db') :
    (∀ reference ∈ db'.references, reference.NamedFrom G) ∧
      (∀ route ∈ db'.routes, route.organizationId = organizationId → route.NamedFrom G) ∧
      ∀ later, refreshWebhookRouteGraphNames s later G organizationId db' = .ok db' := by
  obtain ⟨henabled, references, routes, hreferences, hroutes, rfl⟩ := refresh_eq_ok_iff.1 h
  have hroute : ∀ r r', (if r.organizationId = organizationId then
    (resolveRouteGraphNames G true r).raised.map (r.flushed now)
      else .ok r) = .ok r' → r'.organizationId = organizationId → r'.NamedFrom G := by
    intro r r' h horganization
    split at h
    · exact route_settled h
    · next hother =>
      cases h
      exact (hother horganization).elim
  refine ⟨fun r hr => ?_, fun r hr => ?_, fun later => refresh_eq_ok_iff.2 ⟨henabled, references, routes, ?_, ?_, rfl⟩⟩
  · obtain ⟨_, hr⟩ := mem_of_mapM hreferences hr
    exact reference_settled hr
  · obtain ⟨_, hr⟩ := mem_of_mapM hroutes hr
    exact hroute _ _ hr
  · exact mapM_settled hreferences fun r r' h => reference_kept (reference_settled h) later
  · refine mapM_settled hroutes fun r r' h => ?_
    split
    · next horganization => exact route_kept (hroute r r' h horganization) later
    · rfl

/-- Graph knows the team, the channel and the user. -/
def knownNames : GraphNames := ⟨fun _ => .ok "Operations", fun _ _ => .ok "Alerts", fun _ => .ok "Ada"⟩

/-- A conversation of a channel and a route to it, without names. -/
def unnamedTables : Database where
  references :=
    [{ id := 1, conversationId := "19:a", graphTeamId := "team", channelId := "channel", lastSeenAt := 0,
       updatedAt := 0 }]
  routes := [{
    id := 2
    organizationId := 1
    name := "alerts"
    routeTokenHash := "hash"
    graphTargetKind := "channel"
    graphTeamId := "team"
    graphChannelId := "channel" }]
  nextId := 3

/-- The route gets the names of its team and channel, and keeps them. -/
theorem names_refresh_settles_channel :
    ∃ db', refreshWebhookRouteGraphNames {} 5 knownNames 1 unnamedTables = .ok db' ∧
      db'.routes.map (·.targetName) = ["Operations / Alerts"] ∧
      (∀ reference ∈ db'.references, reference.NamedFrom knownNames) ∧
      (∀ route ∈ db'.routes, route.organizationId = 1 → route.NamedFrom knownNames) ∧
      ∀ later, refreshWebhookRouteGraphNames {} later knownNames 1 db' = .ok db' :=
  have h : refreshWebhookRouteGraphNames {} 5 knownNames 1 unnamedTables = .ok _ := rfl
  ⟨_, h, rfl, names_refresh_settles h⟩

end TeamsRehook
