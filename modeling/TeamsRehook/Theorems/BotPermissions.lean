import TeamsRehook.Lemmas.Routes

/-!
# Permissions of bot commands

What an activity changes of the routes and the reveal tokens, and the permission of its sender that each change takes.
-/

namespace TeamsRehook

/-- Where a route delivers to. -/
structure RouteTarget where
  deliveryBackend : String
  targetType : String
  botServiceUrl : String
  botConversationId : String
  graphTargetKind : String
  graphTargetId : String
  graphTeamId : String
  graphChannelId : String
  deriving DecidableEq, Repr

/-- The target of a route. -/
def WebhookRoute.target (route : WebhookRoute) : RouteTarget :=
  ⟨route.deliveryBackend, route.targetType, route.botServiceUrl, route.botConversationId, route.graphTargetKind,
    route.graphTargetId, route.graphTeamId, route.graphChannelId⟩

/-- The permission to create a route in a conversation of the scope. -/
def ConversationScope.createPermission : ConversationScope → BotPermission
  | .team | .channel => .canCreateChannelRoutes
  | .user | .chat => .canCreatePrivateChatRoutes

/-- What a sender with some permissions may change of the routes from a conversation of the scope. -/
structure RouteLaw (scope : ConversationScope) (holds : BotPermission → Prop) (db db' : Database) : Prop where
  status : ∀ route ∈ db.routes, ∀ route' ∈ db'.routes, route'.id = route.id → route'.isActive ≠ route.isActive →
    holds .canManageRouteStatus
  removed : ∀ route ∈ db.routes, (∀ route' ∈ db'.routes, route'.id ≠ route.id) → holds .canDeleteRoutes
  access : ∀ route ∈ db.routes, ∀ route' ∈ db'.routes, route'.id = route.id →
    (route'.clientIpAccessMode ≠ route.clientIpAccessMode ∨ route'.clientIpAllowlist ≠ route.clientIpAllowlist) →
    holds .canManageAllowlist
  created : ∀ route' ∈ db'.routes, (∀ route ∈ db.routes, route.id ≠ route'.id) → holds scope.createPermission
  retargeted : ∀ route ∈ db.routes, ∀ route' ∈ db'.routes, route'.id = route.id → route'.target ≠ route.target →
    holds scope.createPermission

/-- What an activity may change, given what the tables before it say its sender may do: the routes and the reveal tokens
change as the permissions of the sender allow, and not at all when the activity is no command that the sender may run.
-/
structure BotCommandLaw (P : Platform) (s : Settings) (run : BotRun) (activity : List (String × Json))
    (db db' : Database) : Prop
    extends RouteLaw (scopeFor P (extractActivity P activity))
        (SenderHas P s run (extractActivity P activity) db) db db' where
  revealed : ∀ reveal ∈ db'.reveals, reveal ∉ db.reveals →
    SenderHas P s run (extractActivity P activity) db .canRevealWebhookUrls
  denied : ¬SenderMayRun P s run activity db → db'.routes = db.routes ∧ db'.reveals ⊆ db.reveals

/-- The activity is a `register` that its sender may run, but names an inactive route, whose status the sender may not
change. -/
def Reactivates (P : Platform) (s : Settings) (run : BotRun) (activity : List (String × Json)) (db : Database) : Prop :=
  ∃ argument organization route,
    commandOf P activity = some (.register, argument) ∧ argument ≠ "" ∧ argument.length ≤ 200 ∧
    (extractActivity P activity).serviceUrl ≠ "" ∧ (extractActivity P activity).conversationId ≠ "" ∧
    SenderHas P s run (extractActivity P activity) db (scopeFor P (extractActivity P activity)).createPermission ∧
    ¬SenderHas P s run (extractActivity P activity) db .canManageRouteStatus ∧
    db.organizations.find? (·.slug == s.defaultOrgSlug) = some organization ∧
    db.botRouteNamed organization.id argument = some route ∧ route.isActive = false

namespace BotPermissionsAux

/-- Nothing is asked for when a route with an id is the one there was. -/
theorem routeLaw_of_rows {scope : ConversationScope} {holds : BotPermission → Prop} {db db' : Database}
    (hrows : ∀ route ∈ db.routes, ∀ route' ∈ db'.routes, route'.id = route.id → route' = route)
    (hremoved : ∀ route ∈ db.routes, (∀ route' ∈ db'.routes, route'.id ≠ route.id) → holds .canDeleteRoutes)
    (hcreated : ∀ route' ∈ db'.routes, (∀ route ∈ db.routes, route.id ≠ route'.id) → holds scope.createPermission) :
    RouteLaw scope holds db db' where
  status route hr route' hr' hid hne := absurd (by rw [hrows route hr route' hr' hid]) hne
  removed := hremoved
  access route hr route' hr' hid hne := by
    rw [hrows route hr route' hr' hid] at hne
    simp at hne
  created := hcreated
  retargeted route hr route' hr' hid hne := absurd (by rw [hrows route hr route' hr' hid]) hne

/-- The same routes. -/
theorem routeLaw_of_same {scope : ConversationScope} {holds : BotPermission → Prop} {db db' : Database}
    (hkeys : db.RouteKeys) (h : db'.routes = db.routes) : RouteLaw scope holds db db' := by
  apply routeLaw_of_rows
  · exact fun route hr route' hr' hid => hkeys.unique.eq_of_mem (h ▸ hr') hr hid
  · exact fun route hr hgone => absurd rfl (hgone route (h ▸ hr))
  · exact fun route' hr' hnew => absurd rfl (hnew route' (h ▸ hr'))

/-- One stored route: the permissions that its changes take are there. -/
theorem routeLaw_of_store {scope : ConversationScope} {holds : BotPermission → Prop} {db : Database} {now : Int}
    {route changed : WebhookRoute} (hkeys : db.RouteKeys) (hroute : route ∈ db.routes) (hid : changed.id = route.id)
    (hstatus : changed.isActive ≠ route.isActive → holds .canManageRouteStatus)
    (haccess : changed.clientIpAccessMode ≠ route.clientIpAccessMode ∨
      changed.clientIpAllowlist ≠ route.clientIpAllowlist → holds .canManageAllowlist)
    (htarget : changed.target ≠ route.target → holds scope.createPermission) :
    RouteLaw scope holds db (storeRoute now changed db) where
  status row hrow row' hrow' hsame hne := by
    rcases storeRoute_row hkeys hroute hid hrow hrow' hsame with rfl | ⟨rfl, rfl⟩
    · exact absurd rfl hne
    · exact hstatus hne
  removed row hrow hgone := by
    obtain ⟨row', hrow', hsame⟩ := (exists_id_storeRoute row.id).2 ⟨row, hrow, rfl⟩
    exact absurd hsame (hgone row' hrow')
  access row hrow row' hrow' hsame hne := by
    rcases storeRoute_row hkeys hroute hid hrow hrow' hsame with rfl | ⟨rfl, rfl⟩
    · simp at hne
    · exact haccess hne
  created row' hrow' hnew := by
    obtain ⟨row, hrow, hsame⟩ := (exists_id_storeRoute row'.id).1 ⟨row', hrow', rfl⟩
    exact absurd hsame (hnew row hrow)
  retargeted row hrow row' hrow' hsame hne := by
    rcases storeRoute_row hkeys hroute hid hrow hrow' hsame with rfl | ⟨rfl, rfl⟩
    · exact absurd rfl hne
    · exact htarget hne

/-- The permission that `register` requires. -/
theorem requiredBotPermission_register (P : Platform) (argument : String) (captured : Captured) :
    requiredBotPermission P .register argument captured = some (scopeFor P captured).createPermission := by
  unfold requiredBotPermission
  cases scopeFor P captured <;> rfl

/-- What a handler changes of the routes takes the permission of its command, and the one to manage the status when it
activates an inactive route. -/
theorem routeLaw_of_effect {P : Platform} {run : BotRun} {organizationId : Nat} {captured : Captured}
    {reference : Option BotConversationReference} {argument : String} {command : BotCommand}
    {holds : BotPermission → Prop} {db db' : Database} (hkeys : db.RouteKeys)
    (hrequired : ∀ p, requiredBotPermission P command argument captured = some p → holds p)
    (hactivates : ∀ route, command = .register →
      ¬(argument = "" ∨ 200 < argument.length ∨ captured.serviceUrl = "" ∨ captured.conversationId = "") →
      db.botRouteNamed organizationId argument = some route → route.isActive = false →
      holds .canManageRouteStatus)
    (h : RouteEffect P run organizationId captured reference argument db command db') :
    RouteLaw (scopeFor P captured) holds db db' := by
  have hregister : command = .register → holds (scopeFor P captured).createPermission := by
    rintro rfl
    exact hrequired _ (requiredBotPermission_register P argument captured)
  cases h with
  | unchanged => exact routeLaw_of_same hkeys rfl
  | setActive isActive hcommand hroute =>
    refine routeLaw_of_store hkeys hroute rfl (fun _ => ?_) (by simp) (fun h => absurd rfl h)
    rcases hcommand with rfl | rfl
    · exact hrequired _ rfl
    · exact hrequired _ rfl
  | setAccess mode allowlist hroute hwrite =>
    refine routeLaw_of_store hkeys hroute rfl (fun h => absurd rfl h) (fun _ => ?_) (fun h => absurd rfl h)
    exact hrequired _ (by simp [requiredBotPermission, hwrite])
  | delete hroute =>
    apply routeLaw_of_rows
    · exact fun route hr route' hr' hid => hkeys.unique.eq_of_mem (Table.mem_delete.1 hr').1 hr hid
    · exact fun _ _ _ => hrequired _ rfl
    · exact fun route' hr' hnew => absurd rfl (hnew route' (Table.mem_delete.1 hr').1)
  | @update found route row hreference hchecked hroute hrow =>
    obtain ⟨teamName, name, rfl⟩ := tryResolveRouteGraphNames_renamed hrow
    refine routeLaw_of_store hkeys (List.mem_of_find?_eq_some hroute) rfl (fun hne => ?_) (by simp [registeredRoute])
      (fun _ => hregister rfl)
    apply hactivates route rfl hchecked hroute
    cases hactive : route.isActive with
    | false => rfl
    | true => exact absurd hactive.symm hne
  | @create _ found row hreference hroute hrow hinsert =>
    obtain ⟨hroutes, -, -⟩ := routes_insertRoute hinsert
    obtain ⟨teamName, name, hrenamed⟩ := tryResolveRouteGraphNames_renamed hrow
    have hid : row.id = db.nextId := by
      rw [hrenamed]
      simp only [registeredRoute, routeToRegister, hroute]
    apply routeLaw_of_rows
    · intro route hr route' hr' hsame
      rw [hroutes] at hr'
      rcases List.mem_append.1 hr' with hr' | hr'
      · exact hkeys.unique.eq_of_mem hr' hr hsame
      · obtain rfl := List.mem_singleton.1 hr'
        have hlt := hkeys.fresh route hr
        simp only at hsame
        omega
    · intro route hr hgone
      exact absurd rfl (hgone route (hroutes ▸ List.mem_append_left _ hr))
    · exact fun _ _ _ => hregister rfl

/-- A handler issues reveal tokens only for a sender who may see them. -/
theorem reveals_of_end {P : Platform} {s : Settings} {run : BotRun} {captured : Captured}
    {reference : Option BotConversationReference} {command : BotCommand} {argument : String}
    {permissions : BotPermissions} {db db' : Database}
    (hrequired : ∀ p, requiredBotPermission P command argument captured = some p → permissions.get p = true)
    (h : CommandEnd P s run captured reference command argument permissions db db') :
    ∀ reveal ∈ db'.reveals, reveal ∉ db.reveals → permissions.get .canRevealWebhookUrls = true := by
  intro reveal hreveal hnew
  obtain ⟨db₁, db₂, n, revealed, hstart, heffect, rfl, hpermitted, -⟩ := h.exists_effect
  cases revealed with
  | cons route routes =>
    rcases hpermitted (List.cons_ne_nil _ _) with rfl | hpermitted
    · exact hrequired _ rfl
    · exact hpermitted
  | nil =>
    exact absurd (hstart.sameRoutes.reveals ▸ heffect.reveals_subset hreveal) hnew

/-- The keys of the same routes. -/
theorem routeKeys_of_same {db db' : Database} (hkeys : db.RouteKeys) (h : SameRoutes db db') : db'.RouteKeys := by
  refine ⟨by rw [h.routes]; exact hkeys.unique, ?_, ?_⟩
  · rw [h.routes]
    exact fun route hroute => lt_of_lt_of_le (hkeys.fresh route hroute) h.nextId
  · rw [h.routes]
    exact fun route hroute => lt_of_lt_of_le (hkeys.organization route hroute) h.nextId

/-- What a law asks for depends on the routes only. -/
theorem routeLaw_congr {scope : ConversationScope} {holds : BotPermission → Prop} {db₁ db₂ db db' : Database}
    (h : RouteLaw scope holds db₁ db₂) (hdb : db₁.routes = db.routes) (hdb' : db'.routes = db₂.routes) :
    RouteLaw scope holds db db' := by
  refine ⟨?_, ?_, ?_, ?_, ?_⟩
  · rw [← hdb, hdb']
    exact h.status
  · rw [← hdb, hdb']
    exact h.removed
  · rw [← hdb, hdb']
    exact h.access
  · rw [← hdb, hdb']
    exact h.created
  · rw [← hdb, hdb']
    exact h.retargeted

/-- What the authorization of an activity finds is what the tables say of its sender. -/
theorem authorization_of_receive {P : Platform} {s : Settings} {run : BotRun} {activity : List (String × Json)}
    {db db' : Database} {authorization : Option BotCommandAuthorization} (hgrants : db.GrantKeys)
    (h : receiveActivity P s run activity db = .ok (db', authorization)) :
    (authorization = none → commandOf P activity = none) ∧
      ∀ a, authorization = some a → (a.allowed = true ↔ SenderMayRun P s run activity db) ∧
        ∀ p, a.permissions.get p = true ↔ SenderHas P s run (extractActivity P activity) db p := by
  obtain ⟨db₁, reference, hupsert, h⟩ := receiveActivity_cases h
  rcases h with ⟨hnone, -, rfl⟩ | ⟨command, argument, db₂, a, hcommand, rfl, hauthorize, -⟩
  · exact ⟨fun _ => hnone, fun a ha => nomatch ha⟩
  · refine ⟨fun hnone => (nomatch hnone), fun a' ha => ?_⟩
    obtain rfl := Option.some.inj ha
    exact ⟨allowed_iff_senderMayRun hgrants hcommand hupsert hauthorize, get_permissions_iff hgrants hupsert hauthorize⟩

/-- A command of a sender with the permission for it, when it does not reactivate a route against the sender's
permissions. -/
theorem law_of_command {P : Platform} {s : Settings} {run : BotRun} {activity : List (String × Json)}
    {reference : Option BotConversationReference} {command : BotCommand} {argument : String}
    {permissions : BotPermissions} {db db₂ db' : Database} (hkeys : db.RouteKeys) (hsame : SameRoutes db db₂)
    (hmay : SenderMayRun P s run activity db)
    (hholds : ∀ p, permissions.get p = true ↔ SenderHas P s run (extractActivity P activity) db p)
    (hrequired : ∀ p, requiredBotPermission P command argument (extractActivity P activity) = some p →
      permissions.get p = true)
    (hactivates : ∀ route, command = .register →
      ¬(argument = "" ∨ 200 < argument.length ∨ (extractActivity P activity).serviceUrl = "" ∨
        (extractActivity P activity).conversationId = "") →
      db.botRouteNamed (defaultOrganization s db₂).2.id argument = some route → route.isActive = false →
      SenderHas P s run (extractActivity P activity) db .canManageRouteStatus)
    (h : CommandEnd P s run (extractActivity P activity) reference command argument permissions db₂ db') :
    BotCommandLaw P s run activity db db' := by
  refine ⟨?_, ?_, fun hdenied => absurd hmay hdenied⟩
  · obtain ⟨db₃, db₄, n, revealed, hstart, heffect, rfl, -, -⟩ := h.exists_effect
    have hsame₃ := hstart.sameRoutes
    have hroutes : db₃.routes = db.routes := hsame₃.routes.trans hsame.routes
    have hnamed : ∀ organizationId, db₃.botRouteNamed organizationId argument =
        db.botRouteNamed organizationId argument := fun _ => by
      unfold Database.botRouteNamed
      rw [hroutes]
    obtain ⟨_, _, heq, -⟩ := issueWebhookRevealUrls_eq P s run n revealed db₄
    refine routeLaw_congr (routeLaw_of_effect (routeKeys_of_same (routeKeys_of_same hkeys hsame) hsame₃)
      (fun p hp => (hholds p).1 (hrequired p hp)) ?_ heffect) hroutes (by rw [heq])
    intro route hcommand hchecked hroute
    rw [hnamed] at hroute
    exact hactivates route hcommand hchecked hroute
  · intro reveal hreveal hnew
    exact (hholds _).1 (reveals_of_end hrequired h reveal hreveal (by rw [hsame.reveals]; exact hnew))

/-- An allowed command works with the routes that were there before the activity. -/
theorem botRouteNamed_of_allowed {P : Platform} {s : Settings} {activity : List (String × Json)} {command : BotCommand}
    {argument : String} {a : BotCommandAuthorization} {db db₁ db₂ : Database}
    (hrun : AllowedCommand P s activity command argument a db db₁ db₂) (organizationId : Nat) (name : String) :
    (defaultOrganization s db₂).1.botRouteNamed organizationId name = db.botRouteNamed organizationId name := by
  obtain ⟨_, _, heq, -⟩ := defaultOrganization_eq s db₂
  rw [heq]
  unfold Database.botRouteNamed
  rw [← hrun.routes.routes]

/-- An activity whose command is not carried out reactivates nothing. -/
theorem not_reactivates_of_denied {P : Platform} {s : Settings} {run : BotRun} {activity : List (String × Json)}
    {db : Database} {authorization : Option BotCommandAuthorization}
    (hcommanded : authorization = none → commandOf P activity = none)
    (hholds : ∀ a, authorization = some a → ∀ p,
      a.permissions.get p = true ↔ SenderHas P s run (extractActivity P activity) db p)
    (hdenied : ∀ a, authorization = some a → ∀ command argument p, commandOf P activity = some (command, argument) →
      requiredBotPermission P command argument (extractActivity P activity) = some p → a.permissions.get p = false) :
    ¬Reactivates P s run activity db := by
  rintro ⟨argument, organization, route, hcommand, -, -, -, -, hcreate, -⟩
  cases authorization with
  | none =>
    rw [hcommanded rfl] at hcommand
    cases hcommand
  | some a =>
    have hlacks := hdenied a rfl .register argument _ hcommand (requiredBotPermission_register P argument _)
    rw [(hholds a rfl _).2 hcreate] at hlacks
    cases hlacks

/-- A `register` of an inactive route activates it, which breaks the law when the sender may not change its status. -/
theorem not_law_of_reactivates {P : Platform} {s : Settings} {run : BotRun} {activity : List (String × Json)}
    {command : BotCommand} {argument : String} {a : BotCommandAuthorization}
    {reference : Option BotConversationReference} {db db₁ db₂ db' : Database}
    (hupsert : upsertReference P run.now run.referenceNames run.members (extractActivity P activity) db =
      .ok (db₁, reference))
    (hrun : AllowedCommand P s activity command argument a db db₁ db₂)
    (hhandle : handleCommand P s run (extractActivity P activity) reference command argument a.permissions db₂ =
      .ok db') (hreactivates : Reactivates P s run activity db) : ¬BotCommandLaw P s run activity db db' := by
  intro hlaw
  obtain ⟨argument', organization, route, hregister, hname, hlength, hservice, hconversation, -, hlacks, hfind, hroute,
    hinactive⟩ := hreactivates
  rw [hrun.parsed] at hregister
  obtain ⟨rfl, rfl⟩ := Prod.mk.inj (Option.some.inj hregister)
  obtain ⟨found, rfl⟩ := upsertReference_isSome hupsert hconversation hservice
  have hid : (defaultOrganization s db₂).2.id = organization.id := by
    rcases hrun.organization with ⟨o, ho, hid⟩ | ⟨hnone, -⟩
    · rw [hfind] at ho
      rw [← hid, Option.some.inj ho]
    · rw [hfind] at hnone
      cases hnone
  have hchecked : ¬(argument = "" ∨ 200 < argument.length ∨ (extractActivity P activity).serviceUrl = "" ∨
      (extractActivity P activity).conversationId = "") := by
    simp [hname, hservice, hconversation]
    omega
  obtain ⟨row, hrow, hrowid, hactive⟩ :=
    active_of_register hchecked (by rw [botRouteNamed_of_allowed hrun, hid]; exact hroute) hhandle
  exact hlacks (hlaw.status route (List.mem_of_find?_eq_some hroute) row hrow hrowid
    (by rw [hactive, hinactive]; decide))

/-- When nothing is reactivated, a `register` that is carried out finds an inactive route only for a sender who may
change its status. -/
theorem mayActivate_of_not_reactivates {P : Platform} {s : Settings} {run : BotRun} {activity : List (String × Json)}
    {argument : String} {a : BotCommandAuthorization} {db db₁ db₂ : Database} (hkeys : db.RouteKeys)
    (hrun : AllowedCommand P s activity .register argument a db db₁ db₂)
    (hholds : ∀ p, a.permissions.get p = true ↔ SenderHas P s run (extractActivity P activity) db p)
    (hnot : ¬Reactivates P s run activity db)
    (hchecked : ¬(argument = "" ∨ 200 < argument.length ∨ (extractActivity P activity).serviceUrl = "" ∨
      (extractActivity P activity).conversationId = "")) {route : WebhookRoute}
    (hroute : db.botRouteNamed (defaultOrganization s db₂).2.id argument = some route)
    (hinactive : route.isActive = false) :
    SenderHas P s run (extractActivity P activity) db .canManageRouteStatus := by
  by_contra hlacks
  have horganization : route.organizationId = (defaultOrganization s db₂).2.id := by
    have := List.find?_some hroute
    simp only [Bool.and_eq_true, beq_iff_eq] at this
    exact this.1.1
  rcases hrun.organization with ⟨organization, hfind, hid⟩ | ⟨-, hid⟩
  · simp only [not_or, not_lt] at hchecked
    obtain ⟨hname, hlength, hservice, hconversation⟩ := hchecked
    have hcreate := (hholds _).1 (hrun.required _ (requiredBotPermission_register P argument _))
    refine hnot ⟨argument, organization, route, hrun.parsed, hname, hlength, hservice, hconversation, hcreate, hlacks,
      hfind, ?_, hinactive⟩
    rw [hid]
    exact hroute
  · have := hkeys.organization route (List.mem_of_find?_eq_some hroute)
    omega

end BotPermissionsAux

open BotPermissionsAux

/-- For every state of the tables and every activity: the routes and the reveal tokens change only as the stored grants,
roles and memberships of the sender allow, exactly when the activity is not a `register` that activates an inactive
route for a sender who may not change its status. -/
theorem bot_commands_permitted_iff {P : Platform} {s : Settings} {run : BotRun} {body : Bytes}
    {activity : List (String × Json)} {db db' : Database} {authorization : Option BotCommandAuthorization}
    (hkeys : db.RouteKeys) (hgrants : db.GrantKeys) (hbody : activityOfBody P body = .ok (some activity))
    (h : receiveBotActivity P s run body db = .ok (db', authorization)) :
    BotCommandLaw P s run activity db db' ↔ ¬Reactivates P s run activity db := by
  have h : receiveActivity P s run activity db = .ok (db', authorization) := by
    unfold receiveBotActivity at h
    rw [hbody] at h
    exact h
  obtain ⟨hcommanded, hfound⟩ := authorization_of_receive hgrants h
  obtain ⟨db₁, reference, hupsert, ⟨hsame, -, hdenied⟩ | ⟨db₂, command, argument, a, hrun, rfl, hhandle⟩⟩ :=
    receiveActivity_end h
  · refine iff_of_true ?_ (not_reactivates_of_denied hcommanded (fun a ha => (hfound a ha).2) fun a ha => (hdenied a ha).2)
    refine ⟨routeLaw_of_same hkeys hsame.routes, ?_, fun _ => ⟨hsame.routes, fun reveal hr => hsame.reveals ▸ hr⟩⟩
    exact fun reveal hr hnew => absurd (hsame.reveals ▸ hr) hnew
  · obtain ⟨hallowed, hholds⟩ := hfound a rfl
    refine ⟨fun hlaw hreactivates => not_law_of_reactivates hupsert hrun hhandle hreactivates hlaw, fun hnot => ?_⟩
    refine law_of_command hkeys hrun.routes (hallowed.1 hrun.allowed) hholds hrun.required ?_
      (handleCommand_end (strip_of_commandOf hrun.parsed) hhandle)
    rintro route rfl hchecked hroute hinactive
    exact mayActivate_of_not_reactivates hkeys hrun hholds hnot hchecked hroute hinactive

/-! ## Fixed inputs -/

/-- Tables with a disabled route and a grant of Ada's with some permissions. -/
def disabledRouteDatabase (permissions : BotPermissions) : Database where
  organizations := [{ id := 1, slug := "default", name := "Default Organization" }]
  routes :=
    [{ id := 2, organizationId := 1, name := "alerts", isActive := false, routeTokenHash := "t", routeToken := "t" }]
  botUsers := [{ id := 3, organizationId := 1, aadObjectId := "ada", displayName := "Ada", permissions := permissions }]
  nextId := 4

/-- The keys of the one route. -/
theorem routeKeys_disabledRouteDatabase (permissions : BotPermissions) :
    (disabledRouteDatabase permissions).RouteKeys := by
  refine ⟨List.nodup_singleton _, ?_, ?_⟩
  · intro route hroute
    rw [List.mem_singleton.1 hroute]
    exact (by decide : 2 < 4)
  · intro route hroute
    rw [List.mem_singleton.1 hroute]
    exact (by decide : 1 < 4)

/-- The keys of the one grant. -/
theorem grantKeys_disabledRouteDatabase (permissions : BotPermissions) :
    (disabledRouteDatabase permissions).GrantKeys := by
  constructor
  · intro user huser
    rw [List.mem_singleton.1 huser]
    exact (by decide : 1 < 4)
  · intro group hgroup
    exact absurd hgroup List.not_mem_nil

/-- Ada, who may do everything, activates the route by registering it again. -/
theorem bot_commands_permitted_manager :
    ∃ db' a, receiveBotActivity (.bodyOfAda "register alerts") {} offlineRun [0]
        (disabledRouteDatabase (.ofFields fun _ => true)) = .ok (db', some a) ∧
      a.allowed = true ∧ db'.routes.map (·.isActive) = [true] ∧
      BotCommandLaw (.bodyOfAda "register alerts") {} offlineRun (personalMessageOfAda "register alerts")
        (disabledRouteDatabase (.ofFields fun _ => true)) db' := by
  obtain ⟨db', a, hreceive⟩ : ∃ db' a, receiveBotActivity (.bodyOfAda "register alerts") {} offlineRun [0]
      (disabledRouteDatabase (.ofFields fun _ => true)) = .ok (db', some a) := ⟨_, _, rfl⟩
  have h := hreceive
  cases h
  refine ⟨_, _, hreceive, rfl, rfl, ?_⟩
  refine (bot_commands_permitted_iff (routeKeys_disabledRouteDatabase _) (grantKeys_disabledRouteDatabase _) rfl
    hreceive).2 ?_
  rintro ⟨argument, organization, route, -, -, -, -, -, -, hlacks, -⟩
  exact hlacks ⟨_, ⟨by decide, _, rfl, .own rfl rfl⟩, rfl⟩

/-- Ada, who may create routes but not change their status, activates the disabled route with `register alerts`. -/
theorem disabled_route_reactivated :
    ∃ db' a, receiveBotActivity (.bodyOfAda "register alerts") {} offlineRun [0]
        (disabledRouteDatabase { canCreatePrivateChatRoutes := true }) = .ok (db', some a) ∧
      ¬SenderHas (.bodyOfAda "register alerts") {} offlineRun
        (extractActivity (.bodyOfAda "register alerts") (personalMessageOfAda "register alerts"))
        (disabledRouteDatabase { canCreatePrivateChatRoutes := true }) .canManageRouteStatus ∧
      db'.routes.map (·.isActive) = [true] ∧
      ¬BotCommandLaw (.bodyOfAda "register alerts") {} offlineRun (personalMessageOfAda "register alerts")
        (disabledRouteDatabase { canCreatePrivateChatRoutes := true }) db' := by
  obtain ⟨db', a, hreceive⟩ : ∃ db' a, receiveBotActivity (.bodyOfAda "register alerts") {} offlineRun [0]
      (disabledRouteDatabase { canCreatePrivateChatRoutes := true }) = .ok (db', some a) := ⟨_, _, rfl⟩
  have hlacks : ¬SenderHas (.bodyOfAda "register alerts") {} offlineRun
      (extractActivity (.bodyOfAda "register alerts") (personalMessageOfAda "register alerts"))
      (disabledRouteDatabase { canCreatePrivateChatRoutes := true }) .canManageRouteStatus := by
    intro hhas
    have hactivity : receiveActivity (.bodyOfAda "register alerts") {} offlineRun (personalMessageOfAda "register alerts")
        (disabledRouteDatabase { canCreatePrivateChatRoutes := true }) = .ok (db', some a) := hreceive
    have hfound := (authorization_of_receive (grantKeys_disabledRouteDatabase _) hactivity).2 a rfl
    have hget := (hfound.2 _).2 hhas
    cases hreceive
    nomatch hget
  have h := hreceive
  cases h
  refine ⟨_, _, hreceive, hlacks, rfl, ?_⟩
  exact fun hlaw => hlacks (hlaw.status _ List.mem_cons_self _ List.mem_cons_self rfl (by decide))

end TeamsRehook
