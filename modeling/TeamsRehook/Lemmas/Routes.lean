import TeamsRehook.Lemmas.Commands
import TeamsRehook.Webhook.RevealLinks

/-!
# Changing one route

What the statements that store, delete and insert a route leave of the others, in tables whose ids are unique.
-/

namespace TeamsRehook

/-- The keys of the routes: ids are unique and below the counter, and the organization of a route exists. -/
structure Database.RouteKeys (db : Database) : Prop where
  unique : Table.UniqueOn (·.id) db.routes
  fresh : ∀ route ∈ db.routes, route.id < db.nextId
  organization : ∀ route ∈ db.routes, route.organizationId < db.nextId

section Store

variable {db : Database} {now : Int} {route changed row row' : WebhookRoute}

/-- A row of the routes after one was stored is an old one or the stored one. -/
theorem mem_routes_storeRoute (h : row' ∈ (storeRoute now changed db).routes) :
    row' ∈ db.routes ∨ ∃ row ∈ db.routes, row.id = changed.id ∧ row' = row.flushed now changed := by
  obtain ⟨row, hrow, rfl⟩ := Table.mem_update.1 h
  by_cases hid : row.id = changed.id
  · exact .inr ⟨row, hrow, hid, by simp [hid]⟩
  · exact .inl (by simpa [hid] using hrow)

/-- The rows before and after a route was stored, for one id: they are equal, or the stored row. -/
theorem storeRoute_row (hkeys : db.RouteKeys) (hroute : route ∈ db.routes) (hid : changed.id = route.id)
    (hrow : row ∈ db.routes) (hrow' : row' ∈ (storeRoute now changed db).routes) (hsame : row'.id = row.id) :
    row' = row ∨ (row = route ∧ row' = route.flushed now changed) := by
  rcases mem_routes_storeRoute hrow' with h | ⟨old, hold, holdid, rfl⟩
  · exact .inl (hkeys.unique.eq_of_mem h hrow hsame)
  · have hr : route = row := hkeys.unique.eq_of_mem hroute hrow (hid.symm.trans hsame)
    have ho : old = route := hkeys.unique.eq_of_mem hold hroute (holdid.trans hid)
    exact .inr ⟨hr.symm, by rw [ho]⟩

/-- Storing a route neither adds nor removes an id. -/
theorem exists_id_storeRoute (id : Nat) :
    (∃ row' ∈ (storeRoute now changed db).routes, row'.id = id) ↔ ∃ row ∈ db.routes, row.id = id := by
  constructor
  · rintro ⟨row', hrow', rfl⟩
    rcases mem_routes_storeRoute hrow' with h | ⟨old, hold, holdid, rfl⟩
    · exact ⟨row', h, rfl⟩
    · exact ⟨old, hold, holdid⟩
  · rintro ⟨row, hrow, rfl⟩
    by_cases hid : row.id = changed.id
    · exact ⟨_, mem_storeRoute hrow hid, hid.symm⟩
    · exact ⟨row, Table.mem_update_of_not hrow (by simpa using hid), rfl⟩

end Store

/-- The routes after one was inserted. -/
theorem routes_insertRoute {db db' : Database} {now : Int} {route : WebhookRoute}
    (h : insertRoute now route db = .ok db') :
    db'.routes = db.routes ++ [{ route with updatedAt := now }] ∧ db'.events = db.events ∧ db'.reveals = db.reveals := by
  unfold insertRoute at h
  split at h
  · nomatch h
  · cases h
    exact ⟨rfl, rfl, rfl⟩

/-- Storing a route keeps the ids. -/
theorem map_id_storeRoute (db : Database) (now : Int) (changed : WebhookRoute) :
    (storeRoute now changed db).routes.map (·.id) = db.routes.map (·.id) := by
  refine Table.map_update_of_mem fun row _ hid => ?_
  exact (beq_iff_eq.1 hid).symm

/-! ## Routes under their URLs -/

/-- The ids of the routes are unique and were drawn from the counter. -/
structure Database.RouteIds (db : Database) : Prop where
  unique : Table.UniqueOn (·.id) db.routes
  fresh : ∀ route ∈ db.routes, route.id < db.nextId

/-- Storing a route keeps the ids. -/
theorem routeIds_storeRoute {db : Database} {now : Int} {changed : WebhookRoute} (h : db.RouteIds) :
    (storeRoute now changed db).RouteIds := by
  refine ⟨?_, ?_⟩
  · unfold Table.UniqueOn
    rw [map_id_storeRoute]
    exact h.unique
  · intro route hroute
    obtain ⟨old, hold, hid⟩ := (exists_id_storeRoute route.id).1 ⟨route, hroute, rfl⟩
    exact hid ▸ h.fresh old hold

/-- Routes are removed, added with new ids, and changed, but no route gets another URL. -/
structure KeepsUrls (db db' : Database) : Prop where
  ids : db.RouteIds → db'.RouteIds
  routes : ∀ row ∈ db'.routes, db.nextId ≤ row.id ∨ ∃ old ∈ db.routes, old.id = row.id ∧ old.routeToken = row.routeToken
  nextId : db.nextId ≤ db'.nextId

/-- Tables keep their own URLs. -/
theorem KeepsUrls.refl (db : Database) : KeepsUrls db db :=
  ⟨id, fun row hrow => .inr ⟨row, hrow, rfl, rfl⟩, le_refl _⟩

/-- URLs that are kept twice are kept. -/
theorem KeepsUrls.trans {db db₁ db₂ : Database} (h : KeepsUrls db db₁) (h' : KeepsUrls db₁ db₂) : KeepsUrls db db₂ := by
  refine ⟨h'.ids ∘ h.ids, ?_, h.nextId.trans h'.nextId⟩
  intro row hrow
  rcases h'.routes row hrow with hnew | ⟨mid, hmid, hid, htoken⟩
  · exact .inl (h.nextId.trans hnew)
  · rcases h.routes mid hmid with hnew | ⟨old, hold, hid', htoken'⟩
    · exact .inl (hid ▸ hnew)
    · exact .inr ⟨old, hold, hid'.trans hid, htoken'.trans htoken⟩

/-- The same routes have the same URLs. -/
theorem KeepsUrls.of_routes {db db' : Database} (hroutes : db'.routes = db.routes) (hn : db.nextId ≤ db'.nextId) :
    KeepsUrls db db' := by
  refine ⟨fun h => ⟨?_, ?_⟩, ?_, hn⟩
  · rw [hroutes]
    exact h.unique
  · rw [hroutes]
    exact fun route hroute => lt_of_lt_of_le (h.fresh route hroute) hn
  · rw [hroutes]
    exact fun row hrow => .inr ⟨row, hrow, rfl, rfl⟩

/-- A stored route keeps its URL when the object it is stored from has it. -/
theorem KeepsUrls.storeRoute {db : Database} {now : Int} {changed : WebhookRoute}
    (htoken : ∀ row ∈ db.routes, row.id = changed.id → row.routeToken = changed.routeToken) :
    KeepsUrls db (storeRoute now changed db) := by
  refine ⟨routeIds_storeRoute, ?_, le_refl _⟩
  intro row hrow
  rcases mem_routes_storeRoute hrow with hold | ⟨old, hold, hid, rfl⟩
  · exact .inr ⟨row, hold, rfl, rfl⟩
  · exact .inr ⟨old, hold, hid, htoken old hold hid⟩

/-- Deleting a route keeps the others. -/
theorem KeepsUrls.deleteRoute (routeId : Nat) (db : Database) : KeepsUrls db (deleteRoute routeId db) := by
  refine ⟨fun h => ⟨Table.uniqueOn_delete h.unique, ?_⟩, ?_, le_refl _⟩
  · exact fun route hroute => h.fresh route (Table.mem_delete.1 hroute).1
  · exact fun row hrow => .inr ⟨row, (Table.mem_delete.1 hrow).1, rfl, rfl⟩

/-- An inserted route is new. -/
theorem KeepsUrls.insertRoute {db db' : Database} {now : Int} {route : WebhookRoute} (hid : route.id = db.nextId)
    (h : insertRoute now route db = .ok db') : KeepsUrls db db' := by
  unfold TeamsRehook.insertRoute at h
  split at h
  · nomatch h
  · cases h
    refine ⟨fun h => ⟨?_, ?_⟩, ?_, Nat.le_succ _⟩
    · refine Table.uniqueOn_append h.unique fun row hrow => ?_
      have := h.fresh row hrow
      simp only
      omega
    · intro row hrow
      rcases List.mem_append.1 hrow with hrow | hrow
      · exact Nat.lt_succ_of_lt (h.fresh row hrow)
      · rw [List.mem_singleton.1 hrow]
        exact hid ▸ Nat.lt_succ_self _
    · intro row hrow
      rcases List.mem_append.1 hrow with hrow | hrow
      · exact .inr ⟨row, hrow, rfl, rfl⟩
      · rw [List.mem_singleton.1 hrow]
        exact .inl (le_of_eq hid.symm)

/-- What a command does to a route leaves the URLs. -/
theorem KeepsUrls.of_effect {P : Platform} {run : BotRun} {organizationId : Nat} {captured : Captured}
    {reference : Option BotConversationReference} {argument : String} {command : BotCommand} {db db' : Database}
    (hids : db.RouteIds) (h : RouteEffect P run organizationId captured reference argument db command db') :
        KeepsUrls db db' := by
  have hstore : ∀ {route changed : WebhookRoute}, route ∈ db.routes → changed.id = route.id →
      changed.routeToken = route.routeToken → KeepsUrls db (TeamsRehook.storeRoute run.now changed db) := by
    intro route changed hroute hid htoken
    refine .storeRoute fun row hrow hrowid => ?_
    rw [hids.unique.eq_of_mem hrow hroute (hrowid.trans hid), htoken]
  cases h with
  | unchanged => exact .refl db
  | setActive isActive _ hroute => exact hstore hroute rfl rfl
  | setAccess mode allowlist hroute => exact hstore hroute rfl rfl
  | delete hroute => exact .deleteRoute _ db
  | update _ _ hroute hrow =>
    obtain ⟨teamName, name, rfl⟩ := tryResolveRouteGraphNames_renamed hrow
    exact hstore (List.mem_of_find?_eq_some hroute) rfl rfl
  | create _ hroute hrow hinsert =>
    obtain ⟨teamName, name, rfl⟩ := tryResolveRouteGraphNames_renamed hrow
    refine .insertRoute ?_ hinsert
    simp only [registeredRoute, routeToRegister, hroute]

/-! ## Reveal tokens of an activity -/

/-- A reveal token after some were issued is an old one, or one for a route with the configured lifetime. -/
theorem mem_reveals_issueWebhookRevealUrls {P : Platform} {s : Settings} {run : BotRun} {n : Nat}
    {revealed : List WebhookRoute} {db : Database} {reveal : WebhookUrlRevealToken}
    (h : reveal ∈ (issueWebhookRevealUrls P s run n revealed db).reveals) :
    reveal ∈ db.reveals ∨
      ∃ route ∈ revealed, reveal.routeId = route.id ∧ reveal.expiresAt = run.now + hours s.webhookUrlRevealTtlHours := by
  induction revealed generalizing n db with
  | nil => exact .inl h
  | cons route revealed ih =>
    rcases ih h with h | ⟨other, hother, hreveal⟩
    · unfold issueWebhookRevealUrl at h
      split at h
      · exact .inl h
      · rcases List.mem_append.1 h with h | h
        · exact .inl (Table.mem_delete.1 h).1
        · rw [List.mem_singleton.1 h]
          exact .inr ⟨route, List.mem_cons_self, rfl, rfl⟩
    · exact .inr ⟨other, List.mem_cons_of_mem _ hother, hreveal⟩

/-- What a command does to a route adds no reveal token. -/
theorem RouteEffect.reveals_subset {P : Platform} {run : BotRun} {organizationId : Nat} {captured : Captured}
    {reference : Option BotConversationReference} {argument : String} {command : BotCommand} {db db' : Database}
    (h : RouteEffect P run organizationId captured reference argument db command db') : db'.reveals ⊆ db.reveals := by
  cases h with
  | unchanged => exact fun _ h => h
  | setActive => exact fun _ h => h
  | setAccess => exact fun _ h => h
  | delete => exact fun _ h => (Table.mem_delete.1 h).1
  | update => exact fun _ h => h
  | create _ _ _ hinsert =>
    rw [(routes_insertRoute hinsert).2.2]
    exact fun _ h => h

/-- The tables a handler starts from have the same routes. -/
theorem HandlerStart.sameRoutes {s : Settings} {db db₁ : Database} (h : HandlerStart s db db₁) : SameRoutes db db₁ := by
  rcases h with rfl | rfl
  · exact ⟨rfl, rfl, rfl, le_refl _⟩
  · obtain ⟨_, _, heq, hn⟩ := defaultOrganization_eq s db
    rw [heq]
    exact ⟨rfl, rfl, rfl, hn⟩

/-- What an activity leaves of the URLs, and the reveal tokens it adds: each is for a stored route, with the configured
lifetime. -/
structure ActivityReveals (s : Settings) (now : Int) (db db' : Database) : Prop where
  urls : KeepsUrls db db'
  reveals : ∀ reveal ∈ db'.reveals, reveal ∈ db.reveals ∨
    ∃ row ∈ db'.routes, row.id = reveal.routeId ∧ reveal.expiresAt = now + hours s.webhookUrlRevealTtlHours

theorem activityReveals_of_same {s : Settings} {now : Int} {db db' : Database} (h : SameRoutes db db') :
    ActivityReveals s now db db' :=
  ⟨.of_routes h.routes h.nextId, fun _ hreveal => .inl (h.reveals ▸ hreveal)⟩

/-- What a command leaves of the URLs, and the reveal tokens it adds. -/
theorem CommandEnd.activityReveals {P : Platform} {s : Settings} {run : BotRun} {captured : Captured}
    {reference : Option BotConversationReference} {command : BotCommand} {argument : String}
    {permissions : BotPermissions} {db db' : Database} (hids : db.RouteIds)
    (h : CommandEnd P s run captured reference command argument permissions db db') :
    ActivityReveals s run.now db db' := by
  obtain ⟨db₁, db₂, n, revealed, hstart, heffect, rfl, -, hrevealed⟩ := h.exists_effect
  have hsame := hstart.sameRoutes
  have hstarted : KeepsUrls db db₁ := .of_routes hsame.routes hsame.nextId
  obtain ⟨reveals, m, heq, hm⟩ := issueWebhookRevealUrls_eq P s run n revealed db₂
  have hroutes : (issueWebhookRevealUrls P s run n revealed db₂).routes = db₂.routes := by rw [heq]
  refine ⟨?_, ?_⟩
  · refine (hstarted.trans (.of_effect (hstarted.ids hids) heffect)).trans (.of_routes hroutes ?_)
    rw [heq]
    exact hm
  · intro reveal hreveal
    rcases mem_reveals_issueWebhookRevealUrls hreveal with hold | ⟨route, hroute, hof, hexpires⟩
    · exact .inl (hsame.reveals ▸ heffect.reveals_subset hold)
    · obtain ⟨row, hrow, hid, -, -⟩ := hrevealed route hroute
      exact .inr ⟨row, hroutes ▸ hrow, hid.trans hof.symm, hexpires⟩

/-- What an activity leaves of the URLs, and the reveal tokens it adds. -/
theorem receiveActivity_reveals {P : Platform} {s : Settings} {run : BotRun} {activity : List (String × Json)}
    {db db' : Database} {authorization : Option BotCommandAuthorization} (hids : db.RouteIds)
    (h : receiveActivity P s run activity db = .ok (db', authorization)) : ActivityReveals s run.now db db' := by
  obtain ⟨db₁, reference, -, ⟨hsame, -, -⟩ | ⟨db₂, command, argument, a, hrun, -, hhandle⟩⟩ := receiveActivity_end h
  · exact activityReveals_of_same hsame
  · have hbefore : KeepsUrls db db₂ := .of_routes hrun.routes.routes hrun.routes.nextId
    have hend := (handleCommand_end (strip_of_commandOf hrun.parsed) hhandle).activityReveals (hbefore.ids hids)
    refine ⟨hbefore.trans hend.urls, fun reveal hreveal => ?_⟩
    rcases hend.reveals reveal hreveal with hold | hnew
    · exact .inl (hrun.routes.reveals ▸ hold)
    · exact .inr hnew

/-- What `receive_bot_activity` leaves of the URLs, and the reveal tokens it adds. -/
theorem receiveBotActivity_reveals {P : Platform} {s : Settings} {run : BotRun} {body : Bytes} {db db' : Database}
    {authorization : Option BotCommandAuthorization} (hids : db.RouteIds)
    (h : receiveBotActivity P s run body db = .ok (db', authorization)) : ActivityReveals s run.now db db' := by
  unfold receiveBotActivity at h
  obtain ⟨activity, -, h⟩ := Except.bind_eq_ok_iff.1 h
  cases activity with
  | none =>
    obtain ⟨rfl, -⟩ := Prod.mk.inj (Except.ok.inj h)
    exact activityReveals_of_same ⟨rfl, rfl, rfl, le_refl _⟩
  | some activity => exact receiveActivity_reveals hids h

end TeamsRehook
