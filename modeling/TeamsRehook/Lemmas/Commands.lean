import TeamsRehook.Lemmas.Bot

/-!
# What a command does

Every handler changes at most one route and then issues reveal tokens. `RouteEffect` lists the changes of a route, with
what a handler has checked before it, and `handleCommand_end` says that each command ends with one of them.
-/

namespace TeamsRehook

/-! ## Linked routes -/

/-- Ordering routes keeps them. -/
theorem mem_newestFirst {routes : List WebhookRoute} {route : WebhookRoute} :
    route ∈ newestFirst routes ↔ route ∈ routes :=
  (List.perm_insertionSort _ routes).mem_iff

/-- The routes by id are routes of the list. -/
theorem mem_of_mem_routesById {routes seen : List WebhookRoute} {route : WebhookRoute}
    (h : route ∈ routes.foldl (fun seen route => if seen.any (·.id == route.id) then seen else seen ++ [route]) seen) :
    route ∈ seen ∨ route ∈ routes := by
  induction routes generalizing seen with
  | nil => exact .inl h
  | cons r routes ih =>
    rcases ih h with h | h
    · dsimp only at h
      split at h
      · exact .inl h
      · rcases List.mem_append.1 h with h | h
        · exact .inl h
        · exact .inr (List.mem_cons.2 (.inl (List.mem_singleton.1 h)))
    · exact .inr (List.mem_cons_of_mem r h)

/-- Of rows with one id each, none is lost among the routes by id. -/
theorem mem_routesById_iff {table routes : List WebhookRoute} (hids : Table.UniqueOn (·.id) table) (hsub : routes ⊆ table)
    {route : WebhookRoute} : route ∈ routesById routes ↔ route ∈ routes := by
  have hfold : ∀ rest seen : List WebhookRoute, seen ⊆ table → rest ⊆ table → (route ∈ seen ∨ route ∈ rest) →
      route ∈ rest.foldl (fun seen route => if seen.any (·.id == route.id) then seen else seen ++ [route]) seen := by
    intro rest
    induction rest with
    | nil => exact fun seen _ _ h => h.resolve_right List.not_mem_nil
    | cons r rest ih =>
      intro seen hseen hsubset h
      obtain ⟨hr, hrest⟩ := List.cons_subset.1 hsubset
      rw [List.foldl_cons]
      split
      next hfound =>
        -- the row with the id of `r` that was seen is `r` itself
        obtain ⟨old, hold, hid⟩ := List.any_eq_true.1 hfound
        obtain rfl := hids.eq_of_mem (hseen hold) hr (beq_iff_eq.1 hid)
        refine ih seen hseen hrest ?_
        rcases h with h | h
        · exact .inl h
        · rcases List.mem_cons.1 h with rfl | h
          · exact .inl hold
          · exact .inr h
      next =>
        refine ih (seen ++ [r]) (List.append_subset.2 ⟨hseen, by simpa using hr⟩) hrest ?_
        rcases h with h | h
        · exact .inl (List.mem_append_left _ h)
        · rcases List.mem_cons.1 h with rfl | h
          · exact .inl (List.mem_append_right _ List.mem_cons_self)
          · exact .inr h
  constructor
  · exact fun h => (mem_of_mem_routesById h).resolve_left List.not_mem_nil
  · exact fun h => hfold routes [] (List.nil_subset _) hsub (.inr h)

/-- A route that is found for a conversation is stored. -/
theorem mem_of_mem_conversationRoutes {organizationId : Nat} {captured : Captured} {db : Database} {route : WebhookRoute}
    (h : route ∈ conversationRoutes organizationId captured db) : route ∈ db.routes := by
  have h := (mem_of_mem_routesById h).resolve_left (by simp)
  rcases List.mem_append.1 h with h | h
  · exact List.mem_of_mem_filter (List.mem_of_mem_filter (mem_newestFirst.1 h))
  · exact List.mem_of_mem_filter (List.mem_of_mem_filter (mem_newestFirst.1 h))

/-- A linked route is stored. -/
theorem mem_of_resolveLinkedRoute {organizationId : Nat} {captured : Captured} {routeName : String} {db : Database}
    {route : WebhookRoute} (h : resolveLinkedRoute organizationId captured routeName db = some route) :
    route ∈ db.routes := by
  unfold resolveLinkedRoute at h
  simp only at h
  split at h
  · exact mem_of_mem_conversationRoutes (List.mem_of_find?_eq_some h)
  · split at h
    next linked hlinked =>
      cases h
      exact mem_of_mem_conversationRoutes (by rw [hlinked]; exact List.mem_singleton_self _)
    next => nomatch h

/-! ## Reveal tokens -/

/-- Issuing a reveal token changes the reveal tokens only. -/
theorem issueWebhookRevealUrl_eq (P : Platform) (s : Settings) (now : Int) (token : String) (route : WebhookRoute)
    (db : Database) :
    ∃ reveals n, issueWebhookRevealUrl P s now token route db = { db with reveals := reveals, nextId := n } ∧
    db.nextId ≤ n := by
  unfold issueWebhookRevealUrl
  split
  · exact ⟨_, _, rfl, le_refl _⟩
  · exact ⟨_, _, rfl, Nat.le_succ _⟩

/-- Issuing reveal tokens changes the reveal tokens only. -/
theorem issueWebhookRevealUrls_eq (P : Platform) (s : Settings) (run : BotRun) (n : Nat) (routes : List WebhookRoute)
    (db : Database) :
    ∃ reveals m, issueWebhookRevealUrls P s run n routes db = { db with reveals := reveals, nextId := m } ∧
    db.nextId ≤ m := by
  induction routes generalizing n db with
  | nil => exact ⟨_, _, rfl, le_refl _⟩
  | cons route routes ih =>
    obtain ⟨reveals, m, heq, hm⟩ := issueWebhookRevealUrl_eq P s run.now (run.revealTokens n) route db
    obtain ⟨reveals', m', heq', hm'⟩ := ih (n + 1) (issueWebhookRevealUrl P s run.now (run.revealTokens n) route db)
    refine ⟨reveals', m', ?_, ?_⟩
    · rw [issueWebhookRevealUrls, heq', heq]
    · rw [heq] at hm'
      exact hm.trans hm'

/-! ## Effects -/

/-- The tables a handler starts from: the default organization is there, or the handler does not look for it. -/
def HandlerStart (s : Settings) (db db₁ : Database) : Prop := db₁ = db ∨ db₁ = (defaultOrganization s db).1

/-- What a command does to the routes before it issues reveal tokens. -/
inductive RouteEffect (P : Platform) (run : BotRun) (organizationId : Nat) (captured : Captured)
    (reference : Option BotConversationReference) (argument : String) (db : Database) : BotCommand → Database → Prop where
  | unchanged (command : BotCommand) : RouteEffect P run organizationId captured reference argument db command db
  | setActive {command : BotCommand} {route : WebhookRoute} (isActive : Bool)
      (hcommand : command = .enable ∨ command = .disable) (hroute : route ∈ db.routes) :
      RouteEffect P run organizationId captured reference argument db command
      (storeRoute run.now { route with isActive := isActive } db)
  | setAccess {route : WebhookRoute} (mode allowlist : String) (hroute : route ∈ db.routes)
      (hwrite : allowlistArgumentIsWrite P argument = true) (haccess : StoredAccess P mode allowlist) :
      RouteEffect P run organizationId captured reference argument db .allowlist
        (storeRoute run.now { route with clientIpAccessMode := mode, clientIpAllowlist := allowlist } db)
  | delete {route : WebhookRoute} (hroute : route ∈ db.routes) :
      RouteEffect P run organizationId captured reference argument db .delete (deleteRoute route.id db)
  | update {found : BotConversationReference} {route row : WebhookRoute} (hreference : reference = some found)
      (hchecked : ¬(argument = "" ∨ 200 < argument.length ∨ captured.serviceUrl = "" ∨ captured.conversationId = ""))
      (hroute : db.botRouteNamed organizationId argument = some route)
      (hrow : tryResolveRouteGraphNames run.routeNames false
        (registeredRoute P run.now (capturedWithReference captured found) found route) = .ok row) :
      RouteEffect P run organizationId captured reference argument db .register (storeRoute run.now row db)
  | create {db' : Database} {found : BotConversationReference} {row : WebhookRoute} (hreference : reference = some found)
      (hroute : db.botRouteNamed organizationId argument = none)
      (hrow : tryResolveRouteGraphNames run.routeNames false
        (registeredRoute P run.now (capturedWithReference captured found) found
          (routeToRegister P run organizationId argument (capturedWithReference captured found) db)) = .ok row)
      (hinsert : insertRoute run.now row db = .ok db') :
      RouteEffect P run organizationId captured reference argument db .register db'

/-- A command ends with an effect on a route and the reveal tokens it issues. -/
structure CommandEnd (P : Platform) (s : Settings) (run : BotRun) (captured : Captured)
    (reference : Option BotConversationReference) (command : BotCommand) (argument : String)
        (permissions : BotPermissions) (db db' : Database) : Prop where
  exists_effect : ∃ db₁ db₂ n revealed,
    HandlerStart s db db₁ ∧
    RouteEffect P run (defaultOrganization s db).2.id captured reference argument db₁ command db₂ ∧
    db' = issueWebhookRevealUrls P s run n revealed db₂ ∧
    (revealed ≠ [] → command = .webhook ∨ permissions.canRevealWebhookUrls = true) ∧
    ∀ route ∈ revealed, ∃ row ∈ db₂.routes,
      row.id = route.id ∧ row.organizationId = route.organizationId ∧ row.routeToken = route.routeToken

/-- A route that differs from another one at most in the names of its target. -/
def WebhookRoute.RenamedFrom (route row : WebhookRoute) : Prop :=
  ∃ teamName name, row = { route with graphTeamName := teamName, targetName := name }

/-- The names that are looked up are the only columns that change. -/
theorem resolveRouteGraphNames_renamed (G : GraphNames) (force : Bool) (route : WebhookRoute) :
    route.RenamedFrom (resolveRouteGraphNames G force route).1 := by
  unfold resolveRouteGraphNames
  apply Changed.andThen_invariant (I := route.RenamedFrom)
  · exact named_invariant (I := route.RenamedFrom) ⟨_, _, rfl⟩ fun name _ _ => ⟨name, _, rfl⟩
  · rintro row ⟨teamName, name, rfl⟩
    dsimp only
    split
    · unfold resolveTargetName
      split
      · exact ⟨_, _, rfl⟩
      · split
        · exact ⟨_, _, rfl⟩
        · exact named_invariant (I := route.RenamedFrom) ⟨_, _, rfl⟩ fun name _ _ => ⟨_, name, rfl⟩
    · exact ⟨_, _, rfl⟩

/-- What `try_resolve_route_graph_names` changes. -/
theorem tryResolveRouteGraphNames_renamed {G : GraphNames} {force : Bool} {route row : WebhookRoute}
    (h : tryResolveRouteGraphNames G force route = .ok row) : route.RenamedFrom row := by
  rw [Changed.eq_of_try h]
  exact resolveRouteGraphNames_renamed G force route

/-! ## The handlers -/

section Handlers

variable {P : Platform} {s : Settings} {run : BotRun} {captured : Captured} {reference : Option BotConversationReference}
  {argument : String} {permissions : BotPermissions} {db : Database}

/-- A command that changes nothing. -/
theorem CommandEnd.unchanged (command : BotCommand) {db₁ : Database} (h : HandlerStart s db db₁) :
    CommandEnd P s run captured reference command argument permissions db db₁ :=
  ⟨db₁, db₁, 0, [], h, .unchanged command, rfl, fun h => absurd rfl h, fun _ h => nomatch h⟩

/-- A command that changes a route and issues no reveal token. -/
theorem CommandEnd.routeOnly {command : BotCommand} {db₁ db₂ : Database} (h : HandlerStart s db db₁)
    (heffect : RouteEffect P run (defaultOrganization s db).2.id captured reference argument db₁ command db₂) :
    CommandEnd P s run captured reference command argument permissions db db₂ :=
  ⟨db₁, db₂, 0, [], h, heffect, rfl, fun h => absurd rfl h, fun _ h => nomatch h⟩

/-- A command that changes a route and issues its reveal token when the sender may see it. -/
theorem CommandEnd.revealed {command : BotCommand} {db₁ db₂ : Database} {route row : WebhookRoute}
    (h : HandlerStart s db db₁)
    (heffect : RouteEffect P run (defaultOrganization s db).2.id captured reference argument db₁ command db₂)
    (hrow : row ∈ db₂.routes) (hid : row.id = route.id) (horg : row.organizationId = route.organizationId)
    (htoken : row.routeToken = route.routeToken) :
    CommandEnd P s run captured reference command argument permissions db
      (if permissions.canRevealWebhookUrls then issueWebhookRevealUrl P s run.now (run.revealTokens 0) route db₂
        else db₂) := by
  split
  next hreveal =>
    refine ⟨db₁, db₂, 0, [route], h, heffect, rfl, fun _ => .inr hreveal, ?_⟩
    intro r hr
    obtain rfl := List.mem_singleton.1 hr
    exact ⟨row, hrow, hid, horg, htoken⟩
  next => exact .routeOnly h heffect

/-- A stored route has the id, the organization and the token of the object it is stored from. -/
theorem mem_storeRoute {now : Int} {route row : WebhookRoute} (hrow : row ∈ db.routes) (hid : row.id = route.id) :
    row.flushed now route ∈ (storeRoute now route db).routes :=
  Table.mem_update_of_pos hrow (by simp [hid])

/-- What `register` does when it is given a name and there is a reference. -/
theorem registerRouteFromCommand_eq {found : BotConversationReference}
    (h : ¬(argument = "" ∨ 200 < argument.length ∨ captured.serviceUrl = "" ∨ captured.conversationId = "")) :
    registerRouteFromCommand P s run captured argument (some found) permissions db =
      (tryResolveRouteGraphNames run.routeNames false
        (registeredRoute P run.now (capturedWithReference captured found) found
          (routeToRegister P run (defaultOrganization s db).2.id argument (capturedWithReference captured found)
            (defaultOrganization s db).1))).bind fun row =>
        (storeRegistered run.now (defaultOrganization s db).2.id argument row (defaultOrganization s db).1).bind fun db₂ =>
          .ok (if permissions.canRevealWebhookUrls then issueWebhookRevealUrl P s run.now (run.revealTokens 0) row db₂
            else db₂) := by
  unfold registerRouteFromCommand
  simp only [h, if_false]
  rfl

/-- The stored row of a route that was registered. -/
theorem storeRegistered_effect {db₁ db₂ : Database} {organizationId : Nat} {found : BotConversationReference}
    {row : WebhookRoute}
    (hchecked : ¬(argument = "" ∨ 200 < argument.length ∨ captured.serviceUrl = "" ∨ captured.conversationId = ""))
    (hrow : tryResolveRouteGraphNames run.routeNames false
      (registeredRoute P run.now (capturedWithReference captured found) found
        (routeToRegister P run organizationId argument (capturedWithReference captured found) db₁)) = .ok row)
    (hstore : storeRegistered run.now organizationId argument row db₁ = .ok db₂) :
    RouteEffect P run organizationId captured (some found) argument db₁ .register db₂ ∧
      ∃ stored ∈ db₂.routes, stored.id = row.id ∧ stored.organizationId = row.organizationId ∧
      stored.routeToken = row.routeToken := by
  obtain ⟨teamName, name, hrenamed⟩ := tryResolveRouteGraphNames_renamed hrow
  unfold storeRegistered at hstore
  split at hstore
  next route hroute =>
    cases hstore
    have hregister : routeToRegister P run organizationId argument (capturedWithReference captured found) db₁ =
        route := by
      simp only [routeToRegister, hroute]
    rw [hregister] at hrow hrenamed
    have hid : route.id = row.id := by rw [hrenamed]; rfl
    exact ⟨.update rfl hchecked hroute hrow, _, mem_storeRoute (List.mem_of_find?_eq_some hroute) hid, rfl, rfl, rfl⟩
  next hroute =>
    refine ⟨.create rfl hroute hrow hstore, { row with updatedAt := run.now }, ?_, rfl, rfl, rfl⟩
    unfold insertRoute at hstore
    split at hstore
    · nomatch hstore
    · cases hstore
      exact List.mem_append_right _ (List.mem_singleton_self _)

theorem registerRouteFromCommand_end {db' : Database}
    (h : registerRouteFromCommand P s run captured argument reference permissions db = .ok db') :
    CommandEnd P s run captured reference .register argument permissions db db' := by
  cases reference with
  | none =>
    cases h
    exact .unchanged _ (.inl rfl)
  | some found =>
    by_cases hrefused : argument = "" ∨ 200 < argument.length ∨ captured.serviceUrl = "" ∨ captured.conversationId = ""
    · simp only [registerRouteFromCommand, hrefused, if_true] at h
      cases h
      exact .unchanged _ (.inl rfl)
    · rw [registerRouteFromCommand_eq hrefused] at h
      obtain ⟨row, hrow, h⟩ := Except.bind_eq_ok_iff.1 h
      obtain ⟨db₂, hstore, h⟩ := Except.bind_eq_ok_iff.1 h
      obtain rfl := Except.ok.inj h
      obtain ⟨heffect, stored, hstored, hid, horg, htoken⟩ := storeRegistered_effect hrefused hrow hstore
      exact .revealed (.inr rfl) heffect hstored hid horg htoken

theorem webhookUrlCommand_end :
    CommandEnd P s run captured reference .webhook argument permissions db (webhookUrlCommand P s run argument db) := by
  unfold webhookUrlCommand
  simp only
  split
  · exact .unchanged _ (.inl rfl)
  · split
    next route hroute =>
      refine ⟨_, _, 0, [route], .inr rfl, .unchanged _, rfl, fun _ => .inl rfl, ?_⟩
      intro r hr
      obtain rfl := List.mem_singleton.1 hr
      exact ⟨r, List.mem_of_find?_eq_some hroute, rfl, rfl, rfl⟩
    next => exact .unchanged _ (.inr rfl)

theorem setRouteActiveCommand_end {command : BotCommand} (isActive : Bool)
    (hcommand : command = .enable ∨ command = .disable) :
    CommandEnd P s run captured reference command argument permissions db
      (setRouteActiveCommand P s run captured argument isActive permissions db) := by
  unfold setRouteActiveCommand
  simp only
  split
  · exact .unchanged _ (.inl rfl)
  · split
    next route hroute =>
      have hmem := mem_of_resolveLinkedRoute hroute
      exact .revealed (.inr rfl) (.setActive isActive hcommand hmem) (mem_storeRoute hmem rfl) rfl rfl rfl
    next => exact .unchanged _ (.inr rfl)

theorem deleteLinkedRouteCommand_end :
    CommandEnd P s run captured reference .delete argument permissions db
      (deleteLinkedRouteCommand s captured argument db) := by
  unfold deleteLinkedRouteCommand
  simp only
  split
  · exact .unchanged _ (.inl rfl)
  · split
    next route hroute => exact .routeOnly (.inr rfl) (.delete (mem_of_resolveLinkedRoute hroute))
    next => exact .unchanged _ (.inr rfl)

theorem infoCommand_end :
    CommandEnd P s run captured reference .info argument permissions db
      (infoCommand P s run captured argument permissions db) := by
  unfold infoCommand
  simp only
  split
  · exact .unchanged _ (.inl rfl)
  · split
    next hreveal =>
      refine ⟨_, _, 0, _, .inr rfl, .unchanged _, rfl, fun _ => .inr hreveal, ?_⟩
      intro route hroute
      refine ⟨route, ?_, rfl, rfl, rfl⟩
      have hroute := List.mem_of_mem_filter hroute
      split at hroute
      · exact mem_of_mem_conversationRoutes (List.mem_of_find?_eq_some (Option.mem_toList.1 hroute))
      · exact mem_of_mem_conversationRoutes hroute
    next => exact .unchanged _ (.inr rfl)

theorem setAllowlistCommand_end {routeName mode allowlist : String} (hmode : mode = "public" ∨ mode = "restricted")
    (hwrite : allowlistArgumentIsWrite P argument = true) :
    CommandEnd P s run captured reference .allowlist argument permissions db
      (setAllowlistCommand P s run captured routeName mode allowlist db) := by
  unfold setAllowlistCommand
  simp only
  split
  · exact .unchanged _ (.inl rfl)
  · split
    next normalizedAllowlist hroute hnormalized =>
      split
      · exact .unchanged _ (.inr rfl)
      next hgiven =>
        refine .routeOnly (.inr rfl) (.setAccess _ _ (mem_of_resolveLinkedRoute hroute) hwrite ?_)
        rcases hmode with rfl | rfl
        · exact .inl ⟨rfl, rfl⟩
        · exact .inr ⟨rfl, fun hempty => hgiven ⟨rfl, hempty⟩, allowlist, hnormalized⟩
    next => exact .unchanged _ (.inr rfl)

/-- The argument of a command is stripped, so that the check before the command and the command read the same text. -/
theorem allowlistCommand_end (hargument : Python.strip argument = argument) :
    CommandEnd P s run captured reference .allowlist argument permissions db
    (allowlistCommand P s run captured argument db) := by
  unfold allowlistCommand
  simp only
  split
  · exact .unchanged _ (.inl rfl)
  · split
    next hpublic =>
      apply setAllowlistCommand_end (.inl rfl)
      rcases hpublic with h | h <;> simp [allowlistArgumentIsWrite, hargument, h]
    next =>
      split
      next hrestricted =>
        apply setAllowlistCommand_end (.inr rfl)
        rcases hrestricted with h | h <;> simp [allowlistArgumentIsWrite, hargument, h]
      next => exact .unchanged _ (.inl rfl)

/-- How a command ends. -/
theorem handleCommand_end {command : BotCommand} {db' : Database} (hargument : Python.strip argument = argument)
    (h : handleCommand P s run captured reference command argument permissions db = .ok db') :
    CommandEnd P s run captured reference command argument permissions db db' := by
  cases command with
  | register => exact registerRouteFromCommand_end h
  | webhook => exact Except.ok.inj h ▸ webhookUrlCommand_end
  | disable => exact Except.ok.inj h ▸ setRouteActiveCommand_end false (.inr rfl)
  | enable => exact Except.ok.inj h ▸ setRouteActiveCommand_end true (.inl rfl)
  | delete => exact Except.ok.inj h ▸ deleteLinkedRouteCommand_end
  | info => exact Except.ok.inj h ▸ infoCommand_end
  | allowlist => exact Except.ok.inj h ▸ allowlistCommand_end hargument
  | help => exact Except.ok.inj h ▸ .unchanged _ (.inl rfl)

/-- A route that is registered again is active afterwards. -/
theorem active_of_register {found : BotConversationReference} {route : WebhookRoute} {db' : Database}
    (hchecked : ¬(argument = "" ∨ 200 < argument.length ∨ captured.serviceUrl = "" ∨ captured.conversationId = ""))
    (hroute : (defaultOrganization s db).1.botRouteNamed (defaultOrganization s db).2.id argument = some route)
    (h : registerRouteFromCommand P s run captured argument (some found) permissions db = .ok db') :
    ∃ row ∈ db'.routes, row.id = route.id ∧ row.isActive = true := by
  rw [registerRouteFromCommand_eq hchecked] at h
  obtain ⟨row, hrow, h⟩ := Except.bind_eq_ok_iff.1 h
  obtain ⟨db₂, hstore, h⟩ := Except.bind_eq_ok_iff.1 h
  have hregister : routeToRegister P run (defaultOrganization s db).2.id argument (capturedWithReference captured found)
      (defaultOrganization s db).1 = route := by
    simp only [routeToRegister, hroute]
  rw [hregister] at hrow
  obtain ⟨teamName, name, rfl⟩ := tryResolveRouteGraphNames_renamed hrow
  simp only [storeRegistered, hroute] at hstore
  obtain rfl := Except.ok.inj hstore
  have hmem : route ∈ (defaultOrganization s db).1.routes := List.mem_of_find?_eq_some hroute
  obtain rfl := Except.ok.inj h
  split
  · obtain ⟨_, _, heq, -⟩ := issueWebhookRevealUrl_eq P s run.now (run.revealTokens 0) _ _
    rw [heq]
    exact ⟨_, mem_storeRoute hmem rfl, rfl, rfl⟩
  · exact ⟨_, mem_storeRoute hmem rfl, rfl, rfl⟩

end Handlers

/-- A command changes the organizations, the routes and what refers to them. -/
theorem CommandEnd.frame {P : Platform} {s : Settings} {run : BotRun} {captured : Captured}
    {reference : Option BotConversationReference} {command : BotCommand} {argument : String}
    {permissions : BotPermissions} {db db' : Database}
    (h : CommandEnd P s run captured reference command argument permissions db db') :
    ∃ organizations routes events reveals n,
      db' = { db with organizations := organizations, routes := routes, events := events, reveals := reveals,
                      nextId := n } ∧
        db.nextId ≤ n := by
  obtain ⟨db₁, db₂, n, revealed, hstart, heffect, rfl, -, -⟩ := h.exists_effect
  obtain ⟨reveals, m, heq, hm⟩ := issueWebhookRevealUrls_eq P s run n revealed db₂
  rw [heq]
  have hstart : ∃ organizations k, db₁ = { db with organizations := organizations, nextId := k } ∧ db.nextId ≤ k := by
    rcases hstart with rfl | rfl
    · exact ⟨_, _, rfl, le_refl _⟩
    · exact defaultOrganization_eq s db
  obtain ⟨organizations, k, rfl, hk⟩ := hstart
  cases heffect with
  | unchanged => exact ⟨_, _, _, _, _, rfl, hk.trans hm⟩
  | setActive => exact ⟨_, _, _, _, _, rfl, hk.trans hm⟩
  | setAccess => exact ⟨_, _, _, _, _, rfl, hk.trans hm⟩
  | delete => exact ⟨_, _, _, _, _, rfl, hk.trans hm⟩
  | update => exact ⟨_, _, _, _, _, rfl, hk.trans hm⟩
  | create _ _ _ hinsert =>
    unfold insertRoute at hinsert
    split at hinsert
    · nomatch hinsert
    · cases hinsert
      exact ⟨_, _, _, _, _, rfl, (hk.trans (Nat.le_succ _)).trans hm⟩

/-! ## Activities -/

/-- The argument of a command is stripped. -/
theorem strip_of_commandOf {P : Platform} {activity : List (String × Json)} {command : BotCommand} {argument : String}
    (h : commandOf P activity = some (command, argument)) : Python.strip argument = argument := by
  unfold commandOf at h
  split at h
  · obtain ⟨value, rfl⟩ := parseActivityCommand_argument h
    exact Python.strip_collapse value
  · nomatch h

/-- How an activity is handled: its reference is captured, and its command, if it has one, is authorized and run. -/
theorem receiveActivity_cases {P : Platform} {s : Settings} {run : BotRun} {activity : List (String × Json)}
    {db db' : Database} {authorization : Option BotCommandAuthorization}
    (h : receiveActivity P s run activity db = .ok (db', authorization)) :
    ∃ db₁ reference,
      upsertReference P run.now run.referenceNames run.members (extractActivity P activity) db = .ok (db₁, reference) ∧
      ((commandOf P activity = none ∧ db' = db₁ ∧ authorization = none) ∨
        ∃ command argument db₂ a, commandOf P activity = some (command, argument) ∧ authorization = some a ∧
          authorizeBotCommand P s run.now run.membership (extractActivity P activity) command argument db₁ =
          .ok (db₂, a) ∧ ((a.allowed = false ∧ db' = db₂) ∨
            (a.allowed = true ∧
              handleCommand P s run (extractActivity P activity) reference command argument a.permissions db₂ =
                .ok db'))) := by
  unfold receiveActivity at h
  obtain ⟨⟨db₁, reference⟩, hupsert, h⟩ := Except.bind_eq_ok_iff.1 h
  refine ⟨db₁, reference, hupsert, ?_⟩
  cases hcommand : commandOf P activity with
  | none =>
    simp only [hcommand] at h
    obtain ⟨rfl, rfl⟩ := Prod.mk.inj (Except.ok.inj h)
    exact .inl ⟨rfl, rfl, rfl⟩
  | some parsed =>
    obtain ⟨command, argument⟩ := parsed
    simp only [hcommand] at h
    obtain ⟨⟨db₃, a⟩, hrun, h⟩ := Except.bind_eq_ok_iff.1 h
    obtain ⟨rfl, rfl⟩ := Prod.mk.inj (Except.ok.inj h)
    obtain ⟨⟨db₂, a'⟩, hauthorize, hrun⟩ := Except.bind_eq_ok_iff.1 hrun
    refine .inr ⟨command, argument, db₂, a', rfl, ?_⟩
    simp only at hrun
    split at hrun
    next hallowed =>
      obtain ⟨db₄, hhandle, hrun⟩ := Except.bind_eq_ok_iff.1 hrun
      obtain ⟨rfl, rfl⟩ := Prod.mk.inj (Except.ok.inj hrun)
      exact ⟨rfl, hauthorize, .inr ⟨hallowed, hhandle⟩⟩
    next hdenied =>
      obtain ⟨rfl, rfl⟩ := Prod.mk.inj (Except.ok.inj hrun)
      exact ⟨rfl, hauthorize, .inl ⟨by simpa using hdenied, rfl⟩⟩

/-- An authorization that allows a command found the permission it requires. -/
theorem required_of_allowed {P : Platform} {s : Settings} {now : Int} {answers : MembershipAnswers} {captured : Captured}
    {command : BotCommand} {argument : String} {db db' : Database} {a : BotCommandAuthorization}
    (h : authorizeBotCommand P s now answers captured command argument db = .ok (db', a)) (hallowed : a.allowed = true) :
    ∀ p, requiredBotPermission P command argument captured = some p → a.permissions.get p = true := by
  rcases authorizeBotCommand_cases h with ⟨-, -, rfl⟩ | ⟨db₁, ids, status, -, -,
    ⟨-, -, -, rfl⟩ | ⟨botUser, botGroups, -, -, rfl, -⟩⟩
  · nomatch hallowed
  · nomatch hallowed
  · revert hallowed
    unfold decideBotCommand
    simp only
    split
    · intro hallowed
      nomatch hallowed
    · intro hallowed
      exact missingPermission_isNone_iff.1 hallowed

/-- An authorization that denies a command did not find the permission it requires, if it requires one. -/
theorem lacks_of_denied {P : Platform} {s : Settings} {now : Int} {answers : MembershipAnswers} {captured : Captured}
    {command : BotCommand} {argument : String} {db db' : Database} {a : BotCommandAuthorization}
    (h : authorizeBotCommand P s now answers captured command argument db = .ok (db', a)) (hdenied : a.allowed = false)
    {p : BotPermission} (hp : requiredBotPermission P command argument captured = some p) :
    a.permissions.get p = false := by
  rcases authorizeBotCommand_cases h with ⟨-, -, rfl⟩ | ⟨db₁, ids, status, -, -,
    ⟨-, -, -, rfl⟩ | ⟨botUser, botGroups, -, -, rfl, -⟩⟩
  · exact BotPermissions.get_ofFields _ p
  · exact BotPermissions.get_ofFields _ p
  · revert hdenied
    unfold decideBotCommand
    simp only
    split
    next hempty =>
      intro _
      rw [List.isEmpty_iff.1 hempty, unionBotPermissions, BotPermissions.get_ofFields]
      rfl
    next =>
      intro hdenied
      by_contra hhas
      have hnone : (missingPermission _ _).isNone = true := missingPermission_isNone_iff.2 fun q hq => by
        obtain rfl := Option.some.inj (hp.symm.trans hq)
        simpa using hhas
      simp only [BotCommandAuthorization.allowed] at hdenied
      rw [hdenied] at hnone
      exact absurd hnone Bool.false_ne_true

/-- Two states of the tables with the same routes, delivery events and reveal tokens. -/
structure SameRoutes (db db' : Database) : Prop where
  routes : db'.routes = db.routes
  events : db'.events = db.events
  reveals : db'.reveals = db.reveals
  nextId : db.nextId ≤ db'.nextId

/-- Two states of the tables with the same references. -/
structure SameReferences (db db' : Database) : Prop where
  references : db'.references = db.references
  nextId : db.nextId ≤ db'.nextId

/-- A command that an activity runs: the tables it starts from, after the reference was captured (`db₁`) and the sender,
who has the permission it requires, was authorized (`db₂`). -/
structure AllowedCommand (P : Platform) (s : Settings) (activity : List (String × Json)) (command : BotCommand)
    (argument : String) (a : BotCommandAuthorization) (db db₁ db₂ : Database) : Prop where
  parsed : commandOf P activity = some (command, argument)
  allowed : a.allowed = true
  sender : normalizedId P (extractActivity P activity).graphUserId ≠ ""
  required : ∀ p, requiredBotPermission P command argument (extractActivity P activity) = some p →
    a.permissions.get p = true
  routes : SameRoutes db db₂
  references : SameReferences db₁ db₂
  organization : OrganizationOf s db (defaultOrganization s db₂).2.id

/-- An authorization that allows a command is one of a sender with an id. -/
theorem sender_of_allowed {P : Platform} {s : Settings} {now : Int} {answers : MembershipAnswers} {captured : Captured}
    {command : BotCommand} {argument : String} {db db' : Database} {a : BotCommandAuthorization}
    (h : authorizeBotCommand P s now answers captured command argument db = .ok (db', a)) (hallowed : a.allowed = true) :
    normalizedId P captured.graphUserId ≠ "" := by
  rcases authorizeBotCommand_cases h with ⟨-, -, rfl⟩ | ⟨_, _, _, haad, -⟩
  · nomatch hallowed
  · exact haad

/-- What an activity does to the routes: nothing, or what the handler of its command does for a sender with the
permission. -/
theorem receiveActivity_end {P : Platform} {s : Settings} {run : BotRun} {activity : List (String × Json)}
    {db db' : Database} {authorization : Option BotCommandAuthorization}
    (h : receiveActivity P s run activity db = .ok (db', authorization)) :
    ∃ db₁ reference,
      upsertReference P run.now run.referenceNames run.members (extractActivity P activity) db = .ok (db₁, reference) ∧
      ((SameRoutes db db' ∧ SameReferences db₁ db' ∧ ∀ a, authorization = some a → a.allowed = false ∧
          ∀ command argument p, commandOf P activity = some (command, argument) →
            requiredBotPermission P command argument (extractActivity P activity) = some p →
              a.permissions.get p = false) ∨
        ∃ db₂ command argument a, AllowedCommand P s activity command argument a db db₁ db₂ ∧ authorization = some a ∧
          handleCommand P s run (extractActivity P activity) reference command argument a.permissions db₂ = .ok db') := by
  obtain ⟨db₁, reference, hupsert, h⟩ := receiveActivity_cases h
  refine ⟨db₁, reference, hupsert, ?_⟩
  obtain ⟨references, n, hdb₁, hn⟩ := upsertReference_eq hupsert
  rcases h with ⟨-, rfl, rfl⟩ | ⟨command, argument, db₂, a, hcommand, rfl, hauthorize, h⟩
  · have hsame : SameRoutes db db' := by
      rw [hdb₁]
      exact ⟨rfl, rfl, rfl, hn⟩
    exact .inl ⟨hsame, ⟨rfl, le_refl _⟩, fun a ha => absurd ha (Option.some_ne_none a).symm⟩
  · obtain ⟨organizations, _, _, _, m, hdb₂, hm, horganizations⟩ := authorizeBotCommand_frame hauthorize
    have hreferences : SameReferences db₁ db₂ := by
      rw [hdb₂]
      exact ⟨rfl, hm⟩
    have hsame : SameRoutes db db₂ := by
      rw [hdb₂]
      rw [hdb₁] at hm ⊢
      exact ⟨rfl, rfl, rfl, hn.trans hm⟩
    rcases h with ⟨hdenied, rfl⟩ | ⟨hallowed, hhandle⟩
    · refine .inl ⟨hsame, hreferences, ?_⟩
      rintro a' ⟨⟩
      refine ⟨hdenied, fun command' argument' p hcommand' hp => ?_⟩
      rw [hcommand] at hcommand'
      obtain ⟨rfl, rfl⟩ := Prod.mk.inj (Option.some.inj hcommand')
      exact lacks_of_denied hauthorize hdenied hp
    · refine .inr ⟨db₂, command, argument, a, ⟨hcommand, hallowed, sender_of_allowed hauthorize hallowed,
        required_of_allowed hauthorize hallowed, hsame, hreferences, ?_⟩, rfl, hhandle⟩
      obtain ⟨hof, hfound⟩ := defaultOrganization_organizationOf s db₁
      have horg : db₂.organizations = (defaultOrganization s db₁).1.organizations := by
        rw [hdb₂]
        exact horganizations hallowed
      rw [← horg] at hfound
      rw [defaultOrganization_of_found hfound]
      have hnext : db.nextId ≤ db₁.nextId := by
        rw [hdb₁]
        exact hn
      have horgs : db₁.organizations = db.organizations := by rw [hdb₁]
      rw [OrganizationOf, horgs] at hof
      exact hof.imp id fun ⟨hnone, hid⟩ => ⟨hnone, hnext.trans hid⟩

end TeamsRehook
