import TeamsRehook.Lemmas.References

/-!
# The permission to create a route

`register` demands a permission for the scope of the activity and stores a kind of target for what is known of the
conversation by then. The two agree exactly when a conversation outside a team has no channel and no team in Graph, and
a team has one.
-/

namespace TeamsRehook

/-- The permission demanded for `register` is the one for the kind of target that a route was stored with. -/
structure CreatePermissionLaw (P : Platform) (captured : Captured) (argument : String) (row : WebhookRoute) : Prop where
  channel : row.graphTargetKind = "channel" ∨ row.graphTargetKind = "team" →
    requiredBotPermission P .register argument captured = some .canCreateChannelRoutes
  privateChat : row.graphTargetKind = "user" ∨ row.graphTargetKind = "chat" →
    requiredBotPermission P .register argument captured = some .canCreatePrivateChatRoutes

/-- What is known of the conversation fits its scope: a personal conversation has neither a channel nor a team in Graph,
and a team is known in Graph. -/
structure ScopeFitsIds (P : Platform) (captured : Captured) (db : Database) : Prop where
  user : scopeFor P captured = .user → captured.channelId = "" ∧ (db.capturedIds P captured).graphTeamId = ""
  team : scopeFor P captured = .team → (db.capturedIds P captured).graphTeamId ≠ ""

/-- The activity is a `register` that its sender may run, with a name that is taken and a conversation that can be
referred to. -/
structure RegistersRoute (P : Platform) (activity : List (String × Json)) (a : BotCommandAuthorization)
    (name : String) : Prop where
  command : commandOf P activity = some (.register, name)
  allowed : a.allowed = true
  named : name ≠ "" ∧ name.length ≤ 200
  conversation : (extractActivity P activity).conversationId ≠ "" ∧ (extractActivity P activity).serviceUrl ≠ ""

namespace CreatePermissionAux

variable {P : Platform} {captured : Captured} {db : Database}

/-- The kind of target that is stored, from the scope of the activity and the ids that are known by then. -/
theorem graphTargetKind_effective {now : Int} {loaded found : BotConversationReference}
    (h : (loaded.captures P now captured).SameConversation found) (huser : captured.graphUserId ≠ "") :
    graphTargetKind P (capturedWithReference captured found) =
      if scopeFor P captured = .chat then .chat else if captured.channelId ≠ "" then .channel
      else if found.graphTeamId ≠ "" then .team else .user := by
  have hchannelId : (capturedWithReference captured found).channelId = captured.channelId := by
    have : found.channelId = captured.channelId := h.channelId
    simp [capturedWithReference, this]
  have hteamId : (capturedWithReference captured found).graphTeamId = found.graphTeamId := by
    have : found.graphTeamId = Python.orElse captured.graphTeamId loaded.graphTeamId := h.graphTeamId
    simp [capturedWithReference, this]
  have huserId : (capturedWithReference captured found).graphUserId ≠ "" := by
    simp only [capturedWithReference]
    exact Python.orElse_ne_empty huser _
  unfold graphTargetKind
  simp only [scopeFor_capturedWithReference h, hchannelId, hteamId, huserId, ne_eq, not_false_eq_true, true_or, if_true]

/-- The team that is known in Graph when a route is registered. -/
theorem graphTeamId_of_upsert {now : Int} {names : GraphNames} {fetched : Except Exn ConversationMembers} {db₁ : Database}
    {found : BotConversationReference} (h : upsertReference P now names fetched captured db = .ok (db₁, some found)) :
    (∃ loaded, (BotConversationReference.captures P now captured loaded).SameConversation found) ∧
      found.graphTeamId = (db.capturedIds P captured).graphTeamId := by
  rcases upsertReference_cases h with ⟨-, -, hnone⟩ | ⟨loaded, found', hfound, -, -, hsame, hloaded⟩
  · nomatch hnone
  · obtain rfl := Option.some.inj hfound
    refine ⟨⟨loaded, hsame⟩, hsame.graphTeamId.trans ?_⟩
    unfold Database.capturedIds
    rcases hloaded with ⟨hstored, -⟩ | ⟨hstored, -, -, hteam, -⟩
    · simp [BotConversationReference.captures, hstored]
    · simp [BotConversationReference.captures, hstored, hteam]

/-- The law, for the kind that `register` stores. -/
theorem law_iff {argument graphTeamId : String} {row : WebhookRoute}
    (hteam : (db.capturedIds P captured).graphTeamId = graphTeamId)
    (hkind : row.graphTargetKind = TargetKind.value (if scopeFor P captured = .chat then .chat
      else if captured.channelId ≠ "" then .channel else if graphTeamId ≠ "" then .team else .user)) :
    CreatePermissionLaw P captured argument row ↔ ScopeFitsIds P captured db := by
  have hrequired : requiredBotPermission P .register argument captured =
      some (if scopeFor P captured = .team ∨ scopeFor P captured = .channel then .canCreateChannelRoutes
        else .canCreatePrivateChatRoutes) := by
    unfold requiredBotPermission
    cases scopeFor P captured <;> rfl
  have hchannel : scopeFor P captured = .channel → captured.channelId ≠ "" := channelId_of_scopeFor
  have hinTeam : scopeFor P captured = .team → captured.channelId = "" := channelId_of_team
  constructor
  · rintro ⟨hlawChannel, hlawPrivate⟩
    rw [hrequired, hkind] at hlawChannel hlawPrivate
    refine ⟨fun hscope => ?_, fun hscope => ?_⟩
    · rw [hteam]
      by_cases hc : captured.channelId = "" <;> by_cases ht : graphTeamId = "" <;>
        simp_all [TargetKind.value]
    · rw [hteam]
      rintro rfl
      simp_all [TargetKind.value]
  · rintro ⟨huser, hteamScope⟩
    rw [hteam] at huser hteamScope
    refine ⟨fun hk => ?_, fun hk => ?_⟩
    · rw [hrequired]
      rw [hkind] at hk
      cases hscope : scopeFor P captured <;> simp_all [TargetKind.value]
    · rw [hrequired]
      rw [hkind] at hk
      cases hscope : scopeFor P captured <;> simp_all [TargetKind.value]

/-- The row that `register` stores is the one of its name. -/
theorem botRouteNamed_storeRegistered {now : Int} {organizationId : Nat} {name : String} {row : WebhookRoute}
    {db' : Database} (horganization : row.organizationId = organizationId) (hname : row.name = name)
    (hbackend : row.deliveryBackend = "bot_framework")
    (hid : ∀ route, db.botRouteNamed organizationId name = some route → route.id = row.id)
    (h : storeRegistered now organizationId name row db = .ok db') :
    db'.organizations = db.organizations ∧
      ∃ stored, db'.botRouteNamed organizationId name = some stored ∧ stored.graphTargetKind = row.graphTargetKind := by
  have hmatches : (row.organizationId == organizationId && row.name == name && row.deliveryBackend == "bot_framework") =
      true := by
    simp [horganization, hname, hbackend]
  unfold storeRegistered at h
  split at h
  next route hroute =>
    cases h
    obtain ⟨stored, hstored⟩ := Table.exists_find?_update (p := (·.id == row.id)) (f := fun r => r.flushed now row) hroute
      (beq_iff_eq.2 (hid route hroute)) fun _ => hmatches
    exact ⟨rfl, stored.flushed now row, hstored, rfl⟩
  next hroute =>
    unfold insertRoute at h
    split at h
    · nomatch h
    · cases h
      refine ⟨rfl, { row with updatedAt := now }, ?_, rfl⟩
      unfold Database.botRouteNamed at hroute ⊢
      rw [List.find?_append, hroute, Option.none_or, List.find?_cons]
      simp only [hmatches]

/-- The route that `register` works on is of the organization and has the name, and its id is that of the route there
was. -/
theorem routeToRegister_keys (P : Platform) (run : BotRun) (organizationId : Nat) (name : String) (effective : Captured)
    (db : Database) :
    (∀ route, db.botRouteNamed organizationId name = some route →
        route.id = (routeToRegister P run organizationId name effective db).id) ∧
      (routeToRegister P run organizationId name effective db).organizationId = organizationId ∧
      (routeToRegister P run organizationId name effective db).name = name := by
  unfold routeToRegister
  cases hroute : db.botRouteNamed organizationId name with
  | none => exact ⟨fun _ h => (nomatch h), rfl, rfl⟩
  | some route =>
    have hmatches := List.find?_some hroute
    simp only [Bool.and_eq_true, beq_iff_eq] at hmatches
    exact ⟨fun _ h => congrArg WebhookRoute.id (Option.some.inj h).symm, hmatches.1.1, hmatches.1.2⟩

end CreatePermissionAux

open CreatePermissionAux

/-- For every activity and all tables: the route that a `register` stores has the kind its permission is for exactly
when what is known of the conversation fits its scope. -/
theorem create_permission_matches_iff {P : Platform} (hlower : P.lower "" = "") {s : Settings} {run : BotRun}
    {body : Bytes} {activity : List (String × Json)} {db db' : Database} {a : BotCommandAuthorization} {name : String}
    (hbody : activityOfBody P body = .ok (some activity)) (h : receiveBotActivity P s run body db = .ok (db', some a))
    (hregister : RegistersRoute P activity a name) :
    ∃ organization row, db'.organizations.find? (·.slug == s.defaultOrgSlug) = some organization ∧
      db'.botRouteNamed organization.id name = some row ∧
      (CreatePermissionLaw P (extractActivity P activity) name row ↔ ScopeFitsIds P (extractActivity P activity) db) := by
  have h : receiveActivity P s run activity db = .ok (db', some a) := by
    unfold receiveBotActivity at h
    rw [hbody] at h
    exact h
  obtain ⟨hcommand, hallowed, ⟨hname, hlength⟩, hconversation, hservice⟩ := hregister
  obtain ⟨db₁, reference, hupsert, ⟨-, -, hdenied⟩ | ⟨db₂, command, argument, a', hrun, ha, hhandle⟩⟩ :=
    receiveActivity_end h
  · exact absurd (hallowed.symm.trans (hdenied a rfl).1) nofun
  obtain rfl := Option.some.inj ha
  obtain ⟨rfl, rfl⟩ := Prod.mk.inj (Option.some.inj (hrun.parsed.symm.trans hcommand))
  obtain ⟨found, rfl⟩ := upsertReference_isSome hupsert hconversation hservice
  obtain ⟨⟨loaded, hsame⟩, hteam⟩ := graphTeamId_of_upsert hupsert
  have huser : (extractActivity P activity).graphUserId ≠ "" := fun hempty => hrun.sender (by rw [hempty]; exact hlower)
  have hchecked : ¬(argument = "" ∨ 200 < argument.length ∨ (extractActivity P activity).serviceUrl = "" ∨
      (extractActivity P activity).conversationId = "") := by
    simp only [not_or, not_lt]
    exact ⟨hname, hlength, hservice, hconversation⟩
  unfold handleCommand at hhandle
  dsimp only at hhandle
  rw [registerRouteFromCommand_eq hchecked] at hhandle
  obtain ⟨row, hrow, hhandle⟩ := Except.bind_eq_ok_iff.1 hhandle
  obtain ⟨db₃, hstore, hhandle⟩ := Except.bind_eq_ok_iff.1 hhandle
  obtain rfl := Except.ok.inj hhandle
  obtain ⟨teamName, targetName, hrenamed⟩ := tryResolveRouteGraphNames_renamed hrow
  obtain ⟨hid, horganization, hnamed⟩ := routeToRegister_keys P run (defaultOrganization s db₂).2.id argument
    (capturedWithReference (extractActivity P activity) found) (defaultOrganization s db₂).1
  obtain ⟨horganizations, stored, hstored, hkind⟩ :=
    botRouteNamed_storeRegistered (hrenamed ▸ horganization) (hrenamed ▸ hnamed)
    (by rw [hrenamed]; rfl) (by rw [hrenamed]; exact hid) hstore
  have hfound := (defaultOrganization_organizationOf s db₂).2
  rw [← horganizations] at hfound
  have hlaw : CreatePermissionLaw P (extractActivity P activity) argument stored ↔
      ScopeFitsIds P (extractActivity P activity) db := by
    refine law_iff hteam.symm ?_
    rw [hkind, hrenamed, ← graphTargetKind_effective hsame huser]
    rfl
  refine ⟨(defaultOrganization s db₂).2, stored, ?_, ?_, hlaw⟩
  · split
    · obtain ⟨_, _, heq, -⟩ := issueWebhookRevealUrl_eq P s run.now (run.revealTokens 0) row db₃
      rw [heq]
      exact hfound
    · exact hfound
  · split
    · obtain ⟨_, _, heq, -⟩ := issueWebhookRevealUrl_eq P s run.now (run.revealTokens 0) row db₃
      rw [heq]
      exact hstored
    · exact hstored

/-! ## Fixed inputs -/

/-- Ada's message in a conversation of type `channel` of which Teams gives no team. -/
def channelMessageOfAda (text : String) : List (String × Json) :=
  [("type", .str "message"), ("text", .str text), ("serviceUrl", .str "https://smba.example/"),
    ("conversation", .obj [("id", .str "19:general"), ("conversationType", .str "channel")]),
    ("from", .obj [("id", .str "29:ada"), ("aadObjectId", .str "ada")])]

/-- Tables without routes, where Ada has some permissions. -/
def adaMayDatabase (permissions : BotPermissions) : Database where
  organizations := [{ id := 1, slug := "default", name := "Default Organization" }]
  botUsers := [{ id := 2, organizationId := 1, aadObjectId := "ada", displayName := "Ada", permissions := permissions }]
  nextId := 3

/-- Ada registers a route in her personal conversation, for which she has the permission. -/
theorem create_permission_matches_personal :
    ∃ db' a organization row,
      receiveBotActivity (.bodyOfAda "register alerts") {} offlineRun [0]
        (adaMayDatabase { canCreatePrivateChatRoutes := true }) = .ok (db', some a) ∧
      db'.botRouteNamed organization "alerts" = some row ∧ row.graphTargetKind = "user" ∧
      CreatePermissionLaw (.bodyOfAda "register alerts")
        (extractActivity (.bodyOfAda "register alerts") (personalMessageOfAda "register alerts")) "alerts" row := by
  obtain ⟨db', a, h⟩ : ∃ db' a, receiveBotActivity (.bodyOfAda "register alerts") {} offlineRun [0]
      (adaMayDatabase { canCreatePrivateChatRoutes := true }) = .ok (db', some a) := ⟨_, _, rfl⟩
  have hregister : RegistersRoute (.bodyOfAda "register alerts") (personalMessageOfAda "register alerts") a "alerts" := by
    cases h
    exact ⟨rfl, rfl, by decide, by decide⟩
  obtain ⟨organization, row, hfound, hrow, hlaw⟩ := create_permission_matches_iff rfl rfl h hregister
  have hkind : organization.id = 1 ∧ row.graphTargetKind = "user" := by
    cases h
    cases hfound
    cases hrow
    exact ⟨rfl, rfl⟩
  refine ⟨db', a, organization.id, row, h, hrow, hkind.2,
    hlaw.2 ⟨fun _ => by decide, fun hteam => absurd hteam (by decide)⟩⟩

/-- Ada, who may create routes in private chats only, registers a route that delivers to a channel. -/
theorem channel_route_created_as_private :
    ∃ db' a row,
      receiveBotActivity
      { Platform.plain with jsonLoadsBytes := fun _ => .ok (.obj (channelMessageOfAda "register alerts")) }
      {} offlineRun
        [0] (adaMayDatabase { canCreatePrivateChatRoutes := true }) = .ok (db', some a) ∧
      a.permissions.get .canCreateChannelRoutes = false ∧
      db'.botRouteNamed 1 "alerts" = some row ∧ row.graphTargetKind = "channel" ∧ row.graphTargetId = "19:general" ∧
      ¬CreatePermissionLaw .plain (extractActivity .plain (channelMessageOfAda "register alerts")) "alerts" row := by
  refine ⟨_, _, _, rfl, rfl, rfl, rfl, rfl, fun hlaw => ?_⟩
  have hrequired := hlaw.channel (.inl rfl)
  revert hrequired
  decide

end TeamsRehook
