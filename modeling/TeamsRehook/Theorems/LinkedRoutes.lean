import TeamsRehook.Lemmas.Commands
import TeamsRehook.Webhook.RouteDeletion

/-!
# Linked routes

The administration and the bot each have a rule for the routes that are linked to a conversation. That of the
administration has one case more: a route that delivers through Graph to the chat. And the administration looks in the
organization of the admin, the bot in the default one.
-/

namespace TeamsRehook

/-- The activity carries the ids of the reference. -/
structure Captured.Carries (captured : Captured) (reference : BotConversationReference) : Prop where
  conversationId : captured.conversationId = reference.conversationId
  graphTeamId : captured.graphTeamId = reference.graphTeamId
  channelId : captured.channelId = reference.channelId

/-- The administration, for an admin of the organization, and the bot take the same routes for linked. -/
def LinkedRoutesAgree (s : Settings) (organizationId : Nat) (reference : BotConversationReference) (captured : Captured)
    (db : Database) : Prop :=
  ∀ route, route ∈ findRoutesForConversationReference organizationId reference db ↔
    route ∈ (findRoutesForReference s captured db).2

/-- The route is the bot's route to the conversation. -/
def WebhookRoute.ofConversation (route : WebhookRoute) (reference : BotConversationReference) : Prop :=
  reference.conversationId ≠ "" ∧ route.botConversationId = reference.conversationId

/-- The route delivers to the channel of the conversation. -/
def WebhookRoute.ofChannel (route : WebhookRoute) (reference : BotConversationReference) : Prop :=
  reference.graphTeamId ≠ "" ∧ reference.channelId ≠ "" ∧ route.graphTeamId = reference.graphTeamId ∧
    route.graphChannelId = reference.channelId

/-- The route delivers through Graph to the chat that the conversation is. -/
def WebhookRoute.ofGraphChat (route : WebhookRoute) (reference : BotConversationReference) : Prop :=
  reference.conversationId ≠ "" ∧ route.graphTargetKind = TargetKind.chat.value ∧
    route.graphTargetId = reference.conversationId

namespace LinkedRoutesAux

variable {organizationId : Nat} {reference : BotConversationReference} {captured : Captured} {db : Database}
    {route : WebhookRoute}

/-- The routes the administration takes for linked. -/
theorem mem_findRoutesForConversationReference_iff (hids : Table.UniqueOn (·.id) db.routes) :
    route ∈ findRoutesForConversationReference organizationId reference db ↔
      route ∈ db.routes ∧ route.organizationId = organizationId ∧
        (route.ofConversation reference ∨ route.ofGraphChat reference ∨ route.ofChannel reference) := by
  unfold findRoutesForConversationReference
  rw [mem_routesById_iff hids fun r hr => List.mem_of_mem_filter (mem_newestFirst.1 hr), mem_newestFirst, List.mem_filter]
  simp only [WebhookRoute.linkedTo, WebhookRoute.ofConversation, WebhookRoute.ofGraphChat, WebhookRoute.ofChannel,
    Bool.and_eq_true, Bool.or_eq_true, beq_iff_eq, bne_iff_ne, and_assoc, and_or_left, or_assoc]

/-- The routes the bot takes for linked. -/
theorem mem_findRoutesForReference_iff {s : Settings} (hids : Table.UniqueOn (·.id) db.routes)
    (hcarries : captured.Carries reference) :
    route ∈ (findRoutesForReference s captured db).2 ↔
      route ∈ db.routes ∧ route.organizationId = (defaultOrganization s db).2.id ∧
        (route.ofConversation reference ∨ route.ofChannel reference) := by
  obtain ⟨organizations, n, hdefault, -⟩ := defaultOrganization_eq s db
  have hroutes : (defaultOrganization s db).1.routes = db.routes := by rw [hdefault]
  unfold findRoutesForReference conversationRoutes
  dsimp only
  rw [hroutes, mem_routesById_iff hids, List.mem_append, mem_newestFirst, mem_newestFirst]
  · simp only [List.mem_filter, hcarries.conversationId, hcarries.graphTeamId, hcarries.channelId,
      WebhookRoute.ofConversation, WebhookRoute.ofChannel, Bool.and_eq_true, beq_iff_eq, bne_iff_ne,
        and_assoc, and_or_left]
  · intro r hr
    rcases List.mem_append.1 hr with hr | hr
    · exact List.mem_of_mem_filter (List.mem_of_mem_filter (mem_newestFirst.1 hr))
    · exact List.mem_of_mem_filter (List.mem_of_mem_filter (mem_newestFirst.1 hr))

end LinkedRoutesAux

open LinkedRoutesAux

/-- The administration and the bot take the same routes for linked exactly when every route of the admin's organization
to the chat through Graph is also the bot's route to the conversation, or one to its channel, and the admin's
organization is the default one, or neither has a route to the conversation or its channel. -/
theorem linked_routes_agree_iff (s : Settings) (organizationId : Nat) (reference : BotConversationReference)
    (captured : Captured) (hcarries : captured.Carries reference) (db : Database)
    (hids : Table.UniqueOn (·.id) db.routes) :
    LinkedRoutesAgree s organizationId reference captured db ↔
      (∀ route ∈ db.routes, route.organizationId = organizationId → route.ofGraphChat reference →
        route.ofConversation reference ∨ route.ofChannel reference) ∧
        (organizationId = (defaultOrganization s db).2.id ∨
          ∀ route ∈ db.routes, route.organizationId = organizationId ∨
            route.organizationId = (defaultOrganization s db).2.id →
              ¬(route.ofConversation reference ∨ route.ofChannel reference)) := by
  unfold LinkedRoutesAgree
  simp only [mem_findRoutesForConversationReference_iff hids, mem_findRoutesForReference_iff hids hcarries]
  constructor
  · intro hagree
    refine ⟨fun route hroute horganization hchat => ?_, ?_⟩
    · exact ((hagree route).1 ⟨hroute, horganization, .inr (.inl hchat)⟩).2.2
    · -- In two organizations, the linked routes of both are none.
      by_cases hsame : organizationId = (defaultOrganization s db).2.id
      · exact .inl hsame
      · refine .inr fun route hroute horganization hlinked => ?_
        rcases horganization with hadmin | hdefault
        · have hbot := (hagree route).1 ⟨hroute, hadmin, hlinked.imp_right .inr⟩
          exact hsame (hadmin.symm.trans hbot.2.1)
        · have hadmin := (hagree route).2 ⟨hroute, hdefault, hlinked⟩
          exact hsame (hadmin.2.1.symm.trans hdefault)
  · rintro ⟨hchats, hsame | hnone⟩ route
    · constructor
      · rintro ⟨hroute, horganization, hconversation | hchat | hchannel⟩
        · exact ⟨hroute, horganization.trans hsame, .inl hconversation⟩
        · exact ⟨hroute, horganization.trans hsame, hchats route hroute horganization hchat⟩
        · exact ⟨hroute, horganization.trans hsame, .inr hchannel⟩
      · rintro ⟨hroute, horganization, hlinked⟩
        exact ⟨hroute, horganization.trans hsame.symm, hlinked.imp_right .inr⟩
    · constructor
      · rintro ⟨hroute, horganization, hconversation | hchat | hchannel⟩
        · exact absurd (.inl hconversation) (hnone route hroute (.inl horganization))
        · exact absurd (hchats route hroute horganization hchat) (hnone route hroute (.inl horganization))
        · exact absurd (.inr hchannel) (hnone route hroute (.inl horganization))
      · rintro ⟨hroute, horganization, hlinked⟩
        exact absurd hlinked (hnone route hroute (.inr horganization))

/-! ## Fixed inputs -/

/-- A group chat in which the bot is. -/
def opsChat : BotConversationReference :=
  { id := 2, conversationId := "19:ops@thread.v2", scope := "chat", lastSeenAt := 0, updatedAt := 0 }

/-- What an activity in the group chat gives. -/
def opsActivity : Captured :=
  { conversationId := "19:ops@thread.v2", serviceUrl := "https://smba.example/", conversationType := "groupchat" }

/-- A route that the bot registered for the group chat. -/
def opsBotRoute : WebhookRoute where
  id := 3
  organizationId := 1
  name := "ops"
  routeTokenHash := "ops-hash"
  botServiceUrl := "https://smba.example/"
  botConversationId := "19:ops@thread.v2"
  graphTargetKind := "chat"
  graphTargetId := "19:ops@thread.v2"

/-- A route that an admin created to the group chat through Graph. -/
def opsGraphRoute : WebhookRoute where
  id := 4
  organizationId := 1
  name := "ops through Graph"
  routeTokenHash := "ops-graph-hash"
  deliveryBackend := "graph"
  targetName := "Ops"
  graphTargetKind := "chat"
  graphTargetId := "19:ops@thread.v2"

/-- The tables of the default organization with a route. -/
def opsDatabase (route : WebhookRoute) : Database where
  organizations := [{ id := 1, slug := "default", name := "Default Organization" }]
  routes := [route]
  nextId := 5

/-- A route that the bot registered is linked for both. -/
theorem linked_routes_agree_registered : LinkedRoutesAgree {} 1 opsChat opsActivity (opsDatabase opsBotRoute) := by
  refine (linked_routes_agree_iff {} 1 opsChat opsActivity ⟨rfl, rfl, rfl⟩ _ (by decide)).2 ⟨?_, .inl rfl⟩
  intro route hroute _ _
  obtain rfl := List.mem_singleton.1 hroute
  exact .inl ⟨by decide, rfl⟩

/-- A route through Graph is linked for the administration, and no command of the bot finds it. -/
theorem graph_chat_route_not_linked :
    findRoutesForConversationReference 1 opsChat (opsDatabase opsGraphRoute) = [opsGraphRoute] ∧
      (findRoutesForReference {} opsActivity (opsDatabase opsGraphRoute)).2 = [] ∧
      ¬LinkedRoutesAgree {} 1 opsChat opsActivity (opsDatabase opsGraphRoute) := by
  have hadmin : findRoutesForConversationReference 1 opsChat (opsDatabase opsGraphRoute) = [opsGraphRoute] := rfl
  have hbot : (findRoutesForReference {} opsActivity (opsDatabase opsGraphRoute)).2 = [] := rfl
  refine ⟨hadmin, hbot, fun hagree => ?_⟩
  have hfound := (hagree opsGraphRoute).1 (by rw [hadmin]; exact List.mem_singleton_self _)
  rw [hbot] at hfound
  nomatch hfound

end TeamsRehook
