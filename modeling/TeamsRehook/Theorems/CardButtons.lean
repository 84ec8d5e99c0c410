import TeamsRehook.Bot.Cards
import TeamsRehook.Webhook.Administration

/-!
# Card buttons

A button that names a route acts on that route when it is pressed in the same conversation, exactly when whitespace in
the name of the route is as a command keeps it, and no route of that name is linked before it.
-/

namespace TeamsRehook

/-- The activity is sent in the conversation that routes were found for. -/
structure Captured.InConversation (captured sent : Captured) : Prop where
  conversationId : sent.conversationId = captured.conversationId
  graphTeamId : sent.graphTeamId = captured.graphTeamId
  channelId : sent.channelId = captured.channelId

/-- The activity runs the command of the data, for the route. -/
def ActsOn (P : Platform) (organizationId : Nat) (activity data : List (String × Json)) (route : WebhookRoute)
    (db : Database) : Prop :=
  ∃ command argument, parseActivityCommand P activity = some (command, argument) ∧
    BotCommand.ofName? (string (item "command" data)) = some command ∧
    resolveLinkedRoute organizationId (extractActivity P activity) argument db = some route

/-- The name of the route is one that a command keeps, and no route linked before has it; or it is blank, and no other
route is linked. -/
def NamesRoute (linked : List WebhookRoute) (route : WebhookRoute) : Prop :=
  (Python.collapse route.name = route.name ∧
      ∃ before after, linked = before ++ route :: after ∧ ∀ other ∈ before, other.name ≠ route.name) ∨
    (Python.strip route.name = "" ∧ linked = [route])

namespace CardButtonsAux

variable {P : Platform} {organizationId : Nat} {db : Database} {route : WebhookRoute}

/-- The same routes are linked to the same conversation. -/
theorem conversationRoutes_inConversation {captured sent : Captured} (h : captured.InConversation sent) :
    conversationRoutes organizationId sent db = conversationRoutes organizationId captured db := by
  unfold conversationRoutes
  rw [h.conversationId, h.graphTeamId, h.channelId]

/-- What a submit action with a route name carries. -/
theorem data_of_routeSafeActions {revealUrl title : String} {includeStatusToggle : Bool} {data : List (String × Json)}
    (hnamed : route.name ≠ "") (h : .submit title data ∈ routeSafeActions route revealUrl includeStatusToggle) :
    ∃ word, (word = "info" ∨ word = "enable" ∨ word = "disable") ∧
    data = [("command", .str word), ("route_name", .str route.name)] := by
  have hsubmit : ∀ {title' word : String}, CardAction.submit title data = submitCommandAction title' word route.name →
      data = [("command", .str word), ("route_name", .str route.name)] := by
    intro title' word heq
    unfold submitCommandAction at heq
    rw [if_neg hnamed] at heq
    exact (CardAction.submit.inj heq).2
  unfold routeSafeActions at h
  rcases List.mem_append.1 h with h | h
  · rcases List.mem_append.1 h with h | h
    · split at h
      · nomatch h
      · nomatch List.mem_singleton.1 h
    · exact ⟨"info", .inl rfl, hsubmit (List.mem_singleton.1 h)⟩
  · split at h
    · have hdata := hsubmit (List.mem_singleton.1 h)
      cases hactive : route.isActive with
      | true => exact ⟨"disable", .inr (.inr rfl), by simpa [hactive] using hdata⟩
      | false => exact ⟨"enable", .inr (.inl rfl), by simpa [hactive] using hdata⟩
    · nomatch h

/-- The commands of the buttons are read as they are written. -/
theorem parseCommand_word (hunescape : ∀ text, '&' ∉ text.toList → P.htmlUnescape text = text) {word : String}
    (hword : word = "info" ∨ word = "enable" ∨ word = "disable") :
    ∃ command, BotCommand.ofName? word = some command ∧ command.safeSubmit = true ∧
    parseCommand P word = some (command, "") := by
  rcases hword with rfl | rfl | rfl
  · refine ⟨.info, rfl, rfl, ?_⟩
    unfold parseCommand
    rw [show String.ofList (removeMentions 0 "info".toList) = "info" by decide, hunescape _ (by decide)]
    rfl
  · refine ⟨.enable, rfl, rfl, ?_⟩
    unfold parseCommand
    rw [show String.ofList (removeMentions 0 "enable".toList) = "enable" by decide, hunescape _ (by decide)]
    rfl
  · refine ⟨.disable, rfl, rfl, ?_⟩
    unfold parseCommand
    rw [show String.ofList (removeMentions 0 "disable".toList) = "disable" by decide, hunescape _ (by decide)]
    rfl

/-- A button is read as its command, with the collapsed name of the route. -/
theorem parseSubmitCommand_button (hunescape : ∀ text, '&' ∉ text.toList → P.htmlUnescape text = text)
    {word name : String} (hword : word = "info" ∨ word = "enable" ∨ word = "disable") :
    ∃ command, BotCommand.ofName? word = some command ∧
      parseSubmitCommand P [("command", .str word), ("route_name", .str name)] =
      some (command, Python.collapse name) := by
  obtain ⟨command, hof, hsafe, hparse⟩ := parseCommand_word hunescape hword
  refine ⟨command, hof, ?_⟩
  have hstrip : Python.strip word = word ∧ word ≠ "" := by
    rcases hword with rfl | rfl | rfl <;> decide
  have hcommand : Python.strip (string (item "command" [("command", .str word), ("route_name", .str name)])) = word := by
    show Python.strip (Python.strip word) = word
    rw [hstrip.1, hstrip.1]
  have hargument : Python.collapse (Python.strip (Python.orElse (Python.orElse (Python.strip name) "") "")) =
      Python.collapse name := by
    have horElse : ∀ x : String, Python.orElse x "" = x := fun x => by
      unfold Python.orElse
      split
      next h => exact h.symm
      next => rfl
    rw [horElse, horElse, Python.collapse_strip, Python.collapse_strip]
  unfold parseSubmitCommand
  simp only [hcommand, hstrip.2, if_false, hparse, Option.some_or, hsafe, if_true]
  exact congrArg (fun argument => some (command, argument)) hargument

/-- The linked route that a collapsed name resolves to. -/
theorem resolveLinkedRoute_collapse_iff {captured : Captured} (hnamed : route.name ≠ "") :
    resolveLinkedRoute organizationId captured (Python.collapse route.name) db = some route ↔
      NamesRoute (conversationRoutes organizationId captured db) route := by
  unfold resolveLinkedRoute NamesRoute
  dsimp only
  generalize conversationRoutes organizationId captured db = linked
  by_cases hblank : Python.collapse route.name = ""
  · have hstrip : Python.strip route.name = "" := Python.collapse_eq_empty_iff.1 hblank
    have hne : Python.collapse route.name ≠ route.name := fun h => hnamed (h.symm.trans hblank)
    rw [if_neg (not_not.2 hblank)]
    constructor
    · intro h
      split at h
      · obtain rfl := Option.some.inj h
        exact .inr ⟨hstrip, rfl⟩
      · nomatch h
    · rintro (⟨hname, -⟩ | ⟨-, rfl⟩)
      · exact absurd hname hne
      · rfl
  · have hstrip : Python.strip route.name ≠ "" := fun h => hblank (Python.collapse_eq_empty_iff.2 h)
    rw [if_pos hblank, List.find?_eq_some_iff_append]
    constructor
    · rintro ⟨hname, before, after, hlinked, hbefore⟩
      have hname : route.name = Python.collapse route.name := beq_iff_eq.1 hname
      refine .inl ⟨hname.symm, before, after, hlinked, fun other hother heq => ?_⟩
      have := hbefore other hother
      rw [heq, ← hname] at this
      simp at this
    · rintro (⟨hname, before, after, hlinked, hbefore⟩ | ⟨hblank', -⟩)
      · rw [hname]
        refine ⟨beq_self_eq_true _, before, after, hlinked, fun other hother => ?_⟩
        simpa using hbefore other hother
      · exact absurd hblank' hstrip

end CardButtonsAux

open CardButtonsAux

/-- For every route with a name and every button the bot draws for it with the name: pressing the button in the same
conversation runs its command for that very route exactly when the name of the route comes back and is the first of its
kind there. -/
theorem card_buttons_act_on_route_iff {P : Platform} (hunescape : ∀ text, '&' ∉ text.toList → P.htmlUnescape text = text)
    {organizationId : Nat} {captured : Captured} {db : Database} {route : WebhookRoute} {revealUrl title : String}
    {includeStatusToggle : Bool} {activity data : List (String × Json)} (hnamed : route.name ≠ "")
    (hdrawn : .submit title data ∈ routeSafeActions route revealUrl includeStatusToggle)
    (hvalue : item "value" activity = .obj data) (hsent : captured.InConversation (extractActivity P activity)) :
    ActsOn P organizationId activity data route db ↔
    NamesRoute (conversationRoutes organizationId captured db) route := by
  obtain ⟨word, hword, rfl⟩ := data_of_routeSafeActions hnamed hdrawn
  obtain ⟨command, hof, hsubmit⟩ := @parseSubmitCommand_button P hunescape word route.name hword
  have hparse : parseActivityCommand P activity = some (command, Python.collapse route.name) := by
    unfold parseActivityCommand
    rw [hvalue, dict, hsubmit]
    rfl
  rw [← conversationRoutes_inConversation hsent, ← resolveLinkedRoute_collapse_iff hnamed]
  constructor
  · rintro ⟨command', argument, hparse', -, hresolve⟩
    obtain ⟨-, rfl⟩ := Prod.mk.inj (Option.some.inj (hparse.symm.trans hparse'))
    exact hresolve
  · intro hresolve
    refine ⟨command, Python.collapse route.name, hparse, ?_, hresolve⟩
    have hstrip : Python.strip word = word := by
      rcases hword with rfl | rfl | rfl <;> decide
    show BotCommand.ofName? (Python.strip word) = some command
    rw [hstrip]
    exact hof

/-! ## Fixed inputs -/

/-- The activity that Teams sends when Ada presses a button in her personal conversation. -/
def pressedByAda (data : List (String × Json)) : List (String × Json) :=
  [("type", .str "message"), ("value", .obj data), ("serviceUrl", .str "https://smba.example/"),
    ("conversation", .obj [("id", .str "19:ada"), ("conversationType", .str "personal")]),
    ("from", .obj [("id", .str "29:ada"), ("aadObjectId", .str "ada")])]

/-- A request for a route with a name that delivers to Ada's conversation. -/
def routeToAda (name : String) : WebhookRouteCreate where
  name := name
  targetName := "Ada"
  botServiceUrl := "https://smba.example/"
  botConversationId := "19:ada"

/-- An admin's request when no service is called. -/
def offlineRouteRun : RouteRun where
  now := 0
  oneOnOneChat _ _ _ := .error .valueError
  routeToken := "route-token"

/-- The button of a route that an admin created acts on the route. -/
theorem card_buttons_act_on_named_route :
    ∃ db route, createWebhookRoute .plain {} offlineRouteRun 1 (routeToAda "jira alerts") { nextId := 2 } = .ok db ∧
      db.routes = [route] ∧
      ActsOn .plain 1 (pressedByAda [("command", .str "disable"), ("route_name", .str "jira alerts")])
        [("command", .str "disable"), ("route_name", .str "jira alerts")] route db := by
  have hsent : Captured.InConversation (extractActivity .plain (pressedByAda [])) (extractActivity .plain
      (pressedByAda [("command", .str "disable"), ("route_name", .str "jira alerts")])) := ⟨rfl, rfl, rfl⟩
  refine ⟨_, _, rfl, rfl, ?_⟩
  refine (card_buttons_act_on_route_iff (fun _ _ => rfl) ?_
    (?_ : CardAction.submit "Disable" _ ∈ routeSafeActions _ "" true) rfl
    hsent).2 ?_
  · show ("jira alerts" : String) ≠ ""
    decide
  · exact List.mem_cons_of_mem _ List.mem_cons_self
  · exact .inl ⟨by decide, [], [], rfl, fun other hother => nomatch hother⟩

/-- The button of a route that an admin named with two spaces acts on no route: its name comes back with one. -/
theorem card_button_of_spaced_name_lost :
    ∃ db route, createWebhookRoute .plain {} offlineRouteRun 1 (routeToAda "jira  alerts") { nextId := 2 } = .ok db ∧
      conversationRoutes 1 (extractActivity .plain (pressedByAda [])) db = [route] ∧ route.name = "jira  alerts" ∧
      CardAction.submit "Disable" [("command", .str "disable"), ("route_name", .str "jira  alerts")] ∈ routeSafeActions
      route "" true ∧ parseActivityCommand .plain
      (pressedByAda [("command", .str "disable"), ("route_name", .str "jira  alerts")]) =
        some (.disable, "jira alerts") ∧
      ¬ActsOn .plain 1 (pressedByAda [("command", .str "disable"), ("route_name", .str "jira  alerts")])
        [("command", .str "disable"), ("route_name", .str "jira  alerts")] route db := by
  refine ⟨_, _, rfl, rfl, rfl, List.mem_cons_of_mem _ List.mem_cons_self, rfl, ?_⟩
  rintro ⟨command, argument, hparse, -, hresolve⟩
  cases hparse
  nomatch hresolve

end TeamsRehook
