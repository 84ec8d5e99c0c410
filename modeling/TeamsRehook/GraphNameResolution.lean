import TeamsRehook.Models

/-!
# Names from Graph

`services/graph_name_resolution.py`: the display names of the team, the channel and the user of a conversation reference
or a route. A row keeps the names it was given before a lookup raises.
-/

namespace TeamsRehook

/-- What the lookups in Graph give: the display name of the answer, or the exception. -/
structure GraphNames where
  team : String → Except Exn String
  channel : String → String → Except Exn String
  user : String → Except Exn String

/-- Lookups that name nothing. -/
def GraphNames.empty : GraphNames := ⟨fun _ => .ok "", fun _ _ => .ok "", fun _ => .ok ""⟩

/-- `_safe_team_name`. -/
def safeTeamName (G : GraphNames) (teamId : String) : Except Exn String :=
  if Python.strip teamId = "" then .ok "" else (G.team (Python.strip teamId)).map Python.strip

/-- `_safe_channel_name`. -/
def safeChannelName (G : GraphNames) (teamId channelId : String) : Except Exn String :=
  if Python.strip teamId = "" ∨ Python.strip channelId = "" then .ok ""
  else (G.channel (Python.strip teamId) (Python.strip channelId)).map Python.strip

/-- `_safe_user_name`. -/
def safeUserName (G : GraphNames) (userId : String) : Except Exn String :=
  if Python.strip userId = "" then .ok "" else (G.user (Python.strip userId)).map Python.strip

/-- A row after its changes, and the exception that ended them, if one did. -/
abbrev Changed (ρ : Type) := ρ × Option Exn

/-- The changes that follow, unless an exception ended the first ones. -/
def Changed.andThen {ρ : Type} (x : Changed ρ) (f : ρ → Changed ρ) : Changed ρ :=
  match x.2 with
  | none => f x.1
  | some e => (x.1, some e)

/-- A row with the name a lookup gives, when it is looked up and there is one. -/
def named {ρ : Type} (wanted : Bool) (look : Except Exn String) (set : String → ρ) (row : ρ) : Changed ρ :=
  if wanted then
    match look with
    | .ok name => (if name = "" then row else set name, none)
    | .error e => (row, some e)
  else (row, none)

/-- `resolve_reference_graph_names`. -/
def resolveReferenceGraphNames (G : GraphNames) (force : Bool) (reference : BotConversationReference) :
    Changed BotConversationReference :=
  ((named (reference.graphTeamId != "" && (force || reference.teamName == "")) (safeTeamName G reference.graphTeamId)
      (fun name => { reference with teamName := name }) reference).andThen fun reference =>
    named (reference.graphTeamId != "" && reference.channelId != "" && (force || reference.channelName == ""))
      (safeChannelName G reference.graphTeamId reference.channelId)
      (fun name => { reference with channelName := name }) reference).andThen fun reference =>
    named (reference.graphUserId != "" && (force || reference.userName == "")) (safeUserName G reference.graphUserId)
      (fun name => { reference with userName := name }) reference

/-- The name of a route's target, from the name of its channel and the names it has. -/
def resolveTargetName (G : GraphNames) (force : Bool) (channelName : String) (route : WebhookRoute) :
    Changed WebhookRoute :=
  if route.graphTargetKind = "channel" ∧ route.graphTeamName ≠ "" ∧ channelName ≠ "" then
    ({ route with targetName := route.graphTeamName ++ " / " ++ channelName }, none)
  else if route.graphTargetKind = "team" ∧ route.graphTeamName ≠ "" then
    ({ route with targetName := route.graphTeamName }, none)
  else
    named (route.graphTargetKind == "user" && route.graphTargetId != "" && (force || route.targetName == ""))
      (safeUserName G route.graphTargetId) (fun name => { route with targetName := name }) route

/-- `resolve_route_graph_names`. -/
def resolveRouteGraphNames (G : GraphNames) (force : Bool) (route : WebhookRoute) : Changed WebhookRoute :=
  let targetName := Python.strip route.targetName
  (named (route.graphTeamId != "" && (force || route.graphTeamName == "")) (safeTeamName G route.graphTeamId)
      (fun name => { route with graphTeamName := name }) route).andThen fun route =>
    let shouldResolveChannel := force ||
      (route.graphTargetKind == "channel" && (route.graphTeamName == "" || (Python.splitFirst targetName " / ").isNone))
    match if route.graphTeamId ≠ "" ∧ route.graphChannelId ≠ "" ∧ shouldResolveChannel = true then
        safeChannelName G route.graphTeamId route.graphChannelId else .ok "" with
    | .ok channelName => resolveTargetName G force channelName route
    | .error e => (route, some e)

/-- The changes of a row made in a `try` that catches the errors of Graph lookups: another exception is raised. -/
def Changed.try {ρ : Type} (x : Changed ρ) : Except Exn ρ :=
  match x.2 with
  | none => .ok x.1
  | some (.graphLookup _) => .ok x.1
  | some e => .error e

/-- `try_resolve_reference_graph_names`. -/
def tryResolveReferenceGraphNames (G : GraphNames) (force : Bool) (reference : BotConversationReference) :
    Except Exn BotConversationReference :=
  (resolveReferenceGraphNames G force reference).try

/-- `try_resolve_route_graph_names`. -/
def tryResolveRouteGraphNames (G : GraphNames) (force : Bool) (route : WebhookRoute) : Except Exn WebhookRoute :=
  (resolveRouteGraphNames G force route).try

/-! ## What a lookup changes -/

/-- A property of a row that a given name keeps is kept. -/
theorem named_invariant {ρ : Type} {I : ρ → Prop} {wanted : Bool} {look : Except Exn String} {set : String → ρ} {row : ρ}
    (h : I row) (hset : ∀ name, look = .ok name → name ≠ "" → I (set name)) : I (named wanted look set row).1 := by
  unfold named
  split
  · cases hl : look with
    | error e => exact h
    | ok name =>
      by_cases hname : name = ""
      · simpa [hname] using h
      · simpa [hname] using hset name hl hname
  · exact h

/-- What holds at the end when something stronger holds after the first changes, and the changes which follow give it
from there. -/
theorem Changed.andThen_of {ρ : Type} {I J : ρ → Prop} {x : Changed ρ} {f : ρ → Changed ρ} (h : I x.1)
    (hkeep : ∀ row, I row → J row) (hf : ∀ row, I row → J (f row).1) : J (x.andThen f).1 := by
  unfold Changed.andThen
  split
  · exact hf _ h
  · exact hkeep _ h

/-- A property that holds after the first changes and that the changes which follow keep holds at the end. -/
theorem Changed.andThen_invariant {ρ : Type} {I : ρ → Prop} {x : Changed ρ} {f : ρ → Changed ρ} (h : I x.1)
    (hf : ∀ row, I row → I (f row).1) : I (x.andThen f).1 :=
  Changed.andThen_of h (fun _ h => h) hf

/-- The row that a `try` leaves is the changed one. -/
theorem Changed.eq_of_try {ρ : Type} {x : Changed ρ} {row : ρ} (h : x.try = .ok row) : row = x.1 := by
  unfold Changed.try at h
  split at h
  · exact (Except.ok.inj h).symm
  · exact (Except.ok.inj h).symm
  · nomatch h

/-- A name that a lookup gives is a stripped text. -/
theorem eq_strip_of_lookup {c : Prop} [Decidable c] {look : Except Exn String} {name : String}
    (h : (if c then .ok "" else look.map Python.strip) = .ok name) (hne : name ≠ "") :
    ∃ text, name = Python.strip text := by
  split at h
  · exact absurd (Except.ok.inj h).symm hne
  · cases look with
    | error e => nomatch h
    | ok text => exact ⟨text, (Except.ok.inj h).symm⟩

/-- A property of references that other names keep is kept. -/
theorem resolveReferenceGraphNames_invariant {I : BotConversationReference → Prop} (G : GraphNames) (force : Bool)
    {reference : BotConversationReference} (h : I reference)
    (hteam : ∀ r text, Python.strip text ≠ "" → I r → I { r with teamName := Python.strip text })
    (hchannel : ∀ r text, Python.strip text ≠ "" → I r → I { r with channelName := Python.strip text })
    (huser : ∀ r text, Python.strip text ≠ "" → I r → I { r with userName := Python.strip text }) :
    I (resolveReferenceGraphNames G force reference).1 := by
  unfold resolveReferenceGraphNames
  apply Changed.andThen_invariant
  · apply Changed.andThen_invariant
    · apply named_invariant h
      intro name hname hne
      obtain ⟨text, rfl⟩ := eq_strip_of_lookup hname hne
      exact hteam _ _ hne h
    · intro r hr
      apply named_invariant hr
      intro name hname hne
      obtain ⟨text, rfl⟩ := eq_strip_of_lookup hname hne
      exact hchannel _ _ hne hr
  · intro r hr
    apply named_invariant hr
    intro name hname hne
    obtain ⟨text, rfl⟩ := eq_strip_of_lookup hname hne
    exact huser _ _ hne hr

end TeamsRehook
