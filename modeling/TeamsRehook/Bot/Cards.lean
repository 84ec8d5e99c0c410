import TeamsRehook.Bot.Commands

/-!
# Buttons of cards

The buttons the bot draws for a route (`_route_safe_actions` of `routers/bot_messages.py`). Teams sends the data of an
`Action.Submit` back as the value of an activity.
-/

namespace TeamsRehook

/-- A button of a card. -/
inductive CardAction where
  /-- `Action.OpenUrl`. -/
  | openUrl (title url : String)
  /-- `Action.Submit`. -/
  | submit (title : String) (data : List (String × Json))
  deriving Repr

/-- `_submit_command_action`. -/
def submitCommandAction (title command routeName : String) : CardAction :=
  .submit title ([("command", .str command)] ++ if routeName = "" then [] else [("route_name", .str routeName)])

/-- `_route_safe_actions`. -/
def routeSafeActions (route : WebhookRoute) (revealUrl : String) (includeStatusToggle : Bool) : List CardAction :=
  (if revealUrl = "" then [] else [.openUrl "Open webhook URL" revealUrl]) ++
    [submitCommandAction "Info" "info" route.name] ++
    if includeStatusToggle then
      [submitCommandAction (if route.isActive then "Disable" else "Enable") (if route.isActive then "disable"
        else "enable") route.name]
    else []

end TeamsRehook
