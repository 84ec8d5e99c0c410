import TeamsRehook.Models
import TeamsRehook.Platform

/-!
# Payloads

`services/webhook_payloads.py`: the body of a request becomes the message that is delivered. What turns a value into
text raises a `ValueError` for an integer with too many digits, as `int.__repr__` does, and what calls itself for the
parts of a value raises a `RecursionError` once the value is nested deeper than the calls the interpreter still allows,
`frames`.
-/

namespace TeamsRehook

/-! ## Values as text -/

/-- `sys.get_int_max_str_digits()`. -/
def intMaxStrDigits : Nat := 4300

mutual

/-- No integer in the value has more digits than the limit. -/
def withinDigits (limit : Nat) : Json → Bool
  | .int n => n.natAbs < 10 ^ limit
  | .arr items => withinDigitsItems limit items
  | .obj members => withinDigitsMembers limit members
  | _ => true

/-- No integer in the items has more digits than the limit. -/
def withinDigitsItems (limit : Nat) : List Json → Bool
  | [] => true
  | v :: rest => withinDigits limit v && withinDigitsItems limit rest

/-- No integer in the members has more digits than the limit. -/
def withinDigitsMembers (limit : Nat) : List (String × Json) → Bool
  | [] => true
  | (_, v) :: rest => withinDigits limit v && withinDigitsMembers limit rest

end

mutual

/-- How many calls are nested in one that calls itself for every part of the value. -/
def nesting : Json → Nat
  | .arr items => nestingItems items + 1
  | .obj members => nestingMembers members + 1
  | _ => 1

/-- The most calls nested in a call for one of the items. -/
def nestingItems : List Json → Nat
  | [] => 0
  | v :: rest => max (nesting v) (nestingItems rest)

/-- The most calls nested in a call for one of the members. -/
def nestingMembers : List (String × Json) → Nat
  | [] => 0
  | (_, v) :: rest => max (nesting v) (nestingMembers rest)

end

/-- What writing the value as text raises, if it raises. -/
def writable (frames : Nat) (v : Json) : Except Exn Unit :=
  if withinDigits intMaxStrDigits v = false then .error .valueError
  else if frames < nesting v then .error .recursionError
  else .ok ()

/-- `str(value)`. -/
def str (P : Platform) (frames : Nat) (v : Json) : Except Exn String := (writable frames v).map fun _ => strOf P v

/-- `json.dumps(value, ensure_ascii=False, sort_keys=True)`. -/
def dumps (frames : Nat) (v : Json) : Except Exn String := (writable frames v).map fun _ => Json.dumps false true v

/-- `truncate_text`. -/
def truncateText (value : String) (limit : Nat) : String :=
  if value.length ≤ limit then value else Python.clip value (limit - 3) ++ "..."

/-! ## Complexity -/

/-- `MAX_JSON_DEPTH`. -/
def maxJsonDepth : Nat := 80

/-- `MAX_JSON_NODES`. -/
def maxJsonNodes : Nat := 5000

/-- What `stack.extend` appends for a value at a depth, the last part first. -/
def stackedParts (depth : Nat) : Json → List (Json × Nat)
  | .obj members => (members.map fun m => (m.2, depth + 1)).reverse
  | .arr items => (items.map fun v => (v, depth + 1)).reverse
  | _ => []

/-- The loop of `_validate_json_complexity`, from the number of nodes that may still come and the stack, the last one
first. -/
def validateStack : Nat → List (Json × Nat) → Except Exn Unit
  | _, [] => .ok ()
  | 0, (_, depth) :: _ =>
    if maxJsonDepth < depth then .error (.webhookPayload "Webhook JSON payload is too deeply nested")
    else .error (.webhookPayload "Webhook JSON payload is too complex")
  | nodes + 1, (current, depth) :: stack =>
    if maxJsonDepth < depth then .error (.webhookPayload "Webhook JSON payload is too deeply nested")
    else validateStack nodes (stackedParts depth current ++ stack)

/-- `_validate_json_complexity`. -/
def validateJsonComplexity (value : Json) : Except Exn Unit := validateStack maxJsonNodes [(value, 0)]

/-! ## Parts of a message -/

/-- The lines of `_facts_text` and `_adaptive_facts_text`, from the key of the name. -/
def factLines (P : Platform) (frames : Nat) (nameKey : String) : List Json → Except Exn (List String)
  | [] => .ok []
  | .obj fact :: rest =>
    match item nameKey fact, item "value" fact with
    | .null, _ | _, .null => factLines P frames nameKey rest
    | name, value => do
      let nameText ← str P frames name
      let valueText ← str P frames value
      return (nameText ++ ": " ++ valueText) :: (← factLines P frames nameKey rest)
  | _ :: rest => factLines P frames nameKey rest

/-- The lines of the facts of a value that is a list of them. -/
def factsTextOf (P : Platform) (frames : Nat) (nameKey : String) : Json → Except Exn String
  | .arr facts => (factLines P frames nameKey facts).map ("\n".intercalate ·)
  | _ => .ok ""

/-- `_facts_text`. -/
def factsText (P : Platform) (frames : Nat) (value : Json) : Except Exn String := factsTextOf P frames "name" value

/-- `_adaptive_facts_text`. -/
def adaptiveFactsText (P : Platform) (frames : Nat) (value : Json) : Except Exn String :=
  factsTextOf P frames "title" value

/-- `_first_text`. -/
def firstText (P : Platform) (frames : Nat) (value : List (String × Json)) : List String → Except Exn String
  | [] => .ok ""
  | key :: keys =>
    match item key value with
    | .str candidate =>
      if Python.strip candidate ≠ "" then .ok (Python.strip candidate) else firstText P frames value keys
    | .int n => str P frames (.int n)
    | .float r => str P frames (.float r)
    | .bool b => str P frames (.bool b)
    | _ => firstText P frames value keys

/-- The lines of `_message_card_sections`. -/
def sectionLines (P : Platform) (frames : Nat) : List Json → Except Exn (List String)
  | [] => .ok []
  | .obj part :: rest => do
    let title ← firstText P frames part ["activityTitle", "title"]
    let subtitle ← firstText P frames part ["activitySubtitle", "subtitle"]
    let text ← firstText P frames part ["text"]
    let facts ← factsText P frames (item "facts" part)
    let parts := [title, subtitle, text, facts].filter (· != "")
    let lines ← sectionLines P frames rest
    return if parts.isEmpty then lines else "\n".intercalate parts :: lines
  | _ :: rest => sectionLines P frames rest

/-- `_message_card_sections`. -/
def messageCardSections (P : Platform) (frames : Nat) : Json → Except Exn String
  | .arr sections => (sectionLines P frames sections).map ("\n\n".intercalate ·)
  | _ => .ok ""

/-! ## Adaptive Cards -/

/-- Whether one of the attachments is an Adaptive Card. -/
def hasAdaptiveCard (P : Platform) (frames : Nat) : List Json → Except Exn Bool
  | [] => .ok false
  | .obj attachment :: rest => do
    let contentType ← str P frames (orElse (item "contentType" attachment) (.str ""))
    if contentType = "application/vnd.microsoft.card.adaptive" then return true else hasAdaptiveCard P frames rest
  | _ :: rest => hasAdaptiveCard P frames rest

/-- `_is_bot_activity_with_attachments`. -/
def isBotActivityWithAttachments (P : Platform) (frames : Nat) (value : List (String × Json)) : Except Exn Bool :=
  match item "type" value, item "attachments" value with
  | .str "message", .arr attachments => hasAdaptiveCard P frames attachments
  | _, _ => .ok false

/-- The text of a value that is a `TextBlock`, if it has one. -/
def textBlock (value : List (String × Json)) : List String :=
  match item "type" value, item "text" value with
  | .str "TextBlock", .str text => if Python.strip text ≠ "" then [Python.strip text] else []
  | _, _ => []

/-- The text of a value that is a `FactSet`, if it has one. -/
def factSet (P : Platform) (frames : Nat) (value : List (String × Json)) : Except Exn (List String) :=
  match item "type" value with
  | .str "FactSet" => do
    let factText ← adaptiveFactsText P frames (item "facts" value)
    return if factText = "" then [] else [factText]
  | _ => .ok []

/-- `_collect_adaptive_card_text`: the text blocks and the facts with those of the value. -/
def collectAdaptiveCardText (P : Platform) :
    Nat → Json → List String × List String → Except Exn (List String × List String)
  | 0, _, _ => .error .recursionError
  | frames + 1, .obj value, (textBlocks, facts) => do
    let found ← factSet P frames value
    value.foldlM (fun texts child => collectAdaptiveCardText P frames child.2 texts) (textBlocks ++ textBlock value,
      facts ++ found)
  | frames + 1, .arr value, texts => value.foldlM (fun texts child => collectAdaptiveCardText P frames child texts) texts
  | _ + 1, _, texts => .ok texts

/-- The text blocks and the facts of the attachments. -/
def collectAttachments (P : Platform) (frames : Nat) (attachments : List Json) : Except Exn (List String × List String) :=
  attachments.foldlM (fun texts attachment =>
    match attachment with
    | .obj members =>
      match item "content" members with
      | .obj content => collectAdaptiveCardText P frames (.obj content) texts
      | _ => .ok texts
    | _ => .ok texts) ([], [])

/-- `_activity_summary`: the title and the text. -/
def activitySummary (P : Platform) (frames : Nat) (activity : List (String × Json)) : Except Exn (String × String) := do
  let attachments := match item "attachments" activity with
    | .arr attachments => attachments
    | _ => []
  let (textBlocks, facts) ← collectAttachments P frames attachments
  let title := (textBlocks.find? (Python.strip · != "")).getD ""
  let body := "\n".intercalate ((textBlocks.drop 1 ++ facts).filter (Python.strip · != ""))
  return (title, body)

/-! ## The message -/

/-- The message for an activity with Adaptive Cards. -/
def activityMessage (P : Platform) (frames : Nat) (value : List (String × Json)) : Except Exn NormalizedMessage := do
  let (title, text) ← activitySummary P frames value
  return {
    title := truncateText (Python.orElse title "Adaptive card message") 255
    text := truncateText (Python.orElse text "Adaptive card payload") 4000
    severity := "info"
    rawType := "adaptive_card_activity"
    activity := some value }

/-- The message for another object. -/
def objectMessage (P : Platform) (frames : Nat) (value : List (String × Json)) : Except Exn NormalizedMessage := do
  let rawType ← str P frames (orElse (orElse (item "@type" value) (item "type" value)) (.str "json_object"))
  let title ← firstText P frames value ["title", "summary", "subject", "event", "name"]
  let status ← firstText P frames value ["status", "state"]
  let severity ← firstText P frames value ["severity", "level", "priority"]
  let bodyText ← firstText P frames value ["text", "message", "description", "details", "summary"]
  let sectionText ← messageCardSections P frames (item "sections" value)
  let facts ← factsText P frames (item "facts" value)
  let fallbackText ← if bodyText ≠ "" ∨ sectionText ≠ "" ∨ facts ≠ "" then .ok "" else dumps frames (.obj value)
  let parts := [bodyText, sectionText, facts, fallbackText].filter (· != "")
  return {
    title := truncateText (Python.orElse title "Webhook message") 255
    text := truncateText ("\n\n".intercalate parts) 4000
    severity := truncateText (P.lower (Python.orElse severity (Python.orElse status "info"))) 40
    status := truncateText status 40
    rawType := truncateText rawType 80 }

/-- `_normalize_json`. -/
def normalizeJson (P : Platform) (frames : Nat) : Json → Except Exn NormalizedMessage
  | .arr [] => .error (.webhookPayload "Webhook JSON array must not be empty")
  | .arr items => do
    let text ← dumps frames (.arr items)
    return { title := "Webhook message", text := truncateText text 2000, rawType := "json_array" }
  | .obj [] => .error (.webhookPayload "Webhook JSON object must not be empty")
  | .obj value => do
    if ← isBotActivityWithAttachments P frames value then activityMessage P frames value else objectMessage P frames value
  | _ => .error (.webhookPayload "Webhook JSON payload must be an object or array")

/-- The characters `bytes.strip` removes. -/
def isSpaceByte (b : UInt8) : Bool := (9 ≤ b && b ≤ 13) || b == 32

/-- The text of a payload: `payload.decode("utf-8", errors="replace").strip()`. -/
def payloadText (P : Platform) (payload : Bytes) : String := Python.strip (P.decodeUtf8Replace payload)

/-- Whether a payload is read as JSON. -/
def readsAsJson (P : Platform) (payload : Bytes) (contentType : String) : Bool :=
  (Python.splitFirst (P.lower contentType) "json").isSome || Python.startsWith (payloadText P payload) "\x7b" ||
    Python.startsWith (payloadText P payload) "["

/-- `normalize_webhook_payload`. -/
def normalizeWebhookPayload (P : Platform) (frames : Nat) (payload : Bytes) (contentType : String) :
    Except Exn NormalizedMessage :=
  if payload.all isSpaceByte then .error (.webhookPayload "Webhook payload must not be empty")
  else if readsAsJson P payload contentType then
    match P.jsonLoads (payloadText P payload) with
    | .ok parsed => do
      validateJsonComplexity parsed
      normalizeJson P frames parsed
    | .error .jsonDecodeError => .error (.webhookPayload "Webhook payload is not valid JSON")
    | .error .recursionError => .error (.webhookPayload "Webhook JSON payload is too deeply nested")
    | .error .valueError => .error .valueError
  else .ok { title := "Webhook message", text := truncateText (payloadText P payload) 2000, rawType := "text" }

end TeamsRehook
