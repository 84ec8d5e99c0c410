import TeamsRehook.Lib.JsonTree
import TeamsRehook.Lib.Python

/-!
# The event log

`services/event_log.py`: what is taken out of an event before it is stored and printed. Values lose what stands under
sensitive keys and what is too long, and the paths of requests lose the segments that identify a row or carry a token.
-/

namespace TeamsRehook

/-! ## Redaction -/

/-- The alternatives of `SENSITIVE_KEY_RE`. -/
def sensitiveWords : List String :=
  ["authorization", "cookie", "token", "secret", "password", "csrf", "session", "key", "code", "refresh_token",
    "access_token", "client_secret"]

/-- A character as `re.IGNORECASE` compares it with an ASCII letter. -/
def foldCase (c : Char) : Char :=
  if c = 'İ' ∨ c = 'ı' then 'i'
  else if c = 'ſ' then 's'
  else if c = Char.ofNat 0x212A then 'k'
  else c.toLower

/-- `SENSITIVE_KEY_RE.search(key)`. -/
def isSensitiveKey (key : String) : Bool :=
  sensitiveWords.any (Python.contains (String.ofList (key.toList.map foldCase)))

/-- The keys that `preserve_raw_source` exempts. -/
def rawSourceKeys : List String := ["ip", "user_agent", "x_forwarded_for"]

/-- Whether what stands under the key is redacted. -/
def isRedactedKey (preserveRawSource : Bool) (key : String) : Bool :=
  isSensitiveKey key && !(preserveRawSource && rawSourceKeys.contains key)

mutual

/-- `redact`. -/
def redact (preserveRawSource : Bool) : Json → Json
  | .obj members => .obj (redactMembers preserveRawSource members)
  | .arr items => .arr (redactItems preserveRawSource 50 items)
  | .str s => .str (Python.clip s 2000)
  | v => v

/-- As many items as are kept of a list. -/
def redactItems (preserveRawSource : Bool) : Nat → List Json → List Json
  | n + 1, v :: rest => redact preserveRawSource v :: redactItems preserveRawSource n rest
  | _, _ => []

/-- The items of a `dict`. -/
def redactMembers (preserveRawSource : Bool) : List (String × Json) → List (String × Json)
  | [] => []
  | (key, v) :: rest =>
    (key, if isRedactedKey preserveRawSource key then .str "[redacted]" else redact preserveRawSource v) ::
      redactMembers preserveRawSource rest

end

mutual

/-- `_clip_nested`. -/
def clipNested (limit : Nat) : Json → Json
  | .obj members => .obj (clipNestedMembers limit 50 members)
  | .arr items => .arr (clipNestedItems limit 50 items)
  | .str s => .str (Python.clip s limit)
  | v => v

/-- As many items as are kept of a list. -/
def clipNestedItems (limit : Nat) : Nat → List Json → List Json
  | n + 1, v :: rest => clipNested limit v :: clipNestedItems limit n rest
  | _, _ => []

/-- As many items as are kept of a `dict`. -/
def clipNestedMembers (limit : Nat) : Nat → List (String × Json) → List (String × Json)
  | n + 1, (key, v) :: rest => (key, clipNested limit v) :: clipNestedMembers limit n rest
  | _, _ => []

end

/-- `MAX_SAFE_PREVIEW`. -/
def maxSafePreview : Nat := 1200

/-- `safe_raw`, with the setting `event_debug_previews_enabled`. -/
def safeRaw (debugPreviewsEnabled : Bool) (value : List (String × Json)) : Json :=
  if debugPreviewsEnabled then clipNested maxSafePreview (redact false (.obj value)) else .obj []

/-! ## Paths -/

/-- `re.sub(f"({start})[^/]+", r"\1" + name, path)`, after as many characters as are still part of a match. -/
def subSegments (start name : List Char) : Nat → List Char → List Char
  | _, [] => []
  | skip + 1, _ :: cs => subSegments start name skip cs
  | 0, c :: cs =>
    if start.isPrefixOf (c :: cs) = true ∧ ((c :: cs).drop start.length).takeWhile (· != '/') ≠ [] then
      start ++ name ++
        subSegments start name (start.length + (((c :: cs).drop start.length).takeWhile (· != '/')).length - 1) cs
    else c :: subSegments start name 0 cs

/-- The substitutions of `sanitize_path`: what a segment follows, and the name that takes its place. -/
def pathSubstitutions : List (String × String) :=
  [("/api/v1/webhooks/", "\x7btoken\x7d"), ("/api/v1/admin/webhook-abuse-buckets/", "\x7bid\x7d"),
    ("/api/v1/webhook-delivery-events/", "\x7bid\x7d"), ("/api/v1/webhook-routes/", "\x7bid\x7d"),
    ("/api/v1/admin/users/", "\x7bid\x7d"), ("/api/v1/admin/settings/", "\x7bkey\x7d")]

/-- `sanitize_path`. -/
def sanitizePath (path : String) : String :=
  let value := path.toList.takeWhile (· != '?')
  Python.clip (String.ofList (pathSubstitutions.foldl (fun value sub =>
    subSegments sub.1.toList sub.2.toList 0 value) value)) 600

/-- The endpoints whose paths end with a secret token. -/
inductive TokenEndpoint where
  | receiveWebhook
  | revealWebhookUrl
  deriving DecidableEq, Repr

/-- The path of an endpoint up to the token. -/
def TokenEndpoint.path : TokenEndpoint → String
  | .receiveWebhook => "/webhooks/"
  | .revealWebhookUrl => "/webhook-url-reveals/"

/-- The paths that are logged for a request to the endpoint, where `urlPath` gives `request.url.path` of a requested
path: that of `log_api_request`, in the message and in the field `http`, and for a webhook that of `_record_event`. -/
def loggedPaths (urlPath : String → String) (apiV1Prefix : String) (endpoint : TokenEndpoint) (token : String) :
    List String :=
  let path := urlPath (apiV1Prefix ++ endpoint.path ++ token)
  (if Python.startsWith path "/api/v1/" then [sanitizePath path] else []) ++
    match endpoint with
    | .receiveWebhook => [sanitizePath path]
    | .revealWebhookUrl => []

example : sanitizePath "/api/v1/webhook-routes/7/test?x=/1" = "/api/v1/webhook-routes/\x7bid\x7d/test" :=
  by decide +kernel

end TeamsRehook
