import TeamsRehook.Delivery.GraphAuth

/-!
# Settings overrides

`core/settings_overrides.py`: the settings an admin can change, the rows they are stored in (`app_settings`), and the
overrides a process keeps of them (`_override_cache`), which `get_effective_settings` lays over the settings of the
environment.
-/

namespace TeamsRehook

/-- `SettingType`. -/
inductive SettingType where
  | string | int | url | enum | secret | bool
  deriving DecidableEq, Repr

/-- `SettingDefinition`. -/
structure SettingDefinition where
  key : String
  type : SettingType
  isSecret : Bool := false
  enumValues : List String := []
  deriving DecidableEq, Repr

/-- `APPLICATION_SETTINGS`. -/
def applicationSettings : List SettingDefinition := [
  { key := "bot_framework_enabled", type := .bool },
  { key := "graph_lookup_enabled", type := .bool },
  { key := "graph_delivery_enabled", type := .bool },
  { key := "webhook_url_reveal_ttl_hours", type := .int }]

/-- `OVERRIDABLE_SETTINGS`. -/
def overridableSettings : List SettingDefinition := [
  { key := "webhook_max_payload_bytes", type := .int },
  { key := "webhook_abuse_blocking_enabled", type := .bool },
  { key := "webhook_abuse_failure_limit", type := .int },
  { key := "webhook_abuse_window_minutes", type := .int },
  { key := "log_retention_days", type := .int },
  { key := "log_cleanup_interval_minutes", type := .int },
  { key := "event_debug_previews_enabled", type := .bool },
  { key := "trust_x_forwarded_for", type := .bool },
  { key := "session_secure_cookie", type := .bool },
  { key := "cors_origins", type := .string },
  { key := "app_public_base_url", type := .url },
  { key := "frontend_base_url", type := .url },
  { key := "ms_app_tenant_id", type := .string },
  { key := "ms_app_client_id", type := .string },
  { key := "ms_app_client_secret", type := .secret, isSecret := true }]

/-- `SETTING_DEFINITIONS`. -/
def settingDefinitions : List SettingDefinition := applicationSettings ++ overridableSettings

/-- `SETTING_DEFINITIONS.get(key)`. -/
def settingDefinition? (key : String) : Option SettingDefinition := settingDefinitions.find? (·.key == key)

/-- A row of `app_settings`. -/
structure AppSetting where
  key : String
  value : String
  isSecret : Bool := false
  updatedById : Option Nat := none
  updatedAt : Int := 0
  deriving DecidableEq, Repr

/-- `_override_cache`. -/
abbrev Overrides := String → Option String

/-! ## Values -/

/-- A `400` with a text. -/
def badRequest {α : Type} (detail : String) : Except Exn α := .error (.http 400 detail)

/-- The value of an `int` setting. -/
def normalizeInt (P : Platform) (key raw : String) : Except Exn String :=
  match P.intOfText raw with
  | none => badRequest "Value must be an integer"
  | some parsed =>
    if key = "webhook_max_payload_bytes" ∧ parsed < 1024 then badRequest "Payload limit must be at least 1024"
    else if key = "webhook_abuse_failure_limit" ∧ parsed < 1 then badRequest "Failure limit must be at least 1"
    else if key = "webhook_abuse_window_minutes" ∧ parsed < 1 then badRequest "Value must be at least 1"
    else if key = "webhook_url_reveal_ttl_hours" ∧ ¬(1 ≤ parsed ∧ parsed ≤ 168) then
      badRequest "Reveal link lifetime must be between 1 and 168 hours"
    else if key = "log_retention_days" ∧ parsed < 0 then badRequest "Retention must be zero or greater"
    else if key = "log_cleanup_interval_minutes" ∧ parsed < 1 then badRequest "Cleanup interval must be at least 1"
    else .ok (toString parsed)

/-- The value of a `bool` setting. -/
def normalizeBool (P : Platform) (raw : String) : Except Exn String :=
  let normalized := P.lower raw
  if ["true", "1", "yes", "on", "enabled"].contains normalized then .ok "true"
  else if ["false", "0", "no", "off", "disabled"].contains normalized then .ok "false"
  else badRequest "Value must be true or false"

/-- The value of an `enum` setting. -/
def normalizeEnum (P : Platform) (enumValues : List String) (raw : String) : Except Exn String :=
  let normalized := P.lower raw
  if enumValues.contains normalized then .ok normalized
  else badRequest ("Value must be one of: " ++ ", ".intercalate enumValues)

/-- `urlparse(value)`. -/
def urlparse (P : Platform) (value : String) : Except Exn ParsedUrl :=
  match P.urlparse value with
  | some parsed => .ok parsed
  | none => .error .valueError

/-- Whether a parsed text is the URL of a web server. -/
def ParsedUrl.isHttp (url : ParsedUrl) : Bool := ["http", "https"].contains url.scheme && url.netloc != ""

/-- The value of a `url` setting. -/
def normalizeUrl (P : Platform) (raw : String) : Except Exn String := do
  if raw = "" then return ""
  let parsed ← urlparse P raw
  if parsed.isHttp then return Python.rstripChar raw '/'
  else badRequest "Value must be a valid HTTP URL"

/-- The loop of `_normalize_cors_origins`, for one part. -/
def addCorsOrigin (P : Platform) (origins : List String) (part : String) : Except Exn (List String) := do
  let candidate := Python.strip part
  if candidate = "" then return origins
  let parsed ← urlparse P candidate
  if !parsed.isHttp then badRequest "CORS origins must be comma-separated HTTP or HTTPS origins"
  else if parsed.params ≠ "" ∨ parsed.query ≠ "" ∨ parsed.fragment ≠ "" ∨ ¬(parsed.path = "" ∨ parsed.path = "/") then
    badRequest "CORS origins must contain scheme, host, and optional port only"
  else
    let origin := P.lower parsed.scheme ++ "://" ++ parsed.netloc
    return if origins.contains origin then origins else origins ++ [origin]

/-- `_normalize_cors_origins`. -/
def normalizeCorsOrigins (P : Platform) (value : String) : Except Exn String := do
  let origins ← (Python.splitChar value ',').foldlM (addCorsOrigin P) []
  if origins = [] then badRequest "CORS origins must list at least one HTTP or HTTPS origin"
  else return ",".intercalate origins

/-- `_validate_and_normalize`. -/
def validateAndNormalize (P : Platform) (key value : String) : Except Exn String :=
  match settingDefinition? key with
  | none => .error (.http 404 "Unknown setting")
  | some definition =>
    let raw := Python.strip value
    match definition.type with
    | .secret => if raw = "" then badRequest "Secret value is required" else .ok raw
    | .int => normalizeInt P key raw
    | .bool => normalizeBool P raw
    | .enum => normalizeEnum P definition.enumValues raw
    | .url => normalizeUrl P raw
    | .string => if key = "cors_origins" then normalizeCorsOrigins P raw else .ok raw

/-- `_decrypt_secret`. -/
def decryptOverride (P : Platform) (s : Settings) (value : String) : Except Exn String :=
  match decryptSecret P s value with
  | .error (.http _ _) =>
    .error (.http 500 ("Stored secret override could not be decrypted with the current SETTINGS_ENC_KEY. " ++
      "Keep the previous key or re-enter the affected secret."))
  | r => r

/-- `_stored_value`, with the settings of the environment. -/
def storedValue (P : Platform) (s : Settings) (row : AppSetting) : Except Exn String :=
  if row.isSecret then decryptOverride P s row.value else .ok row.value

/-- `_serialize_for_storage`, for a key that has a definition. -/
def serializeForStorage (P : Platform) (s : Settings) (now : Int) (key value : String) : Except Exn String := do
  let normalized ← validateAndNormalize P key value
  if (settingDefinition? key).any (·.isSecret) then encryptSecret P s now normalized else return normalized

/-! ## The overrides of a process -/

/-- The loop of `load_overrides`, for one row. -/
def loadRow (P : Platform) (s : Settings) (loaded : Overrides) (row : AppSetting) : Except Exn Overrides :=
  if (settingDefinition? row.key).isNone then .ok loaded
  else do
    let value ← storedValue P s row
    return Function.update loaded row.key (some value)

/-- The overrides `load_overrides` makes of the rows. -/
def loadOverrides (P : Platform) (s : Settings) (rows : List AppSetting) : Except Exn Overrides :=
  rows.foldlM (loadRow P s) fun _ => none

/-- `_coerce_for_settings` of a `bool` setting. -/
def coerceBool (P : Platform) (value : String) : Bool := P.lower (Python.strip value) == "true"

/-- `_coerce_for_settings` of an `int` setting. -/
def coerceInt (P : Platform) (value : String) : Except Exn Int :=
  match P.intOfText value with
  | some n => .ok n
  | none => .error .valueError

/-- The value of an `int` setting, with the overrides. -/
def effectiveInt (P : Platform) (overrides : Overrides) (key : String) (value : Int) : Except Exn Int :=
  match overrides key with
  | some override => coerceInt P override
  | none => .ok value

/-- The value of a `bool` setting, with the overrides. -/
def effectiveBool (P : Platform) (overrides : Overrides) (key : String) (value : Bool) : Bool :=
  ((overrides key).map (coerceBool P)).getD value

/-- `get_effective_settings`, for the settings of the environment. -/
def getEffectiveSettings (P : Platform) (s : Settings) (overrides : Overrides) : Except Exn Settings := do
  let webhookMaxPayloadBytes ← effectiveInt P overrides "webhook_max_payload_bytes" s.webhookMaxPayloadBytes
  let webhookAbuseFailureLimit ← effectiveInt P overrides "webhook_abuse_failure_limit" s.webhookAbuseFailureLimit
  let webhookAbuseWindowMinutes ← effectiveInt P overrides "webhook_abuse_window_minutes" s.webhookAbuseWindowMinutes
  let logRetentionDays ← effectiveInt P overrides "log_retention_days" s.logRetentionDays
  let logCleanupIntervalMinutes ← effectiveInt P overrides "log_cleanup_interval_minutes" s.logCleanupIntervalMinutes
  let webhookUrlRevealTtlHours ← effectiveInt P overrides "webhook_url_reveal_ttl_hours" s.webhookUrlRevealTtlHours
  return { s with
    webhookMaxPayloadBytes := webhookMaxPayloadBytes
    webhookAbuseBlockingEnabled :=
      effectiveBool P overrides "webhook_abuse_blocking_enabled" s.webhookAbuseBlockingEnabled
    webhookAbuseFailureLimit := webhookAbuseFailureLimit
    webhookAbuseWindowMinutes := webhookAbuseWindowMinutes
    logRetentionDays := logRetentionDays
    logCleanupIntervalMinutes := logCleanupIntervalMinutes
    trustXForwardedFor := effectiveBool P overrides "trust_x_forwarded_for" s.trustXForwardedFor
    appPublicBaseUrl := (overrides "app_public_base_url").getD s.appPublicBaseUrl
    frontendBaseUrl := (overrides "frontend_base_url").getD s.frontendBaseUrl
    msAppTenantId := (overrides "ms_app_tenant_id").getD s.msAppTenantId
    msAppClientId := (overrides "ms_app_client_id").getD s.msAppClientId
    msAppClientSecret := (overrides "ms_app_client_secret").getD s.msAppClientSecret
    botFrameworkEnabled := effectiveBool P overrides "bot_framework_enabled" s.botFrameworkEnabled
    graphLookupEnabled := effectiveBool P overrides "graph_lookup_enabled" s.graphLookupEnabled
    graphDeliveryEnabled := effectiveBool P overrides "graph_delivery_enabled" s.graphDeliveryEnabled
    webhookUrlRevealTtlHours := webhookUrlRevealTtlHours }

/-! ## Changing an override -/

/-- `_validate_feature_dependency`. -/
def validateFeatureDependency (P : Platform) (overrides : Overrides) : Except Exn Unit :=
  if effectiveBool P overrides "graph_delivery_enabled" true ∧
    effectiveBool P overrides "graph_lookup_enabled" true = false then
    badRequest "Graph delivery requires Graph lookup to be enabled"
  else .ok ()

/-- A change of a setting. -/
inductive SettingChange where
  /-- `set_override`. -/
  | set (key value : String)
  /-- `clear_override`. -/
  | clear (key : String)
  deriving DecidableEq, Repr

/-- The setting that is changed. -/
def SettingChange.key : SettingChange → String
  | .set key _ | .clear key => key

/-- What a change has computed before it reads the rows: the override as it is to be, as a value and as stored, and the
origin that the CORS origins are compared with. -/
structure CheckedChange where
  key : String
  override : Option (String × String)
  previousFrontendUrl : String := ""
  deriving DecidableEq, Repr

/-- A key without a definition is refused. -/
def requireDefinition (key : String) : Except Exn Unit :=
  if (settingDefinition? key).isNone then .error (.http 404 "Unknown setting") else .ok ()

/-- `previous_frontend_url` of `set_override`. -/
def previousFrontendUrl (P : Platform) (s : Settings) (overrides : Overrides) (key : String) : Except Exn String :=
  if key = "frontend_base_url" then
    (getEffectiveSettings P s overrides).map fun effective => Python.rstripChar effective.frontendBaseUrl '/'
  else .ok ""

/-- `set_override` and `clear_override` before they read a row, with the overrides of the process. -/
def checkChange (P : Platform) (s : Settings) (now : Int) (overrides : Overrides) :
    SettingChange → Except Exn CheckedChange
  | .set key value => do
    requireDefinition key
    let previous ← previousFrontendUrl P s overrides key
    let normalized ← validateAndNormalize P key value
    let stored ← serializeForStorage P s now key normalized
    validateFeatureDependency P (Function.update overrides key (some normalized))
    return { key := key, override := some (normalized, stored), previousFrontendUrl := previous }
  | .clear key => do
    requireDefinition key
    validateFeatureDependency P (Function.update overrides key none)
    return { key := key, override := none }

/-- What a session is to write: a row, with the one it was loaded from, or the removal of one. -/
inductive SettingWrite where
  | put (loaded : Option AppSetting) (row : AppSetting)
  | delete (key : String)
  deriving DecidableEq, Repr

/-- The key of the row that is written. -/
def SettingWrite.key : SettingWrite → String
  | .put _ row => row.key
  | .delete key => key

/-- `db.get(AppSetting, key)`. -/
def getSetting (key : String) (rows : List AppSetting) : Option AppSetting := rows.find? (·.key == key)

/-- The write of the CORS origins that goes with a new frontend URL. -/
def corsWrites (P : Platform) (s : Settings) (now : Int) (updatedById : Option Nat) (rows : List AppSetting)
    (previousFrontendUrl normalized : String) : Except Exn (List SettingWrite) :=
  match getSetting "cors_origins" rows with
  | none => do
    let origins ← serializeForStorage P s now "cors_origins" normalized
    return [.put none { key := "cors_origins", value := origins, updatedById := updatedById, updatedAt := now }]
  | some corsRow => do
    let corsStored ← storedValue P s corsRow
    if corsStored = previousFrontendUrl then
      let origins ← serializeForStorage P s now "cors_origins" normalized
      return [.put (some corsRow) { corsRow with value := origins, updatedById := updatedById, updatedAt := now }]
    else return []

/-- What `set_override` and `clear_override` write, for the rows as they are read. -/
def changeWrites (P : Platform) (s : Settings) (now : Int) (updatedById : Option Nat) (rows : List AppSetting)
    (c : CheckedChange) : Except Exn (List SettingWrite) :=
  let row := getSetting c.key rows
  match c.override with
  | some (normalized, stored) => do
    let cors ← (if c.key = "frontend_base_url" then corsWrites P s now updatedById rows c.previousFrontendUrl normalized
      else .ok [] : Except Exn (List SettingWrite))
    return .put row
      { key := c.key
        value := stored
        isSecret := (settingDefinition? c.key).any (·.isSecret)
        updatedById := updatedById
        updatedAt := now } :: cors
  | none => .ok (if row.isSome then [.delete c.key] else [])

/-- The row of a setting after the flush of an object that was loaded as `loaded` and has the values of `row`. -/
def flushSetting (loaded row current : AppSetting) : AppSetting where
  key := current.key
  value := Table.ormWrite loaded.value row.value current.value
  isSecret := Table.ormWrite loaded.isSecret row.isSecret current.isSecret
  updatedById := Table.ormWrite loaded.updatedById row.updatedById current.updatedById
  updatedAt := Table.ormWrite loaded.updatedAt row.updatedAt current.updatedAt

/-- The flush of one write. -/
def flushWrite (rows : List AppSetting) : SettingWrite → Except Exn (List AppSetting)
  | .put none row => if rows.any (·.key == row.key) then .error .integrityError else .ok (rows ++ [row])
  | .put (some loaded) row =>
    if rows.any (·.key == row.key) then .ok (Table.update (·.key == row.key) (flushSetting loaded row) rows)
    else .error .staleDataError
  | .delete key => .ok (Table.delete (·.key == key) rows)

/-- `db.flush()`. -/
def flushWrites (rows : List AppSetting) (writes : List SettingWrite) : Except Exn (List AppSetting) :=
  writes.foldlM flushWrite rows

end TeamsRehook
