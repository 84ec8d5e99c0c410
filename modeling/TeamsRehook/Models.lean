import TeamsRehook.Platform
import TeamsRehook.Lib.Table
import TeamsRehook.Lib.Python
import Mathlib.Algebra.Order.Ring.Int

/-!
# Settings and tables

The rows of `models.py` that the modelled functions read or write, and the settings they consult (`core/config.py`). A
row has the columns of its table; the columns no modelled function reads or writes are left out. A table is the list of
its rows; ids are drawn from a counter, as `new_id` draws a fresh one.

Times are microseconds since the epoch, durations are microseconds; both are `Int`. Primary keys are `Nat`.
-/

namespace TeamsRehook

/-- `timedelta(minutes=n)`. -/
def minutes (n : Int) : Int := n * 60000000

/-- `timedelta(hours=n)`. -/
def hours (n : Int) : Int := n * 3600000000

/-- `timedelta(days=n)`. -/
def days (n : Int) : Int := n * 86400000000

/-- The effective settings (`get_effective_settings`). -/
structure Settings where
  sessionSecret : String := ""
  settingsEncKey : String := ""
  msAppTenantId : String := ""
  msAppClientId : String := ""
  msAppClientSecret : String := ""
  botDeliveryMode : String := "real"
  botFrameworkEnabled : Bool := true
  graphLookupEnabled : Bool := true
  graphDeliveryEnabled : Bool := true
  webhookMaxPayloadBytes : Int := 64000
  webhookAbuseBlockingEnabled : Bool := true
  webhookAbuseFailureLimit : Int := 10
  webhookAbuseWindowMinutes : Int := 10
  webhookAbuseInitialBlockMinutes : Int := 10
  webhookAbuseMaxBlockMinutes : Int := 1440
  webhookAbuseCleanupDays : Int := 30
  webhookUrlRevealTtlHours : Int := 24
  logRetentionDays : Int := 7
  logCleanupIntervalMinutes : Int := 60
  composeAppSubnet : String := "172.30.0.0/24"
  trustXForwardedFor : Bool := false
  trustedProxyIps : String := ""
  apiV1Prefix : String := "/api/v1"
  appPublicBaseUrl : String := "http://localhost:8000"
  frontendBaseUrl : String := "http://localhost:5173"
  defaultOrgSlug : String := "default"
  defaultOrgName : String := "Default Organization"

/-- `bot_delivery_mode_normalized`: whether the mode is `real`; every other one is `mock`. -/
def Settings.realBotDelivery (P : Platform) (s : Settings) : Bool := P.lower (Python.strip s.botDeliveryMode) == "real"

/-! ## Webhooks -/

/-- The status of a delivery. -/
inductive DeliveryStatus where
  | pending | delivered | failed | rejected
  deriving DecidableEq, Repr

/-- The text of a status. -/
def DeliveryStatus.value : DeliveryStatus → String
  | .pending => "pending"
  | .delivered => "delivered"
  | .failed => "failed"
  | .rejected => "rejected"

/-- A row of `webhook_routes`. -/
structure WebhookRoute where
  id : Nat
  organizationId : Nat
  name : String
  isActive : Bool := true
  routeTokenHash : String
  routeToken : String := ""
  deliveryBackend : String := "bot_framework"
  clientIpAccessMode : String := "public"
  clientIpAllowlist : String := ""
  targetType : String := "bot_conversation"
  targetName : String := ""
  botServiceUrl : String := ""
  botConversationId : String := ""
  graphTargetKind : String := ""
  graphTargetId : String := ""
  graphTeamId : String := ""
  graphTeamName : String := ""
  graphChannelId : String := ""
  graphUserId : String := ""
  graphUserDisplayName : String := ""
  graphUserPrincipalName : String := ""
  botTargetSource : String := ""
  botRegisteredById : String := ""
  botRegisteredAt : Option Int := none
  memberSummary : String := ""
  memberCount : Nat := 0
  memberListJson : String := "[]"
  membersRefreshedAt : Option Int := none
  membersLookupError : String := ""
  lastDeliveryStatus : Option DeliveryStatus := none
  lastDeliveryAt : Option Int := none
  updatedAt : Int := 0
  deriving DecidableEq, Repr

/-- The row of a route that a session has changed and flushed at `now`: the column `updated_at` follows every other
change. -/
def WebhookRoute.flushed (now : Int) (row changed : WebhookRoute) : WebhookRoute :=
  { changed with updatedAt := if changed = row then row.updatedAt else now }

/-- A row of `webhook_delivery_events`. The columns that hold JSON texts are given by the values the texts are of. -/
structure WebhookDeliveryEvent where
  id : Nat
  organizationId : Option Nat
  routeId : Option Nat
  routeTokenHash : Option String
  idempotencyKey : Option String
  status : DeliveryStatus
  requestMetadata : List (String × Json)
  normalizedMessage : List (String × Json)
  deliveryResult : List (String × Json)
  error : String
  createdAt : Int
  deriving Repr

/-- `NormalizedMessage` of `services/webhook_payloads.py`. -/
structure NormalizedMessage where
  title : String
  text : String
  severity : String := "info"
  status : String := ""
  rawType : String := "unknown"
  activity : Option (List (String × Json)) := none
  deriving Repr

/-- `NormalizedMessage.to_dict`. -/
def NormalizedMessage.toDict (m : NormalizedMessage) : List (String × Json) :=
  [("title", .str m.title), ("text", .str m.text), ("severity", .str m.severity), ("status", .str m.status),
    ("raw_type", .str m.rawType), ("activity", (m.activity.map Json.obj).getD .null)]

/-- A row of `webhook_url_reveal_tokens`. -/
structure WebhookUrlRevealToken where
  id : Nat
  organizationId : Nat
  routeId : Nat
  tokenHash : String
  expiresAt : Int
  deriving DecidableEq, Repr

/-- A row of `graph_delegated_credentials`. -/
structure GraphDelegatedCredential where
  organizationId : Nat
  tenantId : String := ""
  clientId : String := ""
  scopes : String := ""
  encryptedRefreshToken : String := ""
  serviceUserId : String := ""
  serviceUserDisplayName : String := ""
  serviceUserPrincipalName : String := ""
  lastStatus : String := "missing"
  lastError : String := ""
  accessTokenExpiresAt : Option Int := none
  refreshCheckedAt : Option Int := none
  deriving DecidableEq, Repr

/-! ## Organizations -/

/-- A row of `organizations`. -/
structure Organization where
  id : Nat
  slug : String
  name : String
  deriving DecidableEq, Repr

/-! ## Bot access -/

/-- The permissions of a bot grant: `BOT_PERMISSION_FIELDS`. -/
inductive BotPermission where
  | canViewRoutes | canRevealWebhookUrls | canManageRouteStatus | canDeleteRoutes | canManageAllowlist
  | canCreatePrivateChatRoutes | canCreateChannelRoutes
  deriving DecidableEq, Repr

/-- The column of a permission. -/
def BotPermission.field : BotPermission → String
  | .canViewRoutes => "can_view_routes"
  | .canRevealWebhookUrls => "can_reveal_webhook_urls"
  | .canManageRouteStatus => "can_manage_route_status"
  | .canDeleteRoutes => "can_delete_routes"
  | .canManageAllowlist => "can_manage_allowlist"
  | .canCreatePrivateChatRoutes => "can_create_private_chat_routes"
  | .canCreateChannelRoutes => "can_create_channel_routes"

/-- The seven permission columns of a grant or a role, with their defaults. -/
structure BotPermissions where
  canViewRoutes : Bool := true
  canRevealWebhookUrls : Bool := true
  canManageRouteStatus : Bool := false
  canDeleteRoutes : Bool := false
  canManageAllowlist : Bool := false
  canCreatePrivateChatRoutes : Bool := false
  canCreateChannelRoutes : Bool := false
  deriving DecidableEq, Repr

/-- The column of a permission: `getattr(source, field)`. -/
def BotPermissions.get (p : BotPermissions) : BotPermission → Bool
  | .canViewRoutes => p.canViewRoutes
  | .canRevealWebhookUrls => p.canRevealWebhookUrls
  | .canManageRouteStatus => p.canManageRouteStatus
  | .canDeleteRoutes => p.canDeleteRoutes
  | .canManageAllowlist => p.canManageAllowlist
  | .canCreatePrivateChatRoutes => p.canCreatePrivateChatRoutes
  | .canCreateChannelRoutes => p.canCreateChannelRoutes

/-- `{field: f(field) for field in BOT_PERMISSION_FIELDS}`. -/
def BotPermissions.ofFields (f : BotPermission → Bool) : BotPermissions where
  canViewRoutes := f .canViewRoutes
  canRevealWebhookUrls := f .canRevealWebhookUrls
  canManageRouteStatus := f .canManageRouteStatus
  canDeleteRoutes := f .canDeleteRoutes
  canManageAllowlist := f .canManageAllowlist
  canCreatePrivateChatRoutes := f .canCreatePrivateChatRoutes
  canCreateChannelRoutes := f .canCreateChannelRoutes

@[simp] theorem BotPermissions.get_ofFields (f : BotPermission → Bool) (p : BotPermission) :
    (BotPermissions.ofFields f).get p = f p := by
  cases p <;> rfl

@[simp] theorem BotPermissions.ofFields_get (p : BotPermissions) : BotPermissions.ofFields p.get = p := rfl

/-- Permissions are equal when each one is. -/
theorem BotPermissions.ext_get {p q : BotPermissions} (h : ∀ f, p.get f = q.get f) : p = q := by
  rw [← ofFields_get p, ← ofFields_get q, funext h]

/-- A row of `bot_access_roles`. -/
structure BotAccessRole where
  id : Nat
  organizationId : Nat
  name : String
  description : String := ""
  isSystem : Bool := false
  systemKey : Option String := none
  permissions : BotPermissions
  deriving DecidableEq, Repr

/-- The columns that `bot_authorized_users` and `bot_authorized_groups` share: a grant of permissions, linked to a role
or not. -/
structure BotGrant where
  id : Nat
  organizationId : Nat
  roleId : Option Nat := none
  role : String := "viewer"
  isActive : Bool := true
  permissions : BotPermissions := {}
  updatedAt : Int := 0
  deriving DecidableEq, Repr

/-- A row of `bot_authorized_users`. -/
structure BotAuthorizedUser extends BotGrant where
  aadObjectId : String
  displayName : String
  userPrincipalName : String := ""
  lastSeenAt : Option Int := none
  deriving DecidableEq, Repr

/-- A row of `bot_authorized_groups`. -/
structure BotAuthorizedGroup extends BotGrant where
  groupObjectId : String
  displayName : String
  mail : String := ""
  securityEnabled : Bool := false
  groupTypesJson : String := "[]"
  lastMatchedAt : Option Int := none
  deriving DecidableEq, Repr

/-- A row of `bot_user_group_membership_cache`. The column that holds a JSON text is given by the list the text is of. -/
structure BotUserGroupMembershipCache where
  id : Nat
  organizationId : Nat
  aadObjectId : String
  groupIds : List String := []
  checkedAt : Option Int := none
  expiresAt : Option Int := none
  lastError : String := ""
  updatedAt : Int
  deriving DecidableEq, Repr

/-- A row of `bot_conversation_references`. -/
structure BotConversationReference where
  id : Nat
  scope : String := ""
  serviceUrl : String := ""
  conversationId : String
  tenantId : String := ""
  teamId : String := ""
  graphTeamId : String := ""
  channelId : String := ""
  conversationType : String := ""
  teamName : String := ""
  channelName : String := ""
  userId : String := ""
  userName : String := ""
  graphUserId : String := ""
  memberSummary : String := ""
  memberCount : Nat := 0
  memberListJson : String := "[]"
  membersRefreshedAt : Option Int := none
  membersLookupError : String := ""
  rawActivityType : String := ""
  lastSeenAt : Int
  updatedAt : Int
  deriving DecidableEq, Repr

/-- The row of a reference that a session has changed and flushed at `now`: the column `updated_at` follows every other
change. -/
def BotConversationReference.flushed (now : Int) (row changed : BotConversationReference) : BotConversationReference :=
  { changed with updatedAt := if changed = row then row.updatedAt else now }

/-! ## Abuse tracking -/

/-- The scope of an abuse bucket: `SCOPE_IP` or `SCOPE_IP_ROUTE`. -/
inductive Scope where
  | ip | ipRoute
  deriving DecidableEq, Repr

/-- The text of a scope. -/
def Scope.value : Scope → String
  | .ip => "ip"
  | .ipRoute => "ip_route"

/-- A row of `webhook_abuse_buckets`. -/
structure WebhookAbuseBucket where
  id : Nat
  bucketKey : String
  scope : Scope
  clientHash : String
  lastClientHost : String
  routeTokenHash : Option String
  failureCount : Int
  blockCount : Int
  windowStartedAt : Int
  blockedUntil : Option Int
  lastReason : String
  lastSeenAt : Int
  createdAt : Int
  deriving DecidableEq, Repr

end TeamsRehook
