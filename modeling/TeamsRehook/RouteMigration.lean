import TeamsRehook.Lib.Sqlite

/-!
# The migration of the route table

What `_ensure_additive_schema` and `_ensure_webhook_route_name_backend_uniqueness` do to `webhook_routes` in a SQLite
database. The four hand-written column lists stand here as in the source: the model's, the additive step's, the one of
the rebuilt table and the one that is copied.

Left out: the other tables of the additive step, indexes that are not unique, and foreign keys, which the connection
does not enforce.
-/

namespace TeamsRehook

open Sqlite

/-- The columns of the model `WebhookRoute`. -/
def webhookRouteColumns : List String :=
  ["id", "organization_id", "created_by_id", "name", "is_active", "route_token_hash", "route_token", "delivery_backend",
   "client_ip_access_mode", "client_ip_allowlist", "target_type", "target_name", "bot_service_url", "bot_conversation_id",
   "graph_target_kind", "graph_target_id", "graph_team_id", "graph_team_name", "graph_channel_id", "graph_user_id",
   "graph_user_display_name", "graph_user_principal_name", "member_summary", "member_count", "member_list_json",
   "members_refreshed_at", "members_lookup_error", "bot_target_source", "bot_registered_by_id", "bot_registered_at",
   "last_delivery_status", "last_delivery_at", "created_at", "updated_at"]

/-- `TEXT DEFAULT '…' NOT NULL`, or a `VARCHAR`. -/
def textColumn (name default : String) : Column := ⟨name, true, .text default⟩

/-- `table_columns["webhook_routes"]`. -/
def additiveColumns : List Column :=
  [textColumn "route_token" "", textColumn "delivery_backend" "bot_framework",
   textColumn "client_ip_access_mode" "public", textColumn "client_ip_allowlist" "", textColumn "graph_target_kind" "",
   textColumn "graph_target_id" "", textColumn "graph_team_id" "", textColumn "graph_team_name" "",
   textColumn "graph_channel_id" "", textColumn "graph_user_id" "", textColumn "graph_user_display_name" "",
   textColumn "graph_user_principal_name" "", textColumn "member_summary" "",
   ⟨"member_count", true, .integer 0⟩, textColumn "member_list_json" "[]", ⟨"members_refreshed_at", false, .null⟩,
   textColumn "members_lookup_error" "", textColumn "bot_target_source" "", textColumn "bot_registered_by_id" "",
   ⟨"bot_registered_at", false, .null⟩]

/-- The part of `_ensure_additive_schema` about `webhook_routes`. -/
def ensureAdditiveSchema (t : Table) : Except Sqlite.Error Table := t.addMissing t.names additiveColumns

/-- `delivery_backend IS NULL OR trim(delivery_backend) = ''`. -/
def blankBackend (v : Value) : Bool := v == .null || v.trim == .text ""

/-- The columns that `_sqlite_rebuild_webhook_routes_table` copies. -/
def rebuildColumns : List String :=
  ["id", "organization_id", "created_by_id", "name", "is_active", "route_token_hash", "route_token", "delivery_backend",
   "client_ip_access_mode", "client_ip_allowlist", "target_type", "target_name", "bot_service_url", "bot_conversation_id",
   "graph_target_kind", "graph_target_id", "graph_team_id", "graph_team_name", "graph_channel_id", "graph_user_id",
   "graph_user_display_name", "graph_user_principal_name", "bot_target_source", "bot_registered_by_id",
   "bot_registered_at", "last_delivery_status", "last_delivery_at", "created_at", "updated_at"]

/-- A column of the rebuilt table that is NOT NULL and has no default. -/
def requiredColumn (name : String) : Column := ⟨name, true, .null⟩

/-- A column of the rebuilt table that can be NULL. -/
def nullableColumn (name : String) : Column := ⟨name, false, .null⟩

/-- `CREATE TABLE webhook_routes_rebuild`. -/
def webhookRoutesRebuild : Table where
  columns :=
    [requiredColumn "id", requiredColumn "organization_id", nullableColumn "created_by_id", requiredColumn "name",
     requiredColumn "is_active", requiredColumn "route_token_hash", requiredColumn "route_token",
     requiredColumn "delivery_backend", textColumn "client_ip_access_mode" "public",
     textColumn "client_ip_allowlist" "", requiredColumn "target_type", requiredColumn "target_name",
     requiredColumn "bot_service_url", requiredColumn "bot_conversation_id",
     requiredColumn "graph_target_kind", requiredColumn "graph_target_id", requiredColumn "graph_team_id",
     requiredColumn "graph_team_name", requiredColumn "graph_channel_id", requiredColumn "graph_user_id",
     requiredColumn "graph_user_display_name", requiredColumn "graph_user_principal_name",
     requiredColumn "bot_target_source", requiredColumn "bot_registered_by_id", nullableColumn "bot_registered_at",
     nullableColumn "last_delivery_status", nullableColumn "last_delivery_at", requiredColumn "created_at",
       requiredColumn "updated_at"]
  -- The index that SQLite makes for PRIMARY KEY (id), under the name it has after the table is renamed.
  uniques := [⟨"sqlite_autoindex_webhook_routes_1", ["id"]⟩]
  rows := []

/-- `_sqlite_rebuild_select_expression`. -/
def sqliteRebuildSelectExpression (existingColumns : List String) (column : String) : Expr :=
  if column ∈ existingColumns then .column column
  else if column = "client_ip_access_mode" then .literal (.text "public")
  else if column = "client_ip_allowlist" then .literal (.text "")
  else .literal .null

/-- `_sqlite_rebuild_webhook_routes_table`: the rows are copied into a new table, which takes the place of the old one. -/
def sqliteRebuildWebhookRoutesTable (t : Table) : Except Sqlite.Error Table :=
  Table.insertSelect rebuildColumns (sqliteRebuildSelectExpression t.names) t webhookRoutesRebuild

/-- `uq_webhook_routes_org_name_backend`. -/
def nameBackendIndex : UniqueIndex :=
  ⟨"uq_webhook_routes_org_name_backend", ["organization_id", "name", "delivery_backend"]⟩

/-- `ix_webhook_routes_route_token_hash`. -/
def tokenHashIndex : UniqueIndex := ⟨"ix_webhook_routes_route_token_hash", ["route_token_hash"]⟩

/-- `_sqlite_ensure_webhook_route_indexes`, for the indexes that are unique. -/
def sqliteEnsureWebhookRouteIndexes (t : Table) : Except Sqlite.Error Table := do
  let t ← t.createUniqueIndexIfNotExists nameBackendIndex
  t.createUniqueIndexIfNotExists tokenHashIndex

/-- `_ensure_webhook_route_name_backend_uniqueness`. -/
def ensureWebhookRouteNameBackendUniqueness (t : Table) : Except Sqlite.Error Table := do
  let t ← t.update (fun r => blankBackend (r "delivery_backend")) "delivery_backend" (.text "bot_framework")
  let t ← if t.hasUniqueIndex ["organization_id", "name"] then sqliteRebuildWebhookRoutesTable t else .ok t
  sqliteEnsureWebhookRouteIndexes t

/-- The two steps, in the order in which a start runs them. -/
def migrateWebhookRoutes (t : Table) : Except Sqlite.Error Table := do
  let t ← ensureAdditiveSchema t
  ensureWebhookRouteNameBackendUniqueness t

end TeamsRehook
