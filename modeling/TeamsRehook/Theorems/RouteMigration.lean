import TeamsRehook.RouteMigration

namespace TeamsRehook

open Sqlite

/-! ## A migration that loses nothing -/

/-- The columns that every release of the route table has had. -/
def baseColumns : List String := webhookRouteColumns.filter fun c => c ∉ additiveColumns.map (·.name)

/-- A route table of an earlier release: any of the additive columns may be there already, and a route's name is unique
in its organization. -/
structure LegacyRouteTable extends Table where
  distinct : toTable.names.Nodup
  base : ∀ c ∈ baseColumns, c ∈ toTable.names
  known : ∀ c ∈ toTable.names, c ∈ webhookRouteColumns
  indexed : ∀ ix ∈ uniques, ∀ c ∈ ix.columns, c ∈ toTable.names
  nameUnique : ∃ ix ∈ uniques, ix.columns = ["organization_id", "name"]
  valid : toTable.Valid

/-- The value that a migrated row has in a column that had the value `v`: the default in the place of a blank backend. -/
def migratedValue (c : String) (v : Value) : Value :=
  if c = "delivery_backend" ∧ blankBackend v = true then .text "bot_framework" else v

/-- A migrated row has the values of the row it comes from. -/
def MigratedRow (names : List String) (r r' : Row) : Prop := ∀ c ∈ names, r' c = migratedValue c (r c)

/-- The migration ends without error in a table with the columns of the model and the same rows, in which the old
uniqueness is gone and the new one in force. -/
def RouteMigrationLaw (t : Table) : Prop :=
  ∃ t', migrateWebhookRoutes t = .ok t' ∧ (∀ c ∈ webhookRouteColumns, c ∈ t'.names) ∧
    (∃ rows, rows.Perm t'.rows ∧ List.Forall₂ (MigratedRow t.names) t.rows rows) ∧
    (∀ ix ∈ t'.uniques, ix.columns ≠ ["organization_id", "name"]) ∧
    (∃ ix ∈ t'.uniques, ix.columns = ["organization_id", "name", "delivery_backend"]) ∧ t'.Valid

namespace RouteMigrationAux

/-! ## The steps -/

/-- The columns that the additive step adds. -/
def addedColumns (t : Table) : List Column := missing t.names additiveColumns

/-- The table after the additive step. -/
def extended (t : Table) : Table :=
  { t with columns := t.columns ++ addedColumns t, rows := t.rows.map (Row.fill (addedColumns t)) }

/-- A row in which a blank backend has been replaced. -/
def backfill (r : Row) : Row :=
  if blankBackend (r "delivery_backend") then r.set "delivery_backend" (.text "bot_framework") else r

/-- The table after the blank backends have been replaced. -/
def backfilled (t : Table) : Table := { extended t with rows := (extended t).rows.map backfill }

/-- The table after it has been rebuilt. -/
def rebuilt (t : Table) : Table :=
  { webhookRoutesRebuild with
    rows := (backfilled t).rows.map (selectRow rebuildColumns (sqliteRebuildSelectExpression (backfilled t).names)) }

theorem ensureAdditiveSchema_eq_ok (t : Table) : ensureAdditiveSchema t = .ok (extended t) :=
  Table.addMissing_eq_ok (by decide +kernel) (by decide +kernel) fun _ _ h => h

theorem names_extended (t : Table) : (extended t).names = t.names ++ (addedColumns t).map (·.name) := by
  simp [extended, Table.names]

/-- After the additive step the table has every column of the model. -/
theorem mem_names_extended (t : LegacyRouteTable) {c : String} (hc : c ∈ webhookRouteColumns) :
    c ∈ (extended t.toTable).names := by
  rw [names_extended, List.mem_append]
  by_cases ht : c ∈ t.toTable.names
  · exact Or.inl ht
  · refine Or.inr ?_
    by_cases ha : c ∈ additiveColumns.map (·.name)
    · obtain ⟨column, hm, rfl⟩ := List.mem_map.1 ha
      refine List.mem_map_of_mem (List.mem_filter.2 ⟨hm, ?_⟩)
      simpa using ht
    · refine absurd (t.base c ?_) ht
      simpa [baseColumns] using And.intro hc (by simpa using ha)

theorem rebuildColumns_subset : ∀ c ∈ rebuildColumns, c ∈ webhookRouteColumns := by decide +kernel

/-- The backends are replaced when the constraints still hold afterwards. -/
theorem update_eq_ok_iff (t : LegacyRouteTable) {t' : Table} :
    (extended t.toTable).update (fun r => blankBackend (r "delivery_backend")) "delivery_backend"
      (.text "bot_framework") = .ok t' ↔
      (backfilled t.toTable).Valid ∧ backfilled t.toTable = t' := by
  unfold Sqlite.Table.update
  rw [if_pos (mem_names_extended t (by decide +kernel)), Table.check_eq_ok_iff]
  rfl

/-- The uniqueness of names is found, since neither of the steps before touches the indexes. -/
theorem hasUniqueIndex_backfilled (t : LegacyRouteTable) :
    (backfilled t.toTable).hasUniqueIndex ["organization_id", "name"] = true :=
  Table.hasUniqueIndex_eq_true.2 t.nameUnique

/-- Every column that is copied can be read. -/
theorem reads_rebuild (t : LegacyRouteTable) :
    ∀ c ∈ rebuildColumns, (sqliteRebuildSelectExpression (backfilled t.toTable).names c).Reads
      (backfilled t.toTable) := by
  intro c hc
  have hm : c ∈ (backfilled t.toTable).names := mem_names_extended t (rebuildColumns_subset c hc)
  unfold sqliteRebuildSelectExpression
  rw [if_pos hm]
  exact hm

theorem rebuild_eq_ok_iff (t : LegacyRouteTable) {t' : Table} :
    sqliteRebuildWebhookRoutesTable (backfilled t.toTable) = .ok t' ↔ (rebuilt t.toTable).Valid ∧
    rebuilt t.toTable = t' := by
  unfold sqliteRebuildWebhookRoutesTable Table.insertSelect
  rw [if_pos (reads_rebuild t), Table.check_eq_ok_iff]
  rfl

/-- What the migration comes to: the two checks hold, and the indexes are made of the rebuilt table. -/
theorem migrateWebhookRoutes_eq_ok_iff (t : LegacyRouteTable) {t' : Table} :
    migrateWebhookRoutes t.toTable = .ok t' ↔
      (backfilled t.toTable).Valid ∧ (rebuilt t.toTable).Valid ∧
      sqliteEnsureWebhookRouteIndexes (rebuilt t.toTable) = .ok t' := by
  unfold migrateWebhookRoutes ensureWebhookRouteNameBackendUniqueness
  rw [ensureAdditiveSchema_eq_ok, Except.bind_eq_ok_iff]
  constructor
  · rintro ⟨_, h₁, h⟩
    cases h₁
    obtain ⟨t₂, h₂, h⟩ := Except.bind_eq_ok_iff.1 h
    obtain ⟨hv₂, rfl⟩ := (update_eq_ok_iff t).1 h₂
    rw [if_pos (hasUniqueIndex_backfilled t)] at h
    obtain ⟨t₃, h₃, h⟩ := Except.bind_eq_ok_iff.1 h
    obtain ⟨hv₃, rfl⟩ := (rebuild_eq_ok_iff t).1 h₃
    exact ⟨hv₂, hv₃, h⟩
  · rintro ⟨hv₂, hv₃, h⟩
    refine ⟨extended t.toTable, rfl, Except.bind_eq_ok_iff.2 ⟨_, (update_eq_ok_iff t).2 ⟨hv₂, rfl⟩, ?_⟩⟩
    rw [if_pos (hasUniqueIndex_backfilled t)]
    exact Except.bind_eq_ok_iff.2 ⟨_, (rebuild_eq_ok_iff t).2 ⟨hv₃, rfl⟩, h⟩

/-- The indexes leave the columns and the rows as they are. -/
theorem sqliteEnsureWebhookRouteIndexes_columns {t t' : Table} (h : sqliteEnsureWebhookRouteIndexes t = .ok t') :
    t'.columns = t.columns ∧ t'.rows = t.rows := by
  obtain ⟨t₁, h₁, h₂⟩ := Except.bind_eq_ok_iff.1 h
  obtain ⟨hc₁, hr₁⟩ := Table.createUniqueIndexIfNotExists_columns h₁
  obtain ⟨hc₂, hr₂⟩ := Table.createUniqueIndexIfNotExists_columns h₂
  exact ⟨hc₂.trans hc₁, hr₂.trans hr₁⟩

/-- A table that the migration leaves has the columns that the rebuild lists. -/
theorem names_of_migrateWebhookRoutes (t : LegacyRouteTable) {t' : Table} (h : migrateWebhookRoutes t.toTable = .ok t') :
    t'.names = rebuildColumns := by
  obtain ⟨_, _, hi⟩ := (migrateWebhookRoutes_eq_ok_iff t).1 h
  rw [Table.names, (sqliteEnsureWebhookRouteIndexes_columns hi).1]
  rfl

/-! ## The rows -/

/-- The rows of the rebuilt table come from those of the legacy table. -/
def migrateRow (t : Table) (r : Row) : Row :=
  selectRow rebuildColumns (sqliteRebuildSelectExpression (backfilled t).names) (backfill (r.fill (addedColumns t)))

theorem rows_backfilled (t : Table) : (backfilled t).rows = t.rows.map fun r => backfill (r.fill (addedColumns t)) := by
  simp only [backfilled, extended, List.map_map]
  rfl

theorem rows_rebuilt (t : Table) : (rebuilt t).rows = t.rows.map (migrateRow t) := by
  simp only [rebuilt, rows_backfilled, List.map_map]
  rfl

theorem backfill_apply (r : Row) (c : String) : backfill r c = migratedValue c (r c) := by
  unfold backfill migratedValue
  by_cases hc : c = "delivery_backend"
  · subst hc
    by_cases hb : blankBackend (r "delivery_backend") = true
    · rw [if_pos hb, if_pos ⟨rfl, hb⟩, Row.set_self]
    · rw [if_neg hb, if_neg fun h => hb h.2]
  · rw [if_neg (fun h : c = "delivery_backend" ∧ _ => hc h.1)]
    split
    · exact Row.set_of_ne r _ hc
    · rfl

/-- A backend that has been replaced where it was blank is not NULL. -/
theorem migratedValue_backend_ne_null (v : Value) : migratedValue "delivery_backend" v ≠ .null := by
  unfold migratedValue
  split
  · exact Value.noConfusion
  · rename_i h
    rintro rfl
    exact h ⟨rfl, rfl⟩

theorem migratedValue_of_ne {c : String} (h : c ≠ "delivery_backend") (v : Value) : migratedValue c v = v :=
  if_neg fun hc => h hc.1

/-- A column that was there before is not filled. -/
theorem fill_of_mem_names (t : Table) {c : String} (hc : c ∈ t.names) (r : Row) : r.fill (addedColumns t) c = r c := by
  refine Row.fill_of_notMem ?_ r
  intro hm
  obtain ⟨column, hcolumn, rfl⟩ := List.mem_map.1 hm
  have := (List.mem_filter.1 hcolumn).2
  simp [hc] at this

/-- A column that is added has its default. -/
theorem fill_of_mem_added (t : Table) {column : Column} (hc : column ∈ addedColumns t) (r : Row) :
    r.fill (addedColumns t) column.name = column.default := by
  refine Row.fill_of_mem ?_ hc r
  have hn : (additiveColumns.map (·.name)).Nodup := by decide +kernel
  exact hn.sublist (List.filter_sublist.map _)

/-- Every column that is copied has the value it had before the rebuild. -/
theorem migrateRow_apply (t : LegacyRouteTable) {c : String} (hc : c ∈ rebuildColumns) (r : Row) :
    migrateRow t.toTable r c = migratedValue c (r.fill (addedColumns t.toTable) c) := by
  have hm : c ∈ (backfilled t.toTable).names := mem_names_extended t (rebuildColumns_subset c hc)
  simp only [migrateRow, selectRow, sqliteRebuildSelectExpression, if_pos hc, if_pos hm, Expr.eval, backfill_apply]

/-- The columns that were there before and are copied keep their values. -/
theorem migratedRow_migrateRow (t : LegacyRouteTable) (r : Row) :
    MigratedRow (t.toTable.names.filter (· ∈ rebuildColumns)) r (migrateRow t.toTable r) := by
  intro c hc
  obtain ⟨hn, hr⟩ := List.mem_filter.1 hc
  rw [migrateRow_apply t (of_decide_eq_true hr), fill_of_mem_names _ hn]

/-- Columns without the backend that were there before keep their values. -/
theorem backfill_fill_of_ne (t : Table) {c : String} (hn : c ∈ t.names) (hc : c ≠ "delivery_backend") (r : Row) :
    backfill (r.fill (addedColumns t)) c = r c := by
  rw [backfill_apply, migratedValue_of_ne hc, fill_of_mem_names t hn]

end RouteMigrationAux

open RouteMigrationAux

/-! ## What is kept -/

/-- The rebuilt table can take the rows: those that it declares NOT NULL are not NULL, ids and tokens are unique, and a
unique index on the backend covers the organization and the name too. -/
structure Copyable (t : Table) : Prop where
  notNull : ∀ column ∈ webhookRoutesRebuild.columns, column.notNull = true → column.name ∈ t.names →
    column.name ≠ "delivery_backend" → ∀ r ∈ t.rows, r column.name ≠ .null
  idUnique : UniqueIn ["id"] t.rows
  tokenUnique : UniqueIn ["route_token_hash"] t.rows
  backendIndex : ∀ ix ∈ t.uniques, "delivery_backend" ∈ ix.columns → ["organization_id", "name"] ⊆ ix.columns

namespace RouteMigrationAux

/-- The uniqueness of names holds of the legacy rows. -/
theorem nameUnique_rows (t : LegacyRouteTable) : UniqueIn ["organization_id", "name"] t.rows := by
  obtain ⟨ix, hix, hc⟩ := t.nameUnique
  exact hc ▸ t.valid.unique ix hix

theorem valid_backfilled (t : LegacyRouteTable) (h : Copyable t.toTable) : (backfilled t.toTable).Valid := by
  constructor
  · intro column hcolumn hn r' hr'
    rw [rows_backfilled] at hr'
    obtain ⟨r, hr, rfl⟩ := List.mem_map.1 hr'
    rw [backfill_apply]
    by_cases hb : column.name = "delivery_backend"
    · rw [hb]
      exact migratedValue_backend_ne_null _
    · rw [migratedValue_of_ne hb]
      rcases List.mem_append.1 hcolumn with hc | hc
      · rw [fill_of_mem_names _ (List.mem_map_of_mem hc)]
        exact t.valid.notNull column hc hn r hr
      · rw [fill_of_mem_added _ hc]
        have hd : ∀ c ∈ additiveColumns, c.notNull = true → c.default ≠ .null := by decide +kernel
        exact hd column (List.mem_filter.1 hc).1 hn
  · intro ix hix
    rw [rows_backfilled]
    by_cases hb : "delivery_backend" ∈ ix.columns
    · refine UniqueIn.mono (h.backendIndex ix hix hb) (UniqueIn.map ?_ (nameUnique_rows t))
      intro r _ c hc
      exact backfill_fill_of_ne _ (t.base c ((by decide +kernel : ∀ c ∈ ["organization_id", "name"],
        c ∈ baseColumns) c hc))
        ((by decide +kernel : ∀ c ∈ ["organization_id", "name"], c ≠ "delivery_backend") c hc) r
    · refine UniqueIn.map ?_ (t.valid.unique ix hix)
      intro r _ c hc
      exact backfill_fill_of_ne _ (t.indexed ix hix c hc) (fun e => hb (e ▸ hc)) r

/-- Uniqueness in base columns that are copied is kept by the copy. -/
theorem uniqueIn_rebuilt (t : LegacyRouteTable) {columns : List String}
    (hcolumns : ∀ c ∈ columns, c ∈ baseColumns ∧ c ∈ rebuildColumns ∧ c ≠ "delivery_backend")
    (h : UniqueIn columns t.rows) : UniqueIn columns (rebuilt t.toTable).rows := by
  rw [rows_rebuilt]
  refine UniqueIn.map ?_ h
  intro r _ c hc
  obtain ⟨hb, hr, hne⟩ := hcolumns c hc
  rw [migrateRow_apply t hr, migratedValue_of_ne hne, fill_of_mem_names _ (t.base c hb)]

theorem valid_rebuilt (t : LegacyRouteTable) (h : Copyable t.toTable) : (rebuilt t.toTable).Valid := by
  constructor
  · intro column hcolumn hn r' hr'
    have hm : column.name ∈ rebuildColumns := List.mem_map_of_mem hcolumn
    rw [rows_rebuilt] at hr'
    obtain ⟨r, hr, rfl⟩ := List.mem_map.1 hr'
    rw [migrateRow_apply t hm]
    by_cases hb : column.name = "delivery_backend"
    · rw [hb]
      exact migratedValue_backend_ne_null _
    · rw [migratedValue_of_ne hb]
      have hmem := mem_names_extended t (rebuildColumns_subset _ hm)
      rw [names_extended, List.mem_append] at hmem
      rcases hmem with hc | hc
      · rw [fill_of_mem_names _ hc]
        exact h.notNull column hcolumn hn hc hb r hr
      · obtain ⟨added, hadded, hname⟩ := List.mem_map.1 hc
        rw [← hname, fill_of_mem_added _ hadded]
        -- No column that can be NULL is added under a name that the rebuilt table declares NOT NULL.
        have hd : ∀ added ∈ additiveColumns, ∀ column ∈ webhookRoutesRebuild.columns, column.notNull = true →
            added.name = column.name → added.default ≠ .null := by decide +kernel
        exact hd added (List.mem_filter.1 hadded).1 column hcolumn hn hname
  · intro ix hix
    obtain rfl := List.mem_singleton.1 hix
    exact uniqueIn_rebuilt t (by decide +kernel) h.idUnique

end RouteMigrationAux

/-- The migration of a table whose rows can be copied ends without error. It leaves the columns that the rebuild lists,
with the values that the rows had in those of them that were there before, and replaces the uniqueness of names by that
of names and backends. -/
theorem migrateWebhookRoutes_keeps (t : LegacyRouteTable) (h : Copyable t.toTable) :
    ∃ t', migrateWebhookRoutes t.toTable = .ok t' ∧ t'.names = rebuildColumns ∧
      List.Forall₂ (MigratedRow (t.toTable.names.filter (· ∈ rebuildColumns))) t.rows t'.rows ∧
      (∀ ix ∈ t'.uniques, ix.columns ≠ ["organization_id", "name"]) ∧
      (∃ ix ∈ t'.uniques, ix.columns = ["organization_id", "name", "delivery_backend"]) ∧ t'.Valid := by
  have hname : UniqueIn nameBackendIndex.columns (rebuilt t.toTable).rows :=
    UniqueIn.mono (by decide +kernel) (uniqueIn_rebuilt t (by decide +kernel) (nameUnique_rows t))
  have htoken : UniqueIn tokenHashIndex.columns ((rebuilt t.toTable).withIndex nameBackendIndex).rows :=
    uniqueIn_rebuilt t (by decide +kernel) h.tokenUnique
  have hindexes : sqliteEnsureWebhookRouteIndexes (rebuilt t.toTable) =
      .ok (((rebuilt t.toTable).withIndex nameBackendIndex).withIndex tokenHashIndex) := by
    refine Except.bind_eq_ok_iff.2 ⟨_, Table.createUniqueIndexIfNotExists_of_unique ?_ hname, ?_⟩
    · exact (by decide +kernel : nameBackendIndex.name ∉ webhookRoutesRebuild.uniques.map (·.name))
    · refine Table.createUniqueIndexIfNotExists_of_unique ?_ htoken
      exact (by decide +kernel : tokenHashIndex.name ∉ (webhookRoutesRebuild.withIndex nameBackendIndex).uniques.map (·.name))
  have hvalid := valid_rebuilt t h
  refine ⟨_, (migrateWebhookRoutes_eq_ok_iff t).2 ⟨valid_backfilled t h, hvalid, hindexes⟩, rfl, ?_, ?_, ?_,
    (hvalid.withIndex hname).withIndex htoken⟩
  · have hrows : (((rebuilt t.toTable).withIndex nameBackendIndex).withIndex tokenHashIndex).rows =
      (rebuilt t.toTable).rows := rfl
    rw [hrows, rows_rebuilt, List.forall₂_map_right_iff, List.forall₂_same]
    exact fun r _ => migratedRow_migrateRow t r
  · exact (by decide +kernel : ∀ ix ∈ ((webhookRoutesRebuild.withIndex nameBackendIndex).withIndex tokenHashIndex).uniques,
      ix.columns ≠ ["organization_id", "name"])
  · exact (by decide +kernel : ∃ ix ∈ ((webhookRoutesRebuild.withIndex nameBackendIndex).withIndex tokenHashIndex).uniques,
      ix.columns = ["organization_id", "name", "delivery_backend"])

/-! ## The columns that are lost -/

/-- The migration loses something of every legacy route table: when it ends without error, the columns of the route's
members are not in the table any more. -/
theorem route_migration_loses (t : LegacyRouteTable) : ¬RouteMigrationLaw t.toTable := by
  rintro ⟨t', h, hcolumns, -⟩
  have hmem := hcolumns "member_summary" (by decide +kernel)
  rw [names_of_migrateWebhookRoutes t h] at hmem
  exact absurd hmem (by decide +kernel)

/-! ## Fixed inputs -/

/-- A route with the members that were found in its chat. -/
def routeWithMembers : Row := fun c =>
  if c ∈ ["created_by_id", "members_refreshed_at", "bot_registered_at", "last_delivery_status", "last_delivery_at"] then
    .null
  else if c = "delivery_backend" then .text " "
  else if c = "member_count" then .integer 2
  else if c = "member_summary" then .text "Ada, Grace"
  else .text c

/-- The route table of a release that has all the columns and still the old uniqueness, with one route. -/
def tableWithMembers : LegacyRouteTable where
  columns :=
    [requiredColumn "id", requiredColumn "organization_id", nullableColumn "created_by_id", requiredColumn "name",
     requiredColumn "is_active", requiredColumn "route_token_hash", requiredColumn "target_type",
     requiredColumn "target_name", requiredColumn "bot_service_url", requiredColumn "bot_conversation_id",
     nullableColumn "last_delivery_status", nullableColumn "last_delivery_at", requiredColumn "created_at",
       requiredColumn "updated_at"] ++ additiveColumns
  uniques :=
    [⟨"sqlite_autoindex_webhook_routes_1", ["id"]⟩, ⟨"sqlite_autoindex_webhook_routes_2", ["organization_id", "name"]⟩,
    tokenHashIndex]
  rows := [routeWithMembers]
  distinct := by decide +kernel
  base := by decide +kernel
  known := by decide +kernel
  indexed := by decide +kernel
  nameUnique := ⟨⟨"sqlite_autoindex_webhook_routes_2", ["organization_id", "name"]⟩, by decide, rfl⟩
  valid := ⟨by decide +kernel, by decide +kernel⟩

/-- What the migration leaves of that table: no columns for the members, and a route that has lost them. -/
theorem route_migration_loses_members :
    (migrateWebhookRoutes tableWithMembers.toTable).toOption.map
        (fun t => (decide ("member_summary" ∈ t.names), t.rows.map fun r => (r "delivery_backend", r "member_summary"))) =
      some (false, [(.text "bot_framework", .null)]) ∧
    ¬RouteMigrationLaw tableWithMembers.toTable := by
  have hrun : (migrateWebhookRoutes tableWithMembers.toTable).toOption.map
      (fun t => (decide ("member_summary" ∈ t.names), t.rows.map fun r => (r "delivery_backend", r "member_summary"))) =
      some (false, [(.text "bot_framework", .null)]) := by
    decide +kernel
  refine ⟨hrun, ?_⟩
  rintro ⟨t', h, hcolumns, -⟩
  rw [h] at hrun
  have hmem : decide ("member_summary" ∈ t'.names) = false := congrArg Prod.fst (Option.some.inj hrun)
  exact of_decide_eq_false hmem (hcolumns "member_summary" (by decide +kernel))

end TeamsRehook
