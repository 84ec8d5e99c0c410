import TeamsRehook.SettingsSessions
import TeamsRehook.Lib.Except

/-!
# Rows of settings and the overrides they make

The rows make overrides key by key (`loadOverrides_eq_ok_iff`), and a flush changes the row of each key it writes and no
other (`flushWrites_current`).
-/

namespace TeamsRehook

variable {P : Platform} {s : Settings} {rows rows' : List AppSetting} {c : Overrides} {key : String}

/-! ## Loading -/

/-- The override under a key when its row is loaded, if there is one, over what was there. -/
def decodedRow (P : Platform) (s : Settings) (old : Option String) : Option AppSetting → Except Exn (Option String)
  | none => .ok old
  | some row => if (settingDefinition? row.key).isNone then .ok old else (storedValue P s row).map some

theorem getSetting_cons (row : AppSetting) (rows : List AppSetting) (key : String) :
    getSetting key (row :: rows) = if row.key = key then some row else getSetting key rows := by
  unfold getSetting
  rw [List.find?_cons]
  by_cases h : row.key = key
  · simp [h]
  · simp [h, beq_eq_false_iff_ne.2 h]

/-- A row that is found has the key. -/
theorem key_of_getSetting {row : AppSetting} (h : getSetting key rows = some row) : row.key = key := by
  simpa using List.find?_some h

/-- Without a row that has the key, none is found. -/
theorem getSetting_eq_none (h : ∀ row ∈ rows, row.key ≠ key) : getSetting key rows = none := by
  refine List.find?_eq_none.2 fun row hrow => ?_
  simpa using h row hrow

/-- There is a row that has the key exactly when one is found. -/
theorem any_key_eq (rows : List AppSetting) (key : String) : rows.any (·.key == key) = (getSetting key rows).isSome := by
  unfold getSetting
  rw [Bool.eq_iff_iff, List.find?_isSome, List.any_eq_true]

/-- The rows make overrides key by key, over what was loaded before. -/
theorem foldlM_loadRow_eq_ok_iff (hkeys : Table.UniqueOn (·.key) rows) (loaded : Overrides) :
    rows.foldlM (loadRow P s) loaded = .ok c ↔ ∀ key, decodedRow P s (loaded key) (getSetting key rows) =
    .ok (c key) := by
  induction rows generalizing loaded with
  | nil =>
    have hnil : ∀ key, getSetting key [] = none := fun _ => rfl
    simp only [List.foldlM_nil, pure, Except.pure, Except.ok.injEq, hnil, decodedRow]
    exact funext_iff
  | cons row rows ih =>
    have hkeys' := List.nodup_cons.1 hkeys
    have hnone : getSetting row.key rows = none :=
      getSetting_eq_none fun other hother heq => hkeys'.1 (List.mem_map.2 ⟨other, hother, heq⟩)
    have hother : ∀ key, row.key ≠ key → getSetting key (row :: rows) = getSetting key rows := fun key hne => by
      rw [getSetting_cons, if_neg hne]
    have hself : getSetting row.key (row :: rows) = some row := by rw [getSetting_cons, if_pos rfl]
    rw [List.foldlM_cons]
    by_cases hknown : (settingDefinition? row.key).isNone
    · simp only [loadRow, if_pos hknown, bind, Except.bind]
      rw [ih hkeys'.2]
      refine forall_congr' fun key => ?_
      by_cases hkey : row.key = key
      · subst hkey
        rw [hnone, hself]
        simp only [decodedRow, if_pos hknown]
      · rw [hother key hkey]
    · simp only [loadRow, if_neg hknown, bind, Except.bind]
      cases hvalue : storedValue P s row with
      | error e =>
        simp only [reduceCtorEq, false_iff, not_forall]
        refine ⟨row.key, ?_⟩
        rw [hself]
        simp [decodedRow, hknown, hvalue, Except.map]
      | ok value =>
        simp only [pure, Except.pure]
        rw [ih hkeys'.2]
        refine forall_congr' fun key => ?_
        by_cases hkey : row.key = key
        · subst hkey
          rw [hnone, hself, Function.update_self]
          simp [decodedRow, hknown, hvalue, Except.map]
        · rw [hother key hkey, Function.update_of_ne (Ne.symm hkey)]

/-- The rows make overrides key by key. -/
theorem loadOverrides_eq_ok_iff (hkeys : Table.UniqueOn (·.key) rows) :
    loadOverrides P s rows = .ok c ↔ ∀ key, decodedRow P s none (getSetting key rows) = .ok (c key) :=
  foldlM_loadRow_eq_ok_iff hkeys fun _ => none

/-! ## Writing -/

/-- The row a write leaves under its key. -/
def SettingWrite.row : SettingWrite → Option AppSetting
  | .put _ row => some row
  | .delete _ => none

/-- The write is of a row as it is now. -/
def SettingWrite.Current (rows : List AppSetting) : SettingWrite → Prop
  | .put loaded row => loaded = getSetting row.key rows
  | .delete _ => True

/-- The row of another key is found where it was, behind a row that is added. -/
theorem getSetting_append (rows : List AppSetting) (row : AppSetting) (key : String) :
    getSetting key (rows ++ [row]) = (getSetting key rows).or (if row.key = key then some row else none) := by
  unfold getSetting
  rw [List.find?_append]
  by_cases h : row.key = key
  · simp [h]
  · simp [h]

/-- A removal leaves no row of its key, and every other row. -/
theorem getSetting_delete (rows : List AppSetting) (removed key : String) :
    getSetting key (Table.delete (·.key == removed) rows) = if removed = key then none else getSetting key rows := by
  unfold getSetting Table.delete
  rw [List.find?_filter]
  by_cases h : removed = key
  · subst h
    rw [if_pos rfl]
    exact List.find?_eq_none.2 fun row _ => by simp
  · rw [if_neg h]
    congr 1
    funext row
    by_cases hrow : row.key = key
    · simp [hrow, Ne.symm h]
    · simp [hrow]

/-- An update of the row of one key leaves every other row. -/
theorem getSetting_update {f : AppSetting → AppSetting} (hf : ∀ row, (f row).key = row.key) (rows : List AppSetting)
    (written key : String) :
    getSetting key (Table.update (·.key == written) f rows) =
      if written = key then (getSetting key rows).map f else getSetting key rows := by
  unfold getSetting
  rw [Table.find?_update fun row => by rw [hf row]]
  by_cases h : written = key
  · subst h
    rw [if_pos rfl]
    refine Option.map_congr fun row hrow => ?_
    simp [List.find?_some hrow]
  · rw [if_neg h]
    cases hrow : rows.find? (·.key == key) with
    | none => rfl
    | some row =>
      have hkey : row.key = key := by simpa using List.find?_some hrow
      simp [hkey, Ne.symm h]

/-- A flush of a row as it is now leaves what is to be written, and every other row as it is. -/
theorem flushWrite_current {w : SettingWrite} (hkeys : Table.UniqueOn (·.key) rows) (hw : w.Current rows) :
    ∃ rows', flushWrite rows w = .ok rows' ∧ Table.UniqueOn (·.key) rows' ∧
      ∀ key, getSetting key rows' = if w.key = key then w.row else getSetting key rows := by
  cases w with
  | delete removed =>
    exact ⟨_, rfl, Table.uniqueOn_delete hkeys, fun key => getSetting_delete rows removed key⟩
  | put loaded row =>
    have hany := any_key_eq rows row.key
    rw [← show loaded = getSetting row.key rows from hw] at hany
    cases loaded with
    | none =>
      have hnone : getSetting row.key rows = none := hw.symm
      refine ⟨rows ++ [row], by simp [flushWrite, hany], Table.uniqueOn_append hkeys fun other hother heq => ?_,
        fun key => ?_⟩
      · simpa [heq] using List.find?_eq_none.1 hnone other hother
      · rw [getSetting_append]
        by_cases h : row.key = key
        · subst h
          simp [hnone, SettingWrite.key, SettingWrite.row]
        · simp [h, SettingWrite.key]
    | some loaded =>
      have hloaded : getSetting row.key rows = some loaded := hw.symm
      have hflushed : flushSetting loaded row loaded = row := by
        simp only [flushSetting, Table.ormWrite_loaded, key_of_getSetting hloaded]
      refine ⟨Table.update (·.key == row.key) (flushSetting loaded row) rows, by simp [flushWrite, hany],
        Table.uniqueOn_update hkeys fun _ => rfl, fun key => ?_⟩
      have hkept : ∀ current, (flushSetting loaded row current).key = current.key := fun _ => rfl
      rw [getSetting_update hkept]
      by_cases h : row.key = key
      · subst h
        simp [hloaded, hflushed, SettingWrite.key, SettingWrite.row]
      · simp [h, SettingWrite.key]

/-- A flush of rows as they are now leaves, under each key, what is to be written there, and every other row as it is. -/
theorem flushWrites_current {writes : List SettingWrite} (hkeys : Table.UniqueOn (·.key) rows)
    (hcurrent : ∀ w ∈ writes, w.Current rows) (hdistinct : (writes.map (·.key)).Nodup) :
    ∃ rows', flushWrites rows writes = .ok rows' ∧ Table.UniqueOn (·.key) rows' ∧
      (∀ w ∈ writes, getSetting w.key rows' = w.row) ∧
      ∀ key, (∀ w ∈ writes, w.key ≠ key) → getSetting key rows' = getSetting key rows := by
  induction writes generalizing rows with
  | nil => exact ⟨rows, rfl, hkeys, by simp, fun _ _ => rfl⟩
  | cons w writes ih =>
    obtain ⟨hw, hcurrent⟩ := List.forall_mem_cons.1 hcurrent
    obtain ⟨hnew, hdistinct⟩ := List.nodup_cons.1 hdistinct
    have hne : ∀ w' ∈ writes, w.key ≠ w'.key := fun w' hw' heq => hnew (List.mem_map.2 ⟨w', hw', heq.symm⟩)
    obtain ⟨rows₁, hflush, hkeys₁, hrows₁⟩ := flushWrite_current hkeys hw
    have hcurrent₁ : ∀ w' ∈ writes, w'.Current rows₁ := by
      intro w' hw'
      have h' := hcurrent w' hw'
      cases w' with
      | delete => trivial
      | put loaded row => exact h'.trans ((hrows₁ row.key).trans (if_neg (hne _ hw'))).symm
    obtain ⟨rows₂, hflush₂, hkeys₂, hwritten, hothers⟩ := ih hkeys₁ hcurrent₁ hdistinct
    refine ⟨rows₂, ?_, hkeys₂, List.forall_mem_cons.2 ⟨?_, hwritten⟩, fun key hkey => ?_⟩
    · simp only [flushWrites, List.foldlM_cons, hflush, bind, Except.bind]
      exact hflush₂
    · rw [hothers w.key fun w' hw' heq => hne w' hw' heq.symm, hrows₁, if_pos rfl]
    · obtain ⟨hkey, hkeys'⟩ := List.forall_mem_cons.1 hkey
      rw [hothers key hkeys', hrows₁, if_neg hkey]

/-- A flush of a row, as it was loaded at any time, leaves one row for each key, and the rows of other keys. -/
theorem flushWrite_ok {w : SettingWrite} (h : flushWrite rows w = .ok rows') :
    (Table.UniqueOn (·.key) rows → Table.UniqueOn (·.key) rows') ∧
      ∀ key, w.key ≠ key → getSetting key rows' = getSetting key rows := by
  cases w with
  | delete removed =>
    cases h
    exact ⟨Table.uniqueOn_delete, fun key hkey => (getSetting_delete rows removed key).trans (if_neg hkey)⟩
  | put loaded row =>
    cases loaded with
    | none =>
      simp only [flushWrite] at h
      split at h
      · cases h
      · rename_i hany
        cases h
        refine ⟨fun hkeys => Table.uniqueOn_append hkeys fun other hother heq => ?_, fun key hkey => ?_⟩
        · exact hany (List.any_eq_true.2 ⟨other, hother, by simpa using heq⟩)
        · have hne : row.key ≠ key := hkey
          rw [getSetting_append, if_neg hne, Option.or_none]
    | some loaded =>
      simp only [flushWrite] at h
      split at h
      · cases h
        have hkept : ∀ current, (flushSetting loaded row current).key = current.key := fun _ => rfl
        exact ⟨fun hkeys => Table.uniqueOn_update hkeys hkept,
          fun key hkey => (getSetting_update hkept rows row.key key).trans (if_neg hkey)⟩
      · cases h

/-- A flush of rows, as they were loaded at any time, leaves one row for each key, and the rows of other keys. -/
theorem flushWrites_ok {writes : List SettingWrite} (h : flushWrites rows writes = .ok rows') :
    (Table.UniqueOn (·.key) rows → Table.UniqueOn (·.key) rows') ∧
      ∀ key, (∀ w ∈ writes, w.key ≠ key) → getSetting key rows' = getSetting key rows := by
  induction writes generalizing rows with
  | nil =>
    cases h
    exact ⟨id, fun _ _ => rfl⟩
  | cons w writes ih =>
    unfold flushWrites at h
    rw [List.foldlM_cons] at h
    obtain ⟨rows₁, hflush, h⟩ := Except.bind_eq_ok_iff.1 h
    obtain ⟨hkeys, hothers⟩ := flushWrite_ok hflush
    obtain ⟨hkeys', hothers'⟩ := ih h
    refine ⟨fun hunique => hkeys' (hkeys hunique), fun key hkey => ?_⟩
    obtain ⟨hw, hkey⟩ := List.forall_mem_cons.1 hkey
    rw [hothers' key hkey, hothers key hw]

/-- The CORS origins go with a new frontend URL as a row that is now. -/
theorem corsWrites_current {now : Int} {updatedById : Option Nat} {previousFrontendUrl normalized : String}
    {writes : List SettingWrite} (h : corsWrites P s now updatedById rows previousFrontendUrl normalized = .ok writes) :
    writes = [] ∨ ∃ w, writes = [w] ∧ w.Current rows ∧ w.key = "cors_origins" := by
  unfold corsWrites at h
  split at h
  · rename_i hcors
    obtain ⟨origins, -, h⟩ := Except.bind_eq_ok_iff.1 h
    cases h
    exact .inr ⟨_, rfl, hcors.symm, rfl⟩
  · rename_i corsRow hcors
    have hkey : corsRow.key = "cors_origins" := key_of_getSetting hcors
    obtain ⟨corsStored, -, h⟩ := Except.bind_eq_ok_iff.1 h
    split at h
    · obtain ⟨origins, -, h⟩ := Except.bind_eq_ok_iff.1 h
      cases h
      exact .inr ⟨_, rfl, by rw [SettingWrite.Current, hkey, hcors], hkey⟩
    · cases h
      exact .inl rfl

/-- What a change is to write are rows as they are now, of different keys. -/
theorem changeWrites_current {now : Int} {updatedById : Option Nat} {change : CheckedChange} {writes : List SettingWrite}
    (h : changeWrites P s now updatedById rows change = .ok writes) :
    (∀ w ∈ writes, w.Current rows) ∧ (writes.map (·.key)).Nodup := by
  unfold changeWrites at h
  split at h
  · obtain ⟨cors, hcors, h⟩ := Except.bind_eq_ok_iff.1 h
    cases h
    by_cases hkey : change.key = "frontend_base_url"
    · rw [if_pos hkey] at hcors
      rcases corsWrites_current hcors with rfl | ⟨w, rfl, hw, hcorsKey⟩
      · exact ⟨by simp [SettingWrite.Current], by simp⟩
      · have hne : change.key ≠ w.key := by
          rw [hkey, hcorsKey]
          decide
        exact ⟨List.forall_mem_cons.2 ⟨rfl, by simpa using hw⟩, show [change.key, w.key].Nodup by simpa using hne⟩
    · rw [if_neg hkey] at hcors
      cases hcors
      exact ⟨by simp [SettingWrite.Current], by simp⟩
  · cases h
    split
    · exact ⟨by simp [SettingWrite.Current], by simp⟩
    · exact ⟨by simp, by simp⟩

end TeamsRehook
