import TeamsRehook.SettingsOverrides
import TeamsRehook.Lib.Processes

/-!
# Setting requests

`update_setting` and `reset_setting` of `routers/admin.py`: alone in a process (`handleSetting`), and step by step in
any number of threads and of processes that share the table and each keep overrides of their own (`settingStep`). The
audit event a request records is left out; recording it can fail, as the flush, the select of the rows and the commit
can.
-/

namespace TeamsRehook

/-- Where the database fails a request. -/
inductive SettingFault where
  | flush | load | audit | commit
  deriving DecidableEq, Repr

/-- A request, with the place where it fails, if the database fails it. -/
structure SettingRequest where
  change : SettingChange
  now : Int := 0
  updatedById : Option Nat := none
  fault : Option SettingFault := none
  deriving DecidableEq, Repr

/-- The request fails after the overrides of the process are loaded. -/
def SettingRequest.FailsAfterLoad (r : SettingRequest) : Prop := r.fault = some .audit ∨ r.fault = some .commit

instance (r : SettingRequest) : Decidable r.FailsAfterLoad := inferInstanceAs (Decidable (_ ∨ _))

/-- A statement, which raises when the database fails it. -/
def faulty {α : Type} (fails : Prop) [Decidable fails] (result : Except Exn α) : Except Exn α :=
  if fails then .error .operationalError else result

/-- The committed rows, and the overrides of the process. -/
structure SettingsProcess where
  rows : List AppSetting
  cache : Overrides

/-- `update_setting` and `reset_setting`: the rows that are committed and the overrides of the process when the request
has ended, and what it raised. -/
def handleSetting (P : Platform) (s : Settings) (r : SettingRequest) (x : SettingsProcess) :
    SettingsProcess × Except Exn Unit :=
  let written := do
    let c ← checkChange P s r.now x.cache r.change
    let writes ← changeWrites P s r.now r.updatedById x.rows c
    let rows ← faulty (r.fault = some SettingFault.flush) (flushWrites x.rows writes)
    let cache ← faulty (r.fault = some SettingFault.load) (loadOverrides P s rows)
    return (rows, cache)
  match written with
  | .error e => (x, .error e)
  | .ok (rows, cache) =>
    if r.FailsAfterLoad then ({ x with cache := cache }, .error .operationalError) else (⟨rows, cache⟩, .ok ())

/-! ## Concurrent requests -/

/-- Where a request is. -/
inductive SettingPhase where
  | idle
  /-- The change is checked against the overrides of the process. -/
  | checked (c : CheckedChange)
  /-- The rows are read. -/
  | prepared (c : CheckedChange) (writes : List SettingWrite)
  /-- The rows are written, and the overrides of the process loaded. -/
  | flushed (c : CheckedChange) (writes : List SettingWrite)
  | ended (result : Except Exn Unit)

/-- The committed rows, the overrides of each process, and the keys of the rows that are locked. -/
structure SharedSettings (κ : Type) where
  rows : List AppSetting
  caches : κ → Overrides
  locked : List String := []

section

variable {ι κ : Type} [DecidableEq κ]

/-- The next step of a request in a process. A flush waits for the rows that another request has written and not
committed. -/
def settingNext (P : Platform) (s : Settings) (process : κ) (r : SettingRequest) (x : SharedSettings κ) :
    SettingPhase → Option (SharedSettings κ × SettingPhase)
  | .idle =>
    match checkChange P s r.now (x.caches process) r.change with
    | .ok c => some (x, .checked c)
    | .error e => some (x, .ended (.error e))
  | .checked c =>
    match changeWrites P s r.now r.updatedById x.rows c with
    | .ok writes => some (x, .prepared c writes)
    | .error e => some (x, .ended (.error e))
  | .prepared c writes =>
    if writes.any (fun write => x.locked.contains write.key) then none
    else
      match (do
        let rows ← faulty (r.fault = some SettingFault.flush) (flushWrites x.rows writes)
        faulty (r.fault = some SettingFault.load) (loadOverrides P s rows)) with
      | .ok cache =>
        some ({ x with
          caches := Function.update x.caches process cache
          locked := x.locked ++ writes.map SettingWrite.key }, .flushed c writes)
      | .error e => some (x, .ended (.error e))
  | .flushed _ writes =>
    let locked := x.locked.filter fun key => !(writes.map SettingWrite.key).contains key
    match faulty r.FailsAfterLoad (flushWrites x.rows writes) with
    | .ok rows => some ({ x with rows := rows, locked := locked }, .ended (.ok ()))
    | .error e => some ({ x with locked := locked }, .ended (.error e))
  | .ended _ => none

/-- What the requests share, and where each of them is. -/
abbrev SettingsSessions (ι κ : Type) := Processes.World (SharedSettings κ) ι SettingPhase

/-- A process starts again, and loads the overrides (`init_db`); nothing when that raises. -/
def reload (P : Platform) (s : Settings) (x : SharedSettings κ) (process : κ) : Option (SharedSettings κ) :=
  match loadOverrides P s x.rows with
  | .ok cache => some { x with caches := Function.update x.caches process cache }
  | .error _ => none

variable [DecidableEq ι]

/-- One step of one request, or the start of a process. -/
def settingStep (P : Platform) (s : Settings) (R : ι → κ × SettingRequest) :
    SettingsSessions ι κ → Processes.Act ι κ → Option (SettingsSessions ι κ) :=
  Processes.World.step (fun i => settingNext P s (R i).1 (R i).2) (reload P s)

/-- No request has begun. -/
def SettingsSessions.initial (rows : List AppSetting) (caches : κ → Overrides) : SettingsSessions ι κ :=
  ⟨{ rows := rows, caches := caches }, fun _ => .idle⟩

end

end TeamsRehook
