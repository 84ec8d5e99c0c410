import TeamsRehook.Platform
import TeamsRehook.Lib.Processes
import TeamsRehook.Lib.Python

/-!
# The secrets of an instance

`_ensure_instance_session_secret` and `_ensure_instance_settings_enc_key` of `seed.py`, with what `core/config.py` says
of a secret. A replica that starts and has no secret configured takes the one that the table of settings has, or draws
one and inserts it. `init_db` commits what it has inserted with the first backfill that changes a row, or else at its
end. Any number of replicas start at once on one database (`Processes.World`): a statement reads the rows that are
committed, and an insert waits for the transaction that has inserted the same key.
-/

namespace TeamsRehook

/-- The secrets that are kept in the database. -/
inductive InstanceSecret where
  | sessionSecret | settingsEncKey
  deriving DecidableEq, Repr

/-- `INSTANCE_SESSION_SECRET_KEY` and `INSTANCE_SETTINGS_ENC_KEY`: the key of the row. -/
def InstanceSecret.key : InstanceSecret → String
  | .sessionSecret => "__instance_session_secret"
  | .settingsEncKey => "__instance_settings_enc_key"

/-- `PLACEHOLDER_SESSION_SECRETS` and `PLACEHOLDER_SETTINGS_ENC_KEYS`. -/
def InstanceSecret.placeholders : InstanceSecret → List String
  | .sessionSecret => ["change-me-session-secret", "change-me", "changeme", "secret", "default"]
  | .settingsEncKey =>
    ["change-me-settings-enc-key", "change-me-settings-key", "change-me", "changeme", "secret", "default"]

/-- `is_placeholder_session_secret` and `is_placeholder_settings_enc_key`. -/
def InstanceSecret.isPlaceholder (P : Platform) (secret : InstanceSecret) (value : String) : Bool :=
  let normalized := P.lower (Python.strip value)
  normalized == "" || secret.placeholders.contains normalized || Python.startsWith normalized "change-me"

/-- A secret of the settings of a process, and whether it was generated. -/
structure SecretSetting where
  value : String
  generated : Bool := false
  deriving DecidableEq, Repr

/-- `has_configured_session_secret` and `has_configured_settings_enc_key`. -/
def SecretSetting.isConfigured (setting : SecretSetting) : Bool := Python.strip setting.value != "" && !setting.generated

/-- `use_generated_session_secret` and `use_generated_settings_enc_key`. -/
def SecretSetting.useGenerated (value : String) : SecretSetting := ⟨value, true⟩

/-- `ensure_session_secret`, with what it draws. -/
def SecretSetting.ensure (drawn : String) (setting : SecretSetting) : SecretSetting :=
  if Python.strip setting.value = "" then ⟨drawn, true⟩ else setting

/-- A replica: the secrets of its environment, the session secret that `create_app` draws, those that
`issue_plain_secret` draws, and whether it has something to change in `_backfill_bot_reference_metadata` and in
`_backfill_webhook_route_targets`. -/
structure Replica where
  environment : InstanceSecret → String
  temporary : String
  drawn : InstanceSecret → String
  changesReferences : Bool
  changesTargets : Bool

/-- `get_settings()` after `create_app`. -/
def Replica.createApp (r : Replica) : InstanceSecret → SecretSetting
  | .sessionSecret => SecretSetting.ensure r.temporary ⟨r.environment .sessionSecret, false⟩
  | .settingsEncKey => ⟨r.environment .settingsEncKey, false⟩

/-- Why a replica does not start. -/
inductive StartupError where
  /-- The `RuntimeError` for a placeholder. -/
  | runtimeError
  | integrityError
  /-- The process or its transaction is lost for another reason. -/
  | lost
  deriving DecidableEq, Repr

/-- Where a replica is: `_ensure_instance_…` of a secret begins, or has found no row, or `init_db` has the secrets and
comes to `_backfill_bot_reference_metadata`, to `_backfill_webhook_route_targets` or to the rest. -/
inductive StartupPhase where
  | ready
  | ensuring (secret : InstanceSecret)
  | inserting (secret : InstanceSecret)
  | backfillingReferences
  | backfillingTargets
  | seeding
  | started
  | failed (e : StartupError)
  deriving DecidableEq, Repr

/-- After the secret. -/
def InstanceSecret.after : InstanceSecret → StartupPhase
  | .sessionSecret => .ensuring .settingsEncKey
  | .settingsEncKey => .backfillingReferences

/-- The rows that are committed, those that a replica has inserted and not committed, the settings of each process, and
the replicas that are lost. -/
structure InstanceDatabase (ι : Type*) where
  rows : InstanceSecret → Option String
  inserted : InstanceSecret → Option (ι × String) := fun _ => none
  settings : ι → InstanceSecret → SecretSetting := fun _ _ => ⟨"", false⟩
  lost : ι → Bool := fun _ => false

variable {ι : Type*} [DecidableEq ι]

/-- The process has its settings. -/
def InstanceDatabase.load (x : InstanceDatabase ι) (i : ι) (settings : InstanceSecret → SecretSetting) :
    InstanceDatabase ι :=
  { x with settings := Function.update x.settings i settings }

/-- The process uses a secret. -/
def InstanceDatabase.use (x : InstanceDatabase ι) (i : ι) (secret : InstanceSecret) (setting : SecretSetting) :
    InstanceDatabase ι :=
  { x with settings := Function.update x.settings i (Function.update (x.settings i) secret setting) }

/-- `db.add` and `db.flush`. -/
def InstanceDatabase.insert (x : InstanceDatabase ι) (i : ι) (secret : InstanceSecret) (value : String) :
    InstanceDatabase ι :=
  { x with inserted := Function.update x.inserted secret (some (i, value)) }

/-- What the transaction of the replica has inserted. -/
def InstanceDatabase.insertedBy (x : InstanceDatabase ι) (i : ι) (secret : InstanceSecret) : Option String :=
  (x.inserted secret).bind fun r => if r.1 = i then some r.2 else none

/-- The transaction of the replica ends. -/
def InstanceDatabase.rollback (x : InstanceDatabase ι) (i : ι) : InstanceDatabase ι :=
  { x with inserted := fun secret => if (x.insertedBy i secret).isSome then none else x.inserted secret }

/-- `db.commit()`. -/
def InstanceDatabase.commit (x : InstanceDatabase ι) (i : ι) : InstanceDatabase ι :=
  { x.rollback i with rows := fun secret => (x.insertedBy i secret).or (x.rows secret) }

/-- The next step of a replica that is not lost. -/
def startupNext (P : Platform) (r : Replica) (i : ι) (x : InstanceDatabase ι) :
    StartupPhase → Option (InstanceDatabase ι × StartupPhase)
  | .ready => some (x.load i r.createApp, .ensuring .sessionSecret)
  | .ensuring secret =>
    if (x.settings i secret).isConfigured then
      if secret.isPlaceholder P (x.settings i secret).value then some (x.rollback i, .failed .runtimeError)
      else some (x, secret.after)
    else
      match x.rows secret with
      | some value => some (x.use i secret (.useGenerated value), secret.after)
      | none => some (x, .inserting secret)
  | .inserting secret =>
    if (x.inserted secret).isSome then none
    else if (x.rows secret).isSome then some (x.rollback i, .failed .integrityError)
    else
      some ((x.insert i secret (r.drawn secret)).use i secret (.useGenerated (r.drawn secret)), secret.after)
  | .backfillingReferences => some (if r.changesReferences then x.commit i else x, .backfillingTargets)
  | .backfillingTargets => some (if r.changesTargets then x.commit i else x, .seeding)
  | .seeding => some (x.commit i, .started)
  | _ => none

/-- The next step of a replica: one that is lost does not start. -/
def replicaNext (P : Platform) (replicas : ι → Replica) (i : ι) (x : InstanceDatabase ι) (phase : StartupPhase) :
    Option (InstanceDatabase ι × StartupPhase) :=
  match phase with
  | .started | .failed _ => none
  | _ => if x.lost i then some (x.rollback i, .failed .lost) else startupNext P (replicas i) i x phase

/-- A replica is lost. -/
def loseReplica (x : InstanceDatabase ι) (i : ι) : Option (InstanceDatabase ι) :=
  some { x with lost := Function.update x.lost i true }

/-- One step of the replicas. -/
def startupStep (P : Platform) (replicas : ι → Replica) (w : Processes.World (InstanceDatabase ι) ι StartupPhase)
    (a : Processes.Act ι ι) : Option (Processes.World (InstanceDatabase ι) ι StartupPhase) :=
  Processes.World.step (replicaNext P replicas) loseReplica w a

/-- Before any replica has begun, with the rows that earlier ones left. -/
def initialStartup (rows : InstanceSecret → Option String) : Processes.World (InstanceDatabase ι) ι StartupPhase :=
  ⟨{ rows := rows }, fun _ => .ready⟩

end TeamsRehook
