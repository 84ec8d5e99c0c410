import Mathlib.Data.List.Perm.Subperm
import Mathlib.Logic.Relation
import TeamsRehook.Lemmas.RowOrigins
import TeamsRehook.Lemmas.Webhook
import TeamsRehook.Lib.Paging
import TeamsRehook.Webhook.DeliveryLog

/-!
# Reading the log while it is written

What the operations do to the table of delivery events, as far as the order and the selection of the listing without a
status or a search text depend on it.
-/

namespace TeamsRehook

open Relation

/-- What the listing orders and selects the events by, unless it is asked for a status or a search text. -/
structure LogKey where
  id : Nat
  createdAt : Int
  organizationId : Option Nat
  routeId : Option Nat

/-- The key of an event. -/
def WebhookDeliveryEvent.logKey (event : WebhookDeliveryEvent) : LogKey :=
  ⟨event.id, event.createdAt, event.organizationId, event.routeId⟩

/-- The keys of the events. -/
def Database.logKeys (db : Database) : List LogKey := db.events.map (·.logKey)

/-- The key after a deletion of the route. -/
def LogKey.unlink (routeId : Nat) (key : LogKey) : LogKey :=
  if key.routeId = some routeId then { key with routeId := none } else key

@[simp] theorem LogKey.unlink_id (routeId : Nat) (key : LogKey) : (key.unlink routeId).id = key.id := by
  unfold LogKey.unlink
  split <;> rfl

@[simp] theorem LogKey.unlink_createdAt (routeId : Nat) (key : LogKey) :
    (key.unlink routeId).createdAt = key.createdAt := by
  unfold LogKey.unlink
  split <;> rfl

@[simp] theorem LogKey.unlink_organizationId (routeId : Nat) (key : LogKey) :
    (key.unlink routeId).organizationId = key.organizationId := by
  unfold LogKey.unlink
  split <;> rfl

/-- The key is listed, for the organization and under the filter of a route. -/
def LogKey.Selected (organizationId : Nat) (routeId : Option Nat) (key : LogKey) : Prop :=
  key.organizationId = some organizationId ∧ ∀ r ∈ routeId, key.routeId = some r

instance (organizationId : Nat) (routeId : Option Nat) : DecidablePred (LogKey.Selected organizationId routeId) :=
    fun key =>
  match routeId with
  | none => decidable_of_iff (key.organizationId = some organizationId) (by simp [LogKey.Selected])
  | some r =>
    decidable_of_iff (key.organizationId = some organizationId ∧ key.routeId = some r) (by simp [LogKey.Selected])

/-- The key comes first in the listing, as `newerThan` orders the events. -/
def LogKey.newerThan (key key' : LogKey) : Bool :=
  decide (key'.createdAt < key.createdAt) || (key.createdAt == key'.createdAt && decide (key'.id < key.id))

/-- What comes first was not created earlier. -/
theorem LogKey.createdAt_le_of_newerThan {key key' : LogKey} (h : key.newerThan key' = true) :
    key'.createdAt ≤ key.createdAt := by
  simp only [LogKey.newerThan, Bool.or_eq_true, decide_eq_true_eq, Bool.and_eq_true, beq_iff_eq] at h
  omega

/-- The event of this id is listed when the events of the page are counted, and when its rows are read. -/
def LogRead.Has (organizationId : Nat) (f : DeliveryEventFilters) (r : LogRead) (id : Nat) : Prop :=
  (∃ event ∈ f.events organizationId r.counted, event.id = id) ∧ ∃ event ∈ f.events organizationId r.listed, event.id = id

/-- An event of the listing was recorded between the count and the rows. -/
def LogRead.Grew (organizationId : Nat) (f : DeliveryEventFilters) (r : LogRead) : Prop :=
  ∃ event ∈ f.events organizationId r.listed, ∀ old ∈ r.counted.events, old.id ≠ event.id

instance (organizationId : Nat) (f : DeliveryEventFilters) (r : LogRead) (id : Nat) :
    Decidable (r.Has organizationId f id) :=
  inferInstanceAs (Decidable (_ ∧ _))

instance (organizationId : Nat) (f : DeliveryEventFilters) (r : LogRead) : Decidable (r.Grew organizationId f) :=
  inferInstanceAs (Decidable (∃ event ∈ f.events organizationId r.listed, ∀ old ∈ r.counted.events, old.id ≠ event.id))

/-- What one write of the table can do to the keys: none of them changes, one is new, those of a route lose it, or those
of the events that were created before a time are removed, which is one that the operation may use. -/
inductive LogChange (Cutoff : Int → Prop) (db db' : Database) : Prop
  | kept (hkeys : db'.logKeys = db.logKeys) (hnext : db.nextId ≤ db'.nextId)
  | recorded (key : LogKey) (hkeys : db'.logKeys = db.logKeys ++ [key]) (hid : key.id = db.nextId)
      (hnext : db.nextId < db'.nextId)
  | unlinked (routeId : Nat) (hkeys : db'.logKeys = db.logKeys.map (·.unlink routeId)) (hnext : db.nextId ≤ db'.nextId)
  | removed (cutoff : Int) (hcutoff : Cutoff cutoff) (hkeys : db'.logKeys = db.logKeys.filter fun key =>
    decide (cutoff ≤ key.createdAt))
      (hnext : db.nextId ≤ db'.nextId)

/-- Some writes of the table. -/
abbrev LogChanges (Cutoff : Int → Prop) : Database → Database → Prop := ReflTransGen (LogChange Cutoff)

namespace DeliveryLogAux

variable {P : Platform} {V : Services} {C : Int → Prop} {db db' db₁ : Database}

/-! ## Each operation -/

/-- An operation that leaves the events changes no key. -/
theorem changes_of_events (hevents : db'.events = db.events) (hnext : db.nextId ≤ db'.nextId) : LogChanges C db db' := by
  refine .single (.kept ?_ hnext)
  unfold Database.logKeys
  rw [hevents]

/-- An operation that leaves the routes and the events changes no key. -/
theorem changes_of_same (h : SameRoutes db db') : LogChanges C db db' := changes_of_events h.events h.nextId

/-- A new event has the next id. -/
theorem changes_of_append {event : WebhookDeliveryEvent} (hevents : db'.events = db.events ++ [event])
    (hid : event.id = db.nextId) (hnext : db'.nextId = db.nextId + 1) : LogChanges C db db' := by
  refine .single (.recorded event.logKey ?_ hid (by omega))
  unfold Database.logKeys
  rw [hevents, List.map_append]
  rfl

/-- The deletion of a route takes it from its events. -/
theorem changes_deleteRoute (routeId : Nat) (db : Database) : LogChanges C db (deleteRoute routeId db) := by
  refine .single (.unlinked routeId ?_ (le_refl _))
  unfold Database.logKeys deleteRoute Table.update
  rw [List.map_map, List.map_map]
  refine List.map_congr_left fun event _ => ?_
  by_cases hof : event.routeId = some routeId <;> simp [LogKey.unlink, WebhookDeliveryEvent.logKey, hof]

/-- The deletion of some routes takes them from their events. -/
theorem changes_deleteRoutes (routes : List WebhookRoute) (db : Database) :
    LogChanges C db (routes.foldl (fun db route => deleteRoute route.id db) db) := by
  induction routes generalizing db with
  | nil => exact .refl
  | cons route routes ih => exact (changes_deleteRoute route.id db).trans (ih _)

/-- A new route changes no key. -/
theorem changes_insertRoute {now : Int} {route : WebhookRoute} (h : insertRoute now route db = .ok db') :
    LogChanges C db db' := by
  unfold insertRoute at h
  split at h
  · cases h
  · cases h
    exact changes_of_events rfl (Nat.le_succ _)

/-- The first transaction of a request records one event at most. -/
theorem changes_admitWebhook (s : Settings) (r : WebhookRequest) (db : Database) :
    LogChanges C db (admitWebhook P V s r db).1 := by
  have hview := admitWebhook_view P V s r db
  generalize admitWebhook P V s r db = out at hview
  cases hview with
  | blocked => exact changes_of_events rfl (le_refl _)
  | turnedAway => exact changes_of_append rfl (rejectedEvent_id ..) rfl
  | rejected => exact changes_of_append rfl (rejectedEvent_id ..) rfl
  | raised => exact .refl
  | accepted route body message abuse hacc =>
    have hres := reserve_view P s r route (requestIdempotencyKey r.idempotencyKeyHeader)
      (requestMetadata P r body (requestIdempotencyKey r.idempotencyKeyHeader)) message db abuse
    generalize settle db _ = out at hres
    cases hres with
    | fresh => exact changes_of_append rfl (pendingEvent_id ..) rfl
    | takenOver => exact changes_of_events rfl (le_refl _)
    | answered => exact .refl
    | refused => exact .refl

/-- The second transaction rewrites an event and leaves its key. -/
theorem changes_complete (s : Settings) (run : ProviderRun) (d : Reserved) (db : Database) :
    LogChanges C db (complete P s run d db).1 := by
  obtain hsame | ⟨sent, credentials, -, hflush⟩ := complete_cases P s run d db
  · rw [hsame]
  · rw [flushDelivery_ok hflush]
    exact .single (.kept (Table.map_update fun _ => rfl) (le_refl _))

/-- A recorded event is the last row, with the next id. -/
theorem recordEvent_eq_ok {now : Int} {route : Option WebhookRoute} {tokenHash : String} {f : EventFields}
    {event : WebhookDeliveryEvent} (h : recordEvent now route tokenHash f db = .ok (db', event)) :
    db'.events = db.events ++ [event] ∧ event.id = db.nextId ∧ db'.nextId = db.nextId + 1 := by
  obtain ⟨hok, -⟩ | ⟨hrefused, -⟩ := recordEvent_cases now route tokenHash f db
  · rw [hok] at h
    cases h
    exact ⟨rfl, rfl, rfl⟩
  · rw [hrefused] at h
    cases h

/-- A test records one event at most. -/
theorem changes_testWebhookRoute (s : Settings) (run : ProviderRun) (organizationId routeId : Nat)
    (payload : WebhookRouteTestRequest) (db : Database) :
    LogChanges C db (testWebhookRoute P s run organizationId routeId payload db).1 := by
  unfold testWebhookRoute
  cases getOrgRoute organizationId routeId db with
  | error e => exact .refl
  | ok route =>
    dsimp only
    split
    · exact .refl
    · split
      · exact .refl
      · split
        · exact .refl
        · next hrecord =>
          obtain ⟨hevents, hid, hnext⟩ := recordEvent_eq_ok hrecord
          exact changes_of_append hevents hid hnext

/-- What a cleanup removes was created before its cutoff. -/
theorem changes_cleanup {s : Settings} {now : Int} {force : Bool} {last last' : Option Int}
    (hcutoff : ∀ cutoff, timeBefore now (days (max 0 s.logRetentionDays)) = .ok cutoff → C cutoff)
    (h : cleanupLogEvents s now force last db = .ok (db', last')) : LogChanges C db db' := by
  unfold cleanupLogEvents at h
  obtain ⟨cutoff, htime, h⟩ := Except.bind_eq_ok_iff.1 h
  obtain ⟨skipped, -, h⟩ := Except.bind_eq_ok_iff.1 h
  split at h
  · obtain ⟨rfl, -⟩ := Prod.mk.inj (Except.ok.inj h)
    exact .refl
  · obtain ⟨rfl, -⟩ := Prod.mk.inj (Except.ok.inj h)
    refine .single (.removed cutoff (hcutoff cutoff htime) ?_ (le_refl _))
    unfold Database.logKeys Table.delete
    rw [List.filter_map]
    refine congrArg (List.map _) (List.filter_congr fun event _ => ?_)
    show (!decide (event.createdAt < cutoff)) = decide (cutoff ≤ event.createdAt)
    rw [← decide_not, decide_eq_decide, not_lt]

/-! ### Routes and references -/

/-- The effect of a command on the routes changes the keys of the events of a deleted route at most. -/
theorem changes_effect {run : BotRun} {organizationId : Nat} {captured : Captured}
    {reference : Option BotConversationReference} {argument : String} {command : BotCommand}
    (h : RouteEffect P run organizationId captured reference argument db command db') :
    LogChanges C db db' := by
  cases h with
  | unchanged => exact .refl
  | setActive => exact changes_of_events rfl (le_refl _)
  | setAccess => exact changes_of_events rfl (le_refl _)
  | delete => exact changes_deleteRoute _ db
  | update => exact changes_of_events rfl (le_refl _)
  | create _ _ _ hinsert => exact changes_insertRoute hinsert

/-- A command of the bot does no more than its effect on the routes. -/
theorem changes_command {s : Settings} {run : BotRun} {captured : Captured} {reference : Option BotConversationReference}
    {command : BotCommand} {argument : String} {permissions : BotPermissions}
    (h : CommandEnd P s run captured reference command argument permissions db db') : LogChanges C db db' := by
  obtain ⟨db₁, db₂, n, revealed, hstart, heffect, rfl, -, -⟩ := h.exists_effect
  obtain ⟨reveals, m, heq, hm⟩ := issueWebhookRevealUrls_eq P s run n revealed db₂
  refine ((changes_of_same hstart.sameRoutes).trans (changes_effect heffect)).trans ?_
  rw [heq]
  exact changes_of_events rfl hm

/-- An activity does no more than its command. -/
theorem changes_activity {s : Settings} {run : BotRun} {body : Bytes} {authorization : Option BotCommandAuthorization}
    (h : receiveBotActivity P s run body db = .ok (db', authorization)) : LogChanges C db db' := by
  unfold receiveBotActivity at h
  obtain ⟨activity, -, h⟩ := Except.bind_eq_ok_iff.1 h
  cases activity with
  | none =>
    obtain ⟨rfl, -⟩ := Prod.mk.inj (Except.ok.inj h)
    exact .refl
  | some activity =>
    obtain ⟨db₁, reference, -, ⟨hsame, -, -⟩ | ⟨db₂, command, argument, a, hrun, -, hhandle⟩⟩ := receiveActivity_end h
    · exact changes_of_same hsame
    · exact (changes_of_same hrun.routes).trans
        (changes_command (handleCommand_end (strip_of_commandOf hrun.parsed) hhandle))

/-- An operation that raises changes nothing. -/
theorem changes_committed {result : Except Exn Database} (h : ∀ db', result = .ok db' → LogChanges C db db') :
    LogChanges C db (committed db result) := by
  cases result with
  | ok db' => exact h db' rfl
  | error e => exact .refl

/-- What the operations on routes and references do to the keys. -/
theorem changes_routeStep {step : RouteStep} (h : routeStep P db step = some db') : LogChanges C db db' := by
  cases step with
  | activity s run body =>
    obtain rfl := Option.some.inj h
    refine changes_committed fun db' hreceive => ?_
    obtain ⟨⟨db₁, authorization⟩, hreceived, rfl⟩ := Except.map_eq_ok_iff.1 hreceive
    exact changes_activity hreceived
  | create s run organizationId payload =>
    obtain rfl := Option.some.inj h
    refine changes_committed fun db' hcreate => ?_
    obtain ⟨row, -, hinsert⟩ := createWebhookRoute_eq_ok hcreate
    exact changes_insertRoute hinsert
  | update s run organizationId routeId payload =>
    obtain rfl := Option.some.inj h
    refine changes_committed fun db' hupdate => ?_
    obtain ⟨old, -, -, row, -, rfl⟩ := updateWebhookRoute_eq_ok hupdate
    exact changes_of_events rfl (le_refl _)
  | refreshMembers now fetched valueErrorText organizationId routeId =>
    obtain rfl := Option.some.inj h
    refine changes_committed fun db' hrefresh => ?_
    obtain ⟨old, -, hrefresh⟩ := Except.bind_eq_ok_iff.1 hrefresh
    obtain ⟨row, -, hrefresh⟩ := Except.bind_eq_ok_iff.1 hrefresh
    cases hrefresh
    exact changes_of_events rfl (le_refl _)
  | refreshReferenceMembers now force fetched referenceId =>
    obtain rfl := Option.some.inj h
    refine changes_committed fun db' hrefresh => ?_
    unfold refreshBotConversationReferenceMembers at hrefresh
    split at hrefresh
    · cases hrefresh
    · obtain ⟨changed, -, hrefresh⟩ := Except.bind_eq_ok_iff.1 hrefresh
      cases hrefresh
      exact changes_of_events rfl (le_refl _)
  | refreshNames s now G organizationId =>
    obtain rfl := Option.some.inj h
    refine changes_committed fun db' hrefresh => ?_
    obtain ⟨_, -, hrefresh⟩ := Except.bind_eq_ok_iff.1 hrefresh
    obtain ⟨references, -, hrefresh⟩ := Except.bind_eq_ok_iff.1 hrefresh
    obtain ⟨routes, -, hrefresh⟩ := Except.bind_eq_ok_iff.1 hrefresh
    cases hrefresh
    exact changes_of_events rfl (le_refl _)
  | refreshRouteNames s now G organizationId routeId =>
    obtain rfl := Option.some.inj h
    refine changes_committed fun db' hrefresh => ?_
    obtain ⟨old, -, hrefresh⟩ := Except.bind_eq_ok_iff.1 hrefresh
    obtain ⟨_, -, hrefresh⟩ := Except.bind_eq_ok_iff.1 hrefresh
    obtain ⟨changed, -, hrefresh⟩ := Except.bind_eq_ok_iff.1 hrefresh
    cases hrefresh
    exact changes_of_events rfl (le_refl _)
  | deleteRoute organizationId routeId =>
    obtain rfl := Option.some.inj h
    refine changes_committed fun db' hdelete => ?_
    obtain ⟨route, -, hdelete⟩ := Except.bind_eq_ok_iff.1 hdelete
    cases hdelete
    exact changes_deleteRoute route.id db
  | deleteReference organizationId referenceId deleteLinkedRoutes =>
    obtain rfl := Option.some.inj h
    refine changes_committed fun db' hdelete => ?_
    unfold deleteBotConversationReference at hdelete
    split at hdelete
    · cases hdelete
    · dsimp only at hdelete
      split at hdelete
      · cases hdelete
      · cases hdelete
        exact (changes_deleteRoutes _ db).trans (changes_of_events rfl (le_refl _))
  | restart now =>
    obtain rfl := Option.some.inj h
    exact changes_of_events rfl (le_refl _)

/-- What each step of a history does to the keys; only a cleanup removes any. -/
theorem changes_logStep {x x' : LogState} {a : LogStep}
    (hcutoff : ∀ s now force cutoff, a = .cleanup s now force → timeBefore now (days (max 0 s.logRetentionDays)) =
      .ok cutoff → C cutoff)
    (h : logStep P V x a = some x') : LogChanges C x.db x'.db := by
  cases a with
  | receive s r =>
    obtain rfl := Option.some.inj h
    exact changes_admitWebhook s r x.db
  | finish s run delivery =>
    obtain ⟨d, -, rfl⟩ := Option.map_eq_some_iff.1 h
    exact changes_complete s run d x.db
  | test s run organizationId routeId payload =>
    obtain rfl := Option.some.inj h
    exact changes_testWebhookRoute s run organizationId routeId payload x.db
  | cleanup s now force =>
    simp only [logStep] at h
    split at h
    · next hcleanup =>
      obtain rfl := Option.some.inj h
      exact changes_cleanup (fun cutoff => hcutoff s now force cutoff rfl) hcleanup
    · obtain rfl := Option.some.inj h
      exact .refl
  | live step =>
    obtain ⟨db', hstep, rfl⟩ := Option.map_eq_some_iff.1 h
    cases step with
    | routes step =>
      simp only [liveStep, Option.ite_none_right_eq_some] at hstep
      exact changes_routeStep hstep.2
    | regenerate now routeId routeToken =>
      simp only [liveStep, regenerateWebhookRouteUrl, Option.ite_none_left_eq_some, Option.some.injEq] at hstep
      obtain ⟨-, rfl⟩ := hstep
      exact changes_of_events rfl (le_refl _)

/-- What a history does to the keys; only its cleanups remove any. -/
theorem changes_exec {x x' : LogState} {steps : List LogStep}
    (hcutoff : ∀ s now force cutoff, .cleanup s now force ∈ steps → timeBefore now (days (max 0 s.logRetentionDays)) =
      .ok cutoff → C cutoff)
    (h : Transition.exec (logStep P V) x steps = some x') : LogChanges C x.db x'.db := by
  induction steps generalizing x with
  | nil =>
    cases h
    exact .refl
  | cons a steps ih =>
    obtain ⟨x₁, hstep, hrest⟩ := Transition.exec_cons_eq_some.1 h
    have hchanges : LogChanges C x.db x₁.db :=
      changes_logStep (fun s now force cutoff ha => hcutoff s now force cutoff (ha ▸ List.mem_cons_self)) hstep
    exact hchanges.trans (ih (fun s now force cutoff ha => hcutoff s now force cutoff (List.mem_cons_of_mem _ ha)) hrest)

/-! ## The place of an event -/

/-- The ids are unique, and the ones given out. -/
structure LogWf (db : Database) : Prop where
  unique : (db.logKeys.map (·.id)).Nodup
  fresh : ∀ key ∈ db.logKeys, key.id < db.nextId

variable {organizationId : Nat} {routeId : Option Nat} {key key' : LogKey}

/-- The number of the keys that are listed before this one. -/
def rank (organizationId : Nat) (routeId : Option Nat) (key : LogKey) (keys : List LogKey) : Nat :=
  keys.countP fun other => decide (other.Selected organizationId routeId) && other.newerThan key

/-- There is one event of an id. -/
theorem LogWf.eq_of_id (hwf : LogWf db) (hkey : key ∈ db.logKeys) (hkey' : key' ∈ db.logKeys) (hid : key'.id = key.id) :
    key' = key :=
  List.inj_on_of_nodup_map hwf.unique hkey' hkey hid

/-- A write keeps the ids unique and given out. -/
theorem LogWf.change (hwf : LogWf db) (h : LogChange C db db') : LogWf db' := by
  cases h with
  | kept hkeys hnext => exact ⟨hkeys ▸ hwf.unique, fun key hkey => (hwf.fresh key (hkeys ▸ hkey)).trans_le hnext⟩
  | recorded key hkeys hid hnext =>
    refine ⟨?_, fun key' hkey' => ?_⟩
    · rw [hkeys, List.map_append, List.map_singleton, List.nodup_append]
      refine ⟨hwf.unique, List.nodup_singleton _, ?_⟩
      rintro a ha b hb rfl
      obtain ⟨old, hold, rfl⟩ := List.mem_map.1 ha
      have := hwf.fresh old hold
      have := List.mem_singleton.1 hb
      omega
    · rw [hkeys, List.mem_append, List.mem_singleton] at hkey'
      rcases hkey' with hold | rfl
      · exact (hwf.fresh key' hold).trans hnext
      · omega
  | unlinked routeId hkeys hnext =>
    refine ⟨?_, fun key hkey => ?_⟩
    · rw [hkeys, List.map_map]
      exact (List.map_congr_left fun key _ => LogKey.unlink_id routeId key) ▸ hwf.unique
    · rw [hkeys] at hkey
      obtain ⟨old, hold, rfl⟩ := List.mem_map.1 hkey
      exact (LogKey.unlink_id routeId old ▸ hwf.fresh old hold).trans_le hnext
  | removed cutoff hcutoff hkeys hnext =>
    refine ⟨?_, fun key hkey => ?_⟩
    · rw [hkeys]
      exact hwf.unique.sublist (List.filter_sublist.map _)
    · rw [hkeys] at hkey
      exact (hwf.fresh key (List.mem_of_mem_filter hkey)).trans_le hnext

/-- Some writes keep the ids unique and given out. -/
theorem LogWf.changes (hwf : LogWf db) (h : LogChanges C db db') : LogWf db' := by
  induction h with
  | refl => exact hwf
  | tail _ hchange ih => exact ih.change hchange

/-- The ids are given out in their order. -/
theorem nextId_le (h : LogChanges C db db') : db.nextId ≤ db'.nextId := by
  induction h with
  | refl => exact le_refl _
  | tail _ hchange ih =>
    refine ih.trans ?_
    cases hchange with
    | kept _ hnext => exact hnext
    | recorded _ _ _ hnext => exact hnext.le
    | unlinked _ _ hnext => exact hnext
    | removed _ _ _ hnext => exact hnext

/-- A key with an old id was there before. -/
theorem exists_before (h : LogChange C db db') (hkey' : key' ∈ db'.logKeys) (hold : key'.id < db.nextId) :
    ∃ key ∈ db.logKeys, key.id = key'.id ∧ key.createdAt = key'.createdAt := by
  cases h with
  | kept hkeys => exact ⟨key', hkeys ▸ hkey', rfl, rfl⟩
  | recorded new hkeys hid =>
    rw [hkeys, List.mem_append, List.mem_singleton] at hkey'
    rcases hkey' with hthere | rfl
    · exact ⟨key', hthere, rfl, rfl⟩
    · omega
  | unlinked r hkeys =>
    rw [hkeys] at hkey'
    obtain ⟨key, hkey, rfl⟩ := List.mem_map.1 hkey'
    exact ⟨key, hkey, (LogKey.unlink_id r key).symm, (LogKey.unlink_createdAt r key).symm⟩
  | removed cutoff _ hkeys =>
    rw [hkeys] at hkey'
    exact ⟨key', List.mem_of_mem_filter hkey', rfl, rfl⟩

@[simp] theorem newerThan_unlink (r : Nat) (key key' : LogKey) : (key.unlink r).newerThan key' = key.newerThan key' := by
  simp [LogKey.newerThan]

@[simp] theorem newerThan_unlink_right (r : Nat) (key key' : LogKey) :
    key.newerThan (key'.unlink r) = key.newerThan key' := by
  simp [LogKey.newerThan]

/-- As long as an event is listed after the deletion of a route, so is every other one that was. -/
theorem selected_unlink {r : Nat} (h : (key.unlink r).Selected organizationId routeId)
    (hother : key'.Selected organizationId routeId) : (key'.unlink r).Selected organizationId routeId := by
  refine ⟨by simpa using hother.1, fun filter hfilter => ?_⟩
  have hkey := h.2 filter hfilter
  have hkey' := hother.2 filter hfilter
  unfold LogKey.unlink at hkey ⊢
  split at hkey
  · cases hkey
  · next hne =>
    rw [if_neg (by rwa [hkey', ← hkey]), hkey']

/-- An event that is listed without its route was listed with it. -/
theorem selected_of_unlink {r : Nat} (h : (key.unlink r).Selected organizationId routeId) :
    key.Selected organizationId routeId := by
  refine ⟨by simpa using h.1, fun filter hfilter => ?_⟩
  have hkey := h.2 filter hfilter
  unfold LogKey.unlink at hkey
  split at hkey
  · cases hkey
  · exact hkey

/-- An event that is listed before and after a write has no fewer events listed before it than it had. -/
theorem rank_change (hwf : LogWf db) (h : LogChange C db db') (hkey : key ∈ db.logKeys) (hkey' : key' ∈ db'.logKeys)
    (hid : key'.id = key.id) (hselected : key'.Selected organizationId routeId) :
    key.Selected organizationId routeId ∧ rank organizationId routeId key db.logKeys ≤
    rank organizationId routeId key' db'.logKeys := by
  cases h with
  | kept hkeys =>
    obtain rfl := hwf.eq_of_id hkey (hkeys ▸ hkey') hid
    exact ⟨hselected, hkeys ▸ le_refl _⟩
  | recorded new hkeys hnew =>
    have hfresh := hwf.fresh key hkey
    rw [hkeys] at hkey' ⊢
    rcases List.mem_append.1 hkey' with hthere | hthere
    · obtain rfl := hwf.eq_of_id hkey hthere hid
      refine ⟨hselected, ?_⟩
      unfold rank
      rw [List.countP_append]
      omega
    · obtain rfl := List.mem_singleton.1 hthere
      omega
  | unlinked r hkeys =>
    rw [hkeys] at hkey' ⊢
    obtain ⟨old, hold, rfl⟩ := List.mem_map.1 hkey'
    obtain rfl := hwf.eq_of_id hkey hold (by simpa using hid)
    refine ⟨selected_of_unlink hselected, ?_⟩
    unfold rank
    rw [List.countP_map]
    refine List.countP_mono_left fun other _ hother => ?_
    simp only [Bool.and_eq_true, decide_eq_true_eq, Function.comp, newerThan_unlink, newerThan_unlink_right] at hother ⊢
    exact ⟨selected_unlink hselected hother.1, hother.2⟩
  | removed cutoff _ hkeys =>
    rw [hkeys] at hkey' ⊢
    obtain ⟨hthere, hafter⟩ := List.mem_filter.1 hkey'
    obtain rfl := hwf.eq_of_id hkey hthere hid
    refine ⟨hselected, ?_⟩
    unfold rank
    rw [List.countP_filter]
    refine List.countP_mono_left fun other _ hother => ?_
    simp only [Bool.and_eq_true, decide_eq_true_eq] at hother hafter ⊢
    exact ⟨hother, hafter.trans (LogKey.createdAt_le_of_newerThan hother.2)⟩

/-- An old event that is listed was listed before, and no fewer events are listed before it than were. -/
theorem exists_rank_le (hwf : LogWf db) (h : LogChanges C db db') (hkey' : key' ∈ db'.logKeys)
    (hold : key'.id < db.nextId) (hselected : key'.Selected organizationId routeId) :
    ∃ key ∈ db.logKeys, key.id = key'.id ∧ key.createdAt = key'.createdAt ∧ key.Selected organizationId routeId ∧
      rank organizationId routeId key db.logKeys ≤ rank organizationId routeId key' db'.logKeys := by
  induction h generalizing key' with
  | refl => exact ⟨key', hkey', rfl, rfl, hselected, le_refl _⟩
  | tail hchanges hchange ih =>
    obtain ⟨key₁, hkey₁, hid₁, hcreated₁⟩ := exists_before hchange hkey' (hold.trans_le (nextId_le hchanges))
    obtain ⟨hselected₁, hle₁⟩ := rank_change (hwf.changes hchanges) hchange hkey₁ hkey' hid₁.symm hselected
    obtain ⟨key, hkey, hid, hcreated, hselected₀, hle⟩ := ih hkey₁ (hid₁ ▸ hold) hselected₁
    exact ⟨key, hkey, hid.trans hid₁, hcreated.trans hcreated₁, hselected₀, hle.trans hle₁⟩

/-- When no other event was recorded, an event that is listed has no more events listed before it than it had. -/
theorem rank_le_of_old (hwf : LogWf db) (hwf' : LogWf db') (h : LogChanges C db db') (hid : key'.id = key.id)
    (hcreated : key'.createdAt = key.createdAt)
    (hold : ∀ other ∈ db'.logKeys, other.Selected organizationId routeId → other.id < db.nextId) :
    rank organizationId routeId key' db'.logKeys ≤ rank organizationId routeId key db.logKeys := by
  have hnodup := hwf'.unique.sublist (List.filter_sublist.map LogKey.id :
    ((db'.logKeys.filter fun other => decide (other.Selected organizationId routeId) && other.newerThan key').map
      LogKey.id).Sublist _)
  have hsubset : (db'.logKeys.filter fun other => decide (other.Selected organizationId routeId) &&
    other.newerThan key').map LogKey.id ⊆
      (db.logKeys.filter fun other => decide (other.Selected organizationId routeId) && other.newerThan key).map
      LogKey.id := by
    intro id hmem
    obtain ⟨other, hother, rfl⟩ := List.mem_map.1 hmem
    obtain ⟨hother, hconditions⟩ := List.mem_filter.1 hother
    obtain ⟨hselected, hnewer⟩ := Bool.and_eq_true_iff.1 hconditions
    obtain ⟨old, hmem₀, hid₀, hcreated₀, hselected₀, -⟩ :=
      exists_rank_le hwf h hother (hold other hother (of_decide_eq_true hselected)) (of_decide_eq_true hselected)
    refine List.mem_map.2 ⟨old, List.mem_filter.2 ⟨hmem₀, ?_⟩, hid₀⟩
    rw [decide_eq_true hselected₀, Bool.true_and]
    unfold LogKey.newerThan at hnewer ⊢
    rwa [hid₀, hcreated₀, ← hid, ← hcreated]
  have hlength := (hnodup.subperm hsubset).length_le
  rwa [List.length_map, List.length_map, ← List.countP_eq_length_filter, ← List.countP_eq_length_filter] at hlength

/-- The event of this id, when it is listed, has at least so many events before it. -/
def Placed (organizationId : Nat) (routeId : Option Nat) (id offset : Nat) (db : Database) : Prop :=
  ∀ key ∈ db.logKeys, key.id = id → key.Selected organizationId routeId →
    offset ≤ rank organizationId routeId key db.logKeys

/-- The place of an old event does not move forward. -/
theorem Placed.changes {id offset : Nat} (hplaced : Placed organizationId routeId id offset db) (hwf : LogWf db)
    (h : LogChanges C db db') (hold : id < db.nextId) : Placed organizationId routeId id offset db' := by
  rintro key' hkey' rfl hselected'
  obtain ⟨key, hkey, hid, -, hselected, hle⟩ := exists_rank_le hwf h hkey' hold hselected'
  exact (hplaced key hkey hid hselected).trans hle

/-! ## Reading a page -/

theorem key_newerThan (event event' : WebhookDeliveryEvent) :
    event.logKey.newerThan event'.logKey = event.newerThan event' := rfl

/-- Of two events at most one comes first. -/
theorem newerThan_asymm (event event' : WebhookDeliveryEvent) (h : event.newerThan event' = true) :
    event'.newerThan event = false := by
  simp only [WebhookDeliveryEvent.newerThan, Bool.or_eq_true, decide_eq_true_eq, Bool.and_eq_true, beq_iff_eq,
    Bool.or_eq_false_iff, decide_eq_false_iff_not, Bool.and_eq_false_iff, beq_eq_false_iff_ne] at h ⊢
  omega

/-- The order of the listing is transitive. -/
theorem not_newerThan_trans (a b c : WebhookDeliveryEvent) (h : b.newerThan a = false) (h' : c.newerThan b = false) :
    c.newerThan a = false := by
  simp only [WebhookDeliveryEvent.newerThan, Bool.or_eq_false_iff, decide_eq_false_iff_not, Bool.and_eq_false_iff,
    beq_eq_false_iff_ne]
    at h h' ⊢
  omega

/-- Of two events one comes first. -/
theorem newerThan_or {event event' : WebhookDeliveryEvent} (h : event.id ≠ event'.id) :
    event.newerThan event' = true ∨ event'.newerThan event = true := by
  simp only [WebhookDeliveryEvent.newerThan, Bool.or_eq_true, decide_eq_true_eq, Bool.and_eq_true, beq_iff_eq]
  omega

variable {f : DeliveryEventFilters}

/-- Without a status and a search text, the key of an event decides whether it is listed. -/
theorem selects_eq (hstatus : f.status = none) (hq : Python.strip f.q = "") (event : WebhookDeliveryEvent) :
    f.selects organizationId db event = decide (event.logKey.Selected organizationId f.routeId) := by
  cases hroute : f.routeId <;>
    simp [DeliveryEventFilters.selects, LogKey.Selected, WebhookDeliveryEvent.logKey, hstatus, hq, hroute,
      Bool.beq_eq_decide_eq]

/-- The place of an event is the number of the listed events that come first. -/
theorem rank_eq (hstatus : f.status = none) (hq : Python.strip f.q = "") (event : WebhookDeliveryEvent) (db : Database) :
    rank organizationId f.routeId event.logKey db.logKeys = (f.events organizationId db).countP (·.newerThan event) := by
  unfold rank Database.logKeys DeliveryEventFilters.events
  rw [List.countP_map, List.countP_filter]
  refine List.countP_congr fun other _ => ?_
  simp only [Function.comp, key_newerThan, selects_eq hstatus hq, Bool.and_comm]

/-- The listed events are those of the table that the conditions select. -/
theorem mem_events {event : WebhookDeliveryEvent} :
    event ∈ f.events organizationId db ↔ event ∈ db.events ∧ f.selects organizationId db event = true := List.mem_filter

/-- The page that has the place of an event shows it. -/
theorem shown_of_rank {s : Settings} {page pageSize : Nat} {counted : Database} (hwf : LogWf db)
    (hstatus : f.status = none) (hq : Python.strip f.q = "") {event : WebhookDeliveryEvent}
    (hevent : event ∈ f.events organizationId db)
    (hbefore : (page - 1) * pageSize ≤ rank organizationId f.routeId event.logKey db.logKeys) :
    (∃ item ∈ (deliveryEventPage s organizationId page pageSize f counted db).items, item.id = event.id) ∨
      (page - 1) * pageSize + pageSize ≤ rank organizationId f.routeId event.logKey db.logKeys := by
  rw [or_iff_not_imp_right, not_le]
  intro hafter
  have hdistinct : (f.events organizationId db).Pairwise fun a b => a.newerThan b = true ∨ b.newerThan a = true := by
    have hids := hwf.unique
    rw [Database.logKeys, List.map_map] at hids
    refine ((List.pairwise_map.1 hids).sublist List.filter_sublist).imp fun h => newerThan_or h
  have hsorted := Paging.pairwise_insertionSort not_newerThan_trans newerThan_asymm hdistinct
  have hperm := List.perm_insertionSort (fun a b => b.newerThan a = false) (f.events organizationId db)
  rw [rank_eq hstatus hq, ← hperm.countP_eq] at hbefore hafter
  refine ⟨_, List.mem_map_of_mem (Paging.mem_page newerThan_asymm hsorted (hperm.mem_iff.2 hevent) hbefore hafter), rfl⟩

/-- Where the events were counted, no place is behind the last page. -/
theorem rank_lt_total (s : Settings) (page : Nat) {pageSize : Nat} (listed : Database) (hsize : 0 < pageSize)
    (hstatus : f.status = none) (hq : Python.strip f.q = "") {event : WebhookDeliveryEvent}
    (hevent : event ∈ f.events organizationId db) : rank organizationId f.routeId event.logKey db.logKeys <
      (deliveryEventPage s organizationId page pageSize f db listed).totalPages * pageSize := by
  have hlt : (f.events organizationId db).countP (·.newerThan event) < (f.events organizationId db).length := by
    refine lt_of_le_of_ne (List.countP_le_length) fun heq => ?_
    have hself := List.countP_eq_length.1 heq event hevent
    rw [newerThan_asymm event event hself] at hself
    cases hself
  rw [rank_eq hstatus hq]
  refine hlt.trans_le ?_
  have hdiv := Nat.div_add_mod ((f.events organizationId db).length + pageSize - 1) pageSize
  have hmod := Nat.mod_lt ((f.events organizationId db).length + pageSize - 1) hsize
  simp only [deliveryEventPage]
  rw [Nat.mul_comm]
  omega

/-- What happens while a page is read. -/
theorem readsPage_changes {page pageSize : Nat} {x x' : LogState} {r : LogRead}
    (h : ReadsPage P V organizationId pageSize f page x r x') :
    LogChanges (fun _ => True) x.db r.counted ∧ LogChanges (fun _ => True) r.counted r.listed ∧ r.listed = x'.db ∧
      ∃ s, r.page = deliveryEventPage s organizationId page pageSize f r.counted r.listed := by
  obtain ⟨hread, hchecked, hcounted, hlisted⟩ := h
  unfold listWebhookDeliveryEvents at hread
  split at hread
  · cases (Prod.mk.inj hread).2
  · next hcleanup =>
    obtain ⟨rfl, hout⟩ := Prod.mk.inj hread
    have hcleaned : LogChanges (fun _ => True) _ _ := changes_cleanup (fun _ _ => trivial) hcleanup
    refine ⟨(hcleaned.trans (changes_exec (fun _ _ _ _ _ _ => trivial) hchecked)).trans
      (changes_exec (fun _ _ _ _ _ _ => trivial) hcounted), changes_exec (fun _ _ _ _ _ _ => trivial) hlisted, rfl, ?_⟩
    split at hout
    · cases hout
    · exact ⟨_, (Except.ok.inj hout).symm⟩

/-- The key of a listed event is selected. -/
theorem selected_of_selects (hstatus : f.status = none) (hq : Python.strip f.q = "") {event : WebhookDeliveryEvent}
    (h : f.selects organizationId db event = true) : event.logKey.Selected organizationId f.routeId := by
  rw [selects_eq hstatus hq] at h
  exact of_decide_eq_true h

/-- An event that a page counts and does not show is behind this page; it is not behind the last one, unless another
event was recorded since the count. -/
theorem shown_or_behind {page pageSize : Nat} {x x' : LogState} {r : LogRead} {id : Nat}
    (hread : ReadsPage P V organizationId pageSize f page x r x') (hsize : 0 < pageSize) (hstatus : f.status = none)
    (hq : Python.strip f.q = "") (hwf : LogWf x.db) (hthere : r.Has organizationId f id)
    (hplaced : Placed organizationId f.routeId id ((page - 1) * pageSize) r.listed) :
    (∃ item ∈ r.page.items, item.id = id) ∨
      Placed organizationId f.routeId id ((page - 1) * pageSize + pageSize) r.listed ∧
        ((page - 1) * pageSize + pageSize < r.page.totalPages * pageSize ∨ r.Grew organizationId f) := by
  obtain ⟨hbefore, hbetween, -, s, hpage⟩ := readsPage_changes hread
  have hwfCounted := hwf.changes hbefore
  have hwfListed := hwfCounted.changes hbetween
  obtain ⟨⟨counted, hcounted, hcountedId⟩, listed, hlisted, rfl⟩ := hthere
  have hlistedKey := List.mem_map_of_mem (f := (·.logKey)) (mem_events.1 hlisted).1
  have hselected := selected_of_selects hstatus hq (mem_events.1 hlisted).2
  rw [hpage]
  refine (shown_of_rank hwfListed hstatus hq hlisted (hplaced _ hlistedKey rfl hselected)).imp_right
    fun hbehind => ⟨?_, ?_⟩
  · rintro key hkey hkeyId -
    obtain rfl := hwfListed.eq_of_id hlistedKey hkey hkeyId
    exact hbehind
  · rw [or_iff_not_imp_right]
    intro hnone
    have hcountedKey := List.mem_map_of_mem (f := (·.logKey)) (mem_events.1 hcounted).1
    have hold : ∀ other ∈ r.listed.logKeys, other.Selected organizationId f.routeId → other.id < r.counted.nextId := by
      rintro other hother hotherSelected
      obtain ⟨event, hevent, rfl⟩ := List.mem_map.1 hother
      by_contra hnew
      refine hnone ⟨event, mem_events.2 ⟨hevent, by rw [selects_eq hstatus hq]; exact decide_eq_true hotherSelected⟩,
        fun old hmem hid => ?_⟩
      have hfresh : old.id < r.counted.nextId := hwfCounted.fresh old.logKey (List.mem_map_of_mem hmem)
      rw [hid] at hfresh
      exact hnew hfresh
    obtain ⟨key, hkey, hkeyId, hcreated, -⟩ :=
      exists_rank_le hwfCounted hbetween hlistedKey (hold _ hlistedKey hselected) hselected
    obtain rfl := hwfCounted.eq_of_id hcountedKey hkey (hkeyId.trans hcountedId.symm)
    have hle : rank organizationId f.routeId listed.logKey r.listed.logKeys ≤
        rank organizationId f.routeId counted.logKey r.counted.logKeys :=
      rank_le_of_old hwfCounted hwfListed hbetween hkeyId.symm hcreated.symm hold
    exact (hbehind.trans hle).trans_lt (rank_lt_total s page r.listed hsize hstatus hq hcounted)

/-- A walk that begins before the place of an event shows it, unless another one is recorded while the last page is
read. -/
theorem shown_of_walk {pageSize page : Nat} {x : LogState} {reads : List LogRead} {id : Nat}
    (hwalk : LogWalk P V organizationId pageSize f page x reads) (hsize : 0 < pageSize) (hpage : 0 < page)
    (hstatus : f.status = none) (hq : Python.strip f.q = "") (hwf : LogWf x.db)
    (hplaced : ∀ db', LogChanges (fun _ => True) x.db db' →
      Placed organizationId f.routeId id ((page - 1) * pageSize) db')
    (hthere : ∀ r ∈ reads, r.Has organizationId f id) :
    (∃ r ∈ reads, ∃ item ∈ r.page.items, item.id = id) ∨ ∃ r ∈ reads.getLast?, r.Grew organizationId f := by
  have hsplit : ∀ page, 0 < page → (page - 1) * pageSize + pageSize = page * pageSize := fun page hpage => by
    rw [← Nat.succ_mul, Nat.succ_eq_add_one, Nat.sub_add_cancel hpage]
  induction hwalk with
  | @last page x x' r hread hend =>
    obtain ⟨hbefore, hbetween, -⟩ := readsPage_changes hread
    rcases shown_or_behind hread hsize hstatus hq hwf (hthere r List.mem_cons_self)
        (hplaced _ (hbefore.trans hbetween)) with
      hshown | ⟨-, hbehind | hgrew⟩
    · exact .inl ⟨r, List.mem_cons_self, hshown⟩
    · have hpages := Nat.mul_le_mul_right pageSize hend
      rw [hsplit page hpage] at hbehind
      omega
    · exact .inr ⟨r, rfl, hgrew⟩
  | @more page x x' x₁ r steps reads hread hmore hrun hrest ih =>
    obtain ⟨hbefore, hbetween, hlisted, -⟩ := readsPage_changes hread
    have hhas := hthere r List.mem_cons_self
    rcases shown_or_behind hread hsize hstatus hq hwf hhas (hplaced _ (hbefore.trans hbetween)) with hshown | ⟨hbehind, -⟩
    · exact .inl ⟨r, List.mem_cons_self, hshown⟩
    · have hwf' := hwf.changes (hbefore.trans hbetween)
      have hlater : LogChanges (fun _ => True) r.listed x₁.db := hlisted ▸ changes_exec (fun _ _ _ _ _ _ => trivial) hrun
      obtain ⟨-, event, hevent, rfl⟩ := hhas
      have hold := hwf'.fresh event.logKey (List.mem_map_of_mem (mem_events.1 hevent).1)
      rw [hsplit page hpage] at hbehind
      rcases ih (Nat.succ_pos page) (hwf'.changes hlater) (fun db' hchanges =>
        hbehind.changes hwf' (hlater.trans hchanges) hold)
        fun r hr => hthere r (List.mem_cons_of_mem _ hr) with ⟨r', hr', hshown⟩ | ⟨last, hlast, hgrew⟩
      · exact .inl ⟨r', List.mem_cons_of_mem _ hr', hshown⟩
      · refine .inr ⟨last, ?_, hgrew⟩
        rw [List.getLast?_cons, Option.mem_def.1 hlast]
        rfl

/-- An empty table has its ids in order. -/
theorem logWf_of_nil (h : db.events = []) : LogWf db := by
  have hkeys : db.logKeys = [] := by rw [Database.logKeys, h, List.map_nil]
  exact ⟨by simp [hkeys], by simp [hkeys]⟩

/-- What a walk shows is listed in the tables its rows are read from. -/
theorem mem_of_shown {pageSize page : Nat} {x : LogState} {reads : List LogRead}
    (hwalk : LogWalk P V organizationId pageSize f page x reads) {r : LogRead} (hr : r ∈ reads)
    {item : DeliveryEventSummary} (hitem : item ∈ r.page.items) :
    ∃ event ∈ f.events organizationId r.listed, item = deliveryEventSummaryOut event (r.listed.routeOf event) := by
  have hpage : ∃ s page, r.page = deliveryEventPage s organizationId page pageSize f r.counted r.listed := by
    induction hwalk with
    | @last page x x' r' hread hend =>
      obtain rfl := List.mem_singleton.1 hr
      obtain ⟨-, -, -, s, hpage⟩ := readsPage_changes hread
      exact ⟨s, page, hpage⟩
    | @more page x x' x₁ r' steps reads hread hmore hrun hrest ih =>
      rcases List.mem_cons.1 hr with rfl | hr
      · obtain ⟨-, -, -, s, hpage⟩ := readsPage_changes hread
        exact ⟨s, page, hpage⟩
      · exact ih hr
  obtain ⟨s, page, hpage⟩ := hpage
  rw [hpage] at hitem
  obtain ⟨event, hevent, rfl⟩ := List.mem_map.1 hitem
  have hmem := List.mem_of_mem_drop (List.mem_of_mem_take hevent)
  rw [latestEvents, List.mem_insertionSort] at hmem
  exact ⟨event, hmem, rfl⟩

/-- What no write removes keeps its id, its time and its organization. -/
theorem exists_kept (h : LogChanges C db db') (hkey : key ∈ db.logKeys)
    (hcutoff : ∀ cutoff, C cutoff → cutoff ≤ key.createdAt) :
    ∃ key' ∈ db'.logKeys, key'.id = key.id ∧ key'.createdAt = key.createdAt ∧ key'.organizationId = key.organizationId ∧
      (key'.routeId = key.routeId ∨ key'.routeId = none) := by
  induction h with
  | refl => exact ⟨key, hkey, rfl, rfl, rfl, .inl rfl⟩
  | tail _ hchange ih =>
    obtain ⟨key₁, hkey₁, hid, hcreated, horganization, hroute⟩ := ih
    cases hchange with
    | kept hkeys => exact ⟨key₁, hkeys ▸ hkey₁, hid, hcreated, horganization, hroute⟩
    | recorded new hkeys => exact ⟨key₁, hkeys ▸ List.mem_append_left _ hkey₁, hid, hcreated, horganization, hroute⟩
    | unlinked r hkeys =>
      refine ⟨key₁.unlink r, hkeys ▸ List.mem_map_of_mem hkey₁, by simpa, by simpa, by simpa, ?_⟩
      unfold LogKey.unlink
      split
      · exact .inr rfl
      · exact hroute
    | removed cutoff hC hkeys =>
      refine ⟨key₁, hkeys ▸ List.mem_filter.2 ⟨hkey₁, decide_eq_true ?_⟩, hid, hcreated, horganization, hroute⟩
      rw [hcreated]
      exact hcutoff cutoff hC

/-- A time before another one, when there is one. -/
theorem timeBefore_eq_ok {now duration cutoff : Int} (h : timeBefore now duration = .ok cutoff) :
    cutoff = now - duration := by
  unfold timeBefore inRange at h
  split at h
  · next hsome =>
    obtain ⟨n, hn, hsub⟩ := Option.bind_eq_some_iff.1 hsome
    obtain rfl := Except.ok.inj h
    unfold Datetime.timedelta at hn
    obtain rfl := Option.some.inj (Option.ite_none_right_eq_some.1 hn).2
    unfold Datetime.sub Datetime.add at hsub
    obtain rfl := Option.some.inj (Option.ite_none_right_eq_some.1 hsub).2
    exact Int.sub_eq_add_neg.symm
  · cases h

end DeliveryLogAux

open DeliveryLogAux in
/-- Whatever is received, sent, cleaned up and edited while an administrator reads the log page after page, without a
status or a search text, an event that is there each time is shown, unless another event of the listing is recorded
between the count and the rows of the last page; and what is shown is of the organization. -/
theorem delivery_log_walk {P : Platform} {V : Services} {organizationId pageSize : Nat} {f : DeliveryEventFilters}
    {x₀ x : LogState} {before : List LogStep} {reads : List LogRead} (hstart : x₀.db.events = [])
    (hbefore : Transition.exec (logStep P V) x₀ before = some x) (hsize : 0 < pageSize) (hstatus : f.status = none)
    (hq : Python.strip f.q = "") (hwalk : LogWalk P V organizationId pageSize f 1 x reads) :
    (∀ id, (∀ r ∈ reads, r.Has organizationId f id) →
        (∃ r ∈ reads, ∃ item ∈ r.page.items, item.id = id) ∨ ∃ r ∈ reads.getLast?, r.Grew organizationId f) ∧
      ∀ r ∈ reads, ∀ item ∈ r.page.items, ∃ event ∈ r.listed.events, event.organizationId = some organizationId ∧
        item = deliveryEventSummaryOut event (r.listed.routeOf event) := by
  have hchanges : LogChanges (fun _ => True) x₀.db x.db := changes_exec (fun _ _ _ _ _ _ => trivial) hbefore
  have hwf := (logWf_of_nil hstart).changes hchanges
  refine ⟨fun id hthere => shown_of_walk hwalk hsize Nat.one_pos hstatus hq hwf (fun db' _ key _ _ _ => ?_) hthere,
    fun r hr item hitem => ?_⟩
  · rw [Nat.sub_self, Nat.zero_mul]
    exact Nat.zero_le _
  · obtain ⟨event, hevent, rfl⟩ := mem_of_shown hwalk hr hitem
    obtain ⟨hthere, hselects⟩ := mem_events.1 hevent
    exact ⟨event, hthere, (selected_of_selects hstatus hq hselects).1, rfl⟩

/-- A request without a key. -/
def unkeyedRequest (now : Int) : WebhookRequest := { keyedRequest "first-token" now with idempotencyKeyHeader := "" }

/-- Two events are there; a third one is recorded between the count and the rows of the first page of one event, and no
other one until the last page is read. -/
theorem delivery_log_walk_recorded :
    ∃ x reads, Transition.exec (logStep .plain .plain) { db := alertsState.db }
        [.receive alertsState.settings (unkeyedRequest 0), .receive alertsState.settings (unkeyedRequest 1)] = some x ∧
      LogWalk .plain .plain 1 1 {} 1 x reads ∧
      (∃ r ∈ reads, ∃ item ∈ r.page.items, item.id = 2) ∧
      ∀ r ∈ reads, ∀ item ∈ r.page.items, ∃ event ∈ r.listed.events, event.organizationId = some 1 ∧
        item = deliveryEventSummaryOut event (r.listed.routeOf event) :=
  have hbefore : Transition.exec (logStep .plain .plain) { db := alertsState.db }
      [.receive alertsState.settings (unkeyedRequest 0), .receive alertsState.settings (unkeyedRequest 1)] = some _ := rfl
  have hwalk : LogWalk .plain .plain 1 1 {} 1 _ _ :=
    @LogWalk.more _ _ _ _ _ _ _ _ _ _ [] _
      (@ReadsPage.read _ _ _ _ _ _ _ _ _ _ _ {} 10 _ [] [] [.receive alertsState.settings (unkeyedRequest 20)]
        rfl rfl rfl rfl)
      (by decide) rfl
      (@LogWalk.more _ _ _ _ _ _ _ _ _ _ [] _
        (@ReadsPage.read _ _ _ _ _ _ _ _ _ _ _ {} 30 _ [] [] [] rfl rfl rfl rfl) (by decide) rfl
        (.last (@ReadsPage.read _ _ _ _ _ _ _ _ _ _ _ {} 40 _ [] [] [] rfl rfl rfl rfl) (by decide)))
  have hshown := delivery_log_walk rfl hbefore Nat.one_pos rfl rfl hwalk
  ⟨_, _, hbefore, hwalk, (hshown.1 2 (by decide)).resolve_right (by decide), hshown.2⟩

open DeliveryLogAux in
/-- An event leaves the log only by a cleanup, at a time when it is older than the retention of the settings then;
whatever else happens to it, its id, its time and its organization stay. -/
theorem delivery_event_kept {P : Platform} {V : Services} {x x' : LogState} {steps : List LogStep}
    (hrun : Transition.exec (logStep P V) x steps = some x') {event : WebhookDeliveryEvent}
    (hevent : event ∈ x.db.events) :
    (∃ event' ∈ x'.db.events, event'.id = event.id ∧ event'.createdAt = event.createdAt ∧
        event'.organizationId = event.organizationId ∧ (event'.routeId = event.routeId ∨ event'.routeId = none)) ∨
      ∃ s now force, .cleanup s now force ∈ steps ∧ event.createdAt < now - days (max 0 s.logRetentionDays) := by
  rw [or_iff_not_imp_right]
  intro hnone
  have hchanges := changes_exec (C := fun cutoff => cutoff ≤ event.createdAt) (fun s now force cutoff hmem htime => by
    rw [timeBefore_eq_ok htime]
    exact not_lt.1 fun hlt => hnone ⟨s, now, force, hmem, hlt⟩) hrun
  obtain ⟨key', hkey', hid, hcreated, horganization, hroute⟩ :=
    exists_kept hchanges (List.mem_map_of_mem hevent) fun cutoff hcutoff => hcutoff
  obtain ⟨event', hevent', rfl⟩ := List.mem_map.1 hkey'
  exact ⟨event', hevent', hid, hcreated, horganization, hroute⟩

/-- An event is removed after eight days, and the settings keep events for seven. -/
theorem delivery_event_kept_removed :
    ∃ x x' event, Transition.exec (logStep .plain .plain) { db := alertsState.db }
    [.receive alertsState.settings (unkeyedRequest 0)] =
        some x ∧
      Transition.exec (logStep .plain .plain) x [.cleanup {} (days 8) true] = some x' ∧ event ∈ x.db.events ∧
      x'.db.events.length = 0 ∧ ((∃ event' ∈ x'.db.events, event'.id = event.id ∧ event'.createdAt = event.createdAt ∧
          event'.organizationId = event.organizationId ∧ (event'.routeId = event.routeId ∨ event'.routeId = none)) ∨
        ∃ s now force, .cleanup s now force ∈ [LogStep.cleanup {} (days 8) true] ∧
          event.createdAt < now - days (max 0 s.logRetentionDays)) :=
  have hbefore : Transition.exec (logStep .plain .plain) { db := alertsState.db }
    [.receive alertsState.settings (unkeyedRequest 0)] =
    some _ := rfl
  have hrun : Transition.exec (logStep .plain .plain) _ [.cleanup {} (days 8) true] = some _ := rfl
  ⟨_, _, _, hbefore, hrun, List.mem_cons_self, rfl, delivery_event_kept hrun List.mem_cons_self⟩

end TeamsRehook
