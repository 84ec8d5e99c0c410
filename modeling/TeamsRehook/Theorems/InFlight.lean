import TeamsRehook.Lemmas.ClientErrors
import TeamsRehook.Lemmas.RowOrigins
import TeamsRehook.Lemmas.Webhook

namespace TeamsRehook

/-! ## Deliveries in flight -/

namespace InFlightAux

variable {P : Platform} {db db' db₁ db₂ : Database}

/-- The foreign keys are kept, and so is every event. -/
structure KeepsEvents (db db' : Database) : Prop where
  keys : db.ForeignKeys → db'.ForeignKeys
  events : ∀ event ∈ db.events, ∃ event' ∈ db'.events, event'.id = event.id

theorem KeepsEvents.refl (db : Database) : KeepsEvents db db := ⟨id, fun event hevent => ⟨event, hevent, rfl⟩⟩

theorem KeepsEvents.trans (h : KeepsEvents db db₁) (h' : KeepsEvents db₁ db₂) : KeepsEvents db db₂ := by
  refine ⟨fun hkeys => h'.keys (h.keys hkeys), fun event hevent => ?_⟩
  obtain ⟨event₁, hevent₁, hid₁⟩ := h.events event hevent
  obtain ⟨event₂, hevent₂, hid₂⟩ := h'.events event₁ hevent₁
  exact ⟨event₂, hevent₂, hid₂.trans hid₁⟩

/-- The foreign keys hold when no route is removed, and every row has a route that one had before or that is there. -/
theorem foreignKeys_of_routes (hkeys : db.ForeignKeys)
    (hroutes : ∀ route ∈ db.routes, ∃ route' ∈ db'.routes, route'.id = route.id)
    (hevents : ∀ event ∈ db'.events, event.routeId = none ∨ (∃ event₀ ∈ db.events, event₀.routeId = event.routeId) ∨
      ∃ route ∈ db'.routes, event.routeId = some route.id)
    (hreveals : ∀ reveal ∈ db'.reveals, reveal ∈ db.reveals ∨ ∃ route ∈ db'.routes, route.id = reveal.routeId) :
    db'.ForeignKeys := by
  have hkept : ∀ routeId, (∃ route ∈ db.routes, route.id = routeId) → ∃ route ∈ db'.routes, route.id = routeId := by
    rintro routeId ⟨route, hroute, rfl⟩
    exact hroutes route hroute
  refine ⟨fun event hevent routeId hrouteId => ?_, fun reveal hreveal => ?_⟩
  · rcases hevents event hevent with hnone | ⟨event₀, hevent₀, hsame⟩ | ⟨route, hroute, hof⟩
    · rw [hrouteId] at hnone
      nomatch hnone
    · exact hkept routeId (hkeys.events event₀ hevent₀ routeId (hsame.trans hrouteId))
    · exact ⟨route, hroute, Option.some.inj (hof.symm.trans hrouteId)⟩
  · rcases hreveals reveal hreveal with hold | hnew
    · exact hkept _ (hkeys.reveals reveal hold)
    · exact hnew

/-- Tables with the same events and reveal tokens, and with the routes there were, keep what they have. -/
theorem keepsEvents_of_routes (hroutes : ∀ route ∈ db.routes, ∃ route' ∈ db'.routes, route'.id = route.id)
    (hevents : db'.events = db.events) (hreveals : db'.reveals = db.reveals) : KeepsEvents db db' := by
  refine ⟨fun hkeys => foreignKeys_of_routes hkeys hroutes ?_ ?_, ?_⟩
  · exact fun event hevent => .inr (.inl ⟨event, hevents ▸ hevent, rfl⟩)
  · exact fun reveal hreveal => .inl (hreveals ▸ hreveal)
  · exact fun event hevent => ⟨event, hevents ▸ hevent, rfl⟩

theorem keepsEvents_of_same (h : SameRoutes db db') : KeepsEvents db db' :=
  keepsEvents_of_routes (fun route hroute => ⟨route, h.routes ▸ hroute, rfl⟩) h.events h.reveals

/-! ### Each operation -/

/-- What a deletion leaves has no reference to the route. -/
theorem keepsEvents_deleteRoute (routeId : Nat) (db : Database) : KeepsEvents db (deleteRoute routeId db) := by
  have hkept : ∀ route ∈ db.routes, route.id ≠ routeId → route ∈ (deleteRoute routeId db).routes :=
    fun route hroute hne =>
    Table.mem_delete.2 ⟨hroute, by simpa using hne⟩
  refine ⟨fun hkeys => ⟨?_, ?_⟩, ?_⟩
  · intro event hevent id hid
    obtain ⟨event₀, hevent₀, rfl⟩ := Table.mem_update.1 hevent
    split at hid
    · nomatch hid
    · rename_i hother
      obtain ⟨route, hroute, rfl⟩ := hkeys.events event₀ hevent₀ id hid
      refine ⟨route, hkept route hroute fun heq => hother ?_, rfl⟩
      rw [hid, heq]
      exact beq_self_eq_true _
  · intro reveal hreveal
    obtain ⟨hreveal, hother⟩ := Table.mem_delete.1 hreveal
    obtain ⟨route, hroute, hid⟩ := hkeys.reveals reveal hreveal
    exact ⟨route, hkept route hroute (hid ▸ by simpa using hother), hid⟩
  · intro event hevent
    refine ⟨_, Table.mem_update.2 ⟨event, hevent, rfl⟩, ?_⟩
    split <;> rfl

theorem keepsEvents_deleteRoutes (routes : List WebhookRoute) (db : Database) :
    KeepsEvents db (routes.foldl (fun db route => deleteRoute route.id db) db) := by
  induction routes generalizing db with
  | nil => exact .refl db
  | cons route routes ih => exact (keepsEvents_deleteRoute route.id db).trans (ih _)

theorem keepsEvents_storeRoute (now : Int) (changed : WebhookRoute) (db : Database) :
    KeepsEvents db (storeRoute now changed db) :=
  keepsEvents_of_routes (fun route hroute => (exists_id_storeRoute route.id).2 ⟨route, hroute, rfl⟩) rfl rfl

theorem keepsEvents_insertRoute {now : Int} {route : WebhookRoute} (h : insertRoute now route db = .ok db') :
    KeepsEvents db db' := by
  obtain ⟨hroutes, hevents, hreveals⟩ := routes_insertRoute h
  refine keepsEvents_of_routes (fun route hroute => ⟨route, ?_, rfl⟩) hevents hreveals
  rw [hroutes]
  exact List.mem_append_left _ hroute

/-- What a command does to a route. -/
theorem keepsEvents_effect {run : BotRun} {organizationId : Nat} {captured : Captured}
    {reference : Option BotConversationReference} {argument : String} {command : BotCommand}
    (h : RouteEffect P run organizationId captured reference argument db command db') :
    KeepsEvents db db' := by
  cases h with
  | unchanged => exact .refl db
  | setActive => exact keepsEvents_storeRoute _ _ db
  | setAccess => exact keepsEvents_storeRoute _ _ db
  | delete => exact keepsEvents_deleteRoute _ db
  | update => exact keepsEvents_storeRoute _ _ db
  | create _ _ _ hinsert => exact keepsEvents_insertRoute hinsert

/-- A command issues reveal tokens for routes that are stored. -/
theorem keepsEvents_command {s : Settings} {run : BotRun} {captured : Captured}
    {reference : Option BotConversationReference} {command : BotCommand} {argument : String}
    {permissions : BotPermissions}
    (h : CommandEnd P s run captured reference command argument permissions db db') : KeepsEvents db db' := by
  obtain ⟨db₁, db₂, n, revealed, hstart, heffect, rfl, -, hrevealed⟩ := h.exists_effect
  refine ((keepsEvents_of_same hstart.sameRoutes).trans (keepsEvents_effect heffect)).trans ?_
  obtain ⟨reveals, m, heq, -⟩ := issueWebhookRevealUrls_eq P s run n revealed db₂
  have hroutes : (issueWebhookRevealUrls P s run n revealed db₂).routes = db₂.routes := by rw [heq]
  have hevents : (issueWebhookRevealUrls P s run n revealed db₂).events = db₂.events := by rw [heq]
  refine ⟨fun hkeys => foreignKeys_of_routes hkeys (fun route hroute => ⟨route, hroutes ▸ hroute, rfl⟩) ?_ ?_, ?_⟩
  · exact fun event hevent => .inr (.inl ⟨event, hevents ▸ hevent, rfl⟩)
  · intro reveal hreveal
    rcases mem_reveals_issueWebhookRevealUrls hreveal with hold | ⟨route, hroute, hof, -⟩
    · exact .inl hold
    · obtain ⟨row, hrow, hid, -, -⟩ := hrevealed route hroute
      exact .inr ⟨row, hroutes ▸ hrow, hid.trans hof.symm⟩
  · exact fun event hevent => ⟨event, hevents ▸ hevent, rfl⟩

theorem keepsEvents_activity {s : Settings} {run : BotRun} {body : Bytes} {authorization : Option BotCommandAuthorization}
    (h : receiveBotActivity P s run body db = .ok (db', authorization)) : KeepsEvents db db' := by
  unfold receiveBotActivity at h
  obtain ⟨activity, -, h⟩ := Except.bind_eq_ok_iff.1 h
  cases activity with
  | none =>
    obtain ⟨rfl, -⟩ := Prod.mk.inj (Except.ok.inj h)
    exact .refl db
  | some activity =>
    obtain ⟨db₁, reference, -, ⟨hsame, -, -⟩ | ⟨db₂, command, argument, a, hrun, -, hhandle⟩⟩ := receiveActivity_end h
    · exact keepsEvents_of_same hsame
    · exact (keepsEvents_of_same hrun.routes).trans
        (keepsEvents_command (handleCommand_end (strip_of_commandOf hrun.parsed) hhandle))

theorem keepsEvents_committed {result : Except Exn Database} (h : ∀ db', result = .ok db' → KeepsEvents db db') :
    KeepsEvents db (committed db result) := by
  cases result with
  | ok db' => exact h db' rfl
  | error e => exact .refl db

/-- A cleanup only removes events. -/
theorem foreignKeys_cleanup {s : Settings} {now : Int} {force : Bool} {last last' : Option Int} (hkeys : db.ForeignKeys)
    (h : cleanupLogEvents s now force last db = .ok (db', last')) : db'.ForeignKeys := by
  unfold cleanupLogEvents at h
  obtain ⟨cutoff, -, h⟩ := Except.bind_eq_ok_iff.1 h
  obtain ⟨skipped, -, h⟩ := Except.bind_eq_ok_iff.1 h
  split at h
  · obtain ⟨rfl, -⟩ := Prod.mk.inj (Except.ok.inj h)
    exact hkeys
  · obtain ⟨rfl, -⟩ := Prod.mk.inj (Except.ok.inj h)
    exact ⟨fun event hevent => hkeys.events event (Table.mem_delete.1 hevent).1, hkeys.reveals⟩

/-- Each operation keeps the foreign keys, and each one but a cleanup the events. -/
theorem inFlightStep_keeps {op : InFlightOp} (h : inFlightStep P db op = some db') :
    (db.ForeignKeys → db'.ForeignKeys) ∧ (KeepsEvents db db' ∨ op.isCleanup = true) := by
  have hkeeps : KeepsEvents db db' → (db.ForeignKeys → db'.ForeignKeys) ∧ (KeepsEvents db db' ∨ op.isCleanup = true) :=
    fun hkept => ⟨hkept.keys, .inl hkept⟩
  cases op with
  | deleteRoute organizationId routeId =>
    obtain rfl := Option.some.inj h
    refine hkeeps (keepsEvents_committed fun db' hdb' => ?_)
    obtain ⟨route, -, hdb'⟩ := Except.bind_eq_ok_iff.1 hdb'
    obtain rfl := Except.ok.inj hdb'
    exact keepsEvents_deleteRoute route.id db
  | deleteReference organizationId referenceId deleteLinkedRoutes =>
    obtain rfl := Option.some.inj h
    refine hkeeps (keepsEvents_committed fun db' hdb' => ?_)
    unfold deleteBotConversationReference at hdb'
    split at hdb'
    · nomatch hdb'
    · dsimp only at hdb'
      split at hdb'
      · nomatch hdb'
      · obtain rfl := Except.ok.inj hdb'
        refine (keepsEvents_deleteRoutes _ db).trans (keepsEvents_of_same ⟨rfl, rfl, rfl, le_refl _⟩)
  | activity s run body =>
    obtain rfl := Option.some.inj h
    refine hkeeps (keepsEvents_committed fun db' hdb' => ?_)
    obtain ⟨⟨db₁, authorization⟩, hresult, rfl⟩ := Except.map_eq_ok_iff.1 hdb'
    exact keepsEvents_activity hresult
  | regenerate now routeId routeToken =>
    refine hkeeps ?_
    simp only [inFlightStep, regenerateWebhookRouteUrl, Option.ite_none_left_eq_some, Option.some.injEq] at h
    obtain ⟨-, rfl⟩ := h
    refine keepsEvents_of_routes (fun route hroute => ⟨_, Table.mem_update.2 ⟨route, hroute, rfl⟩, ?_⟩) rfl rfl
    split <;> rfl
  | cleanup s now force last =>
    obtain rfl := Option.some.inj h
    refine ⟨fun hkeys => ?_, .inr rfl⟩
    cases hresult : cleanupLogEvents s now force last db with
    | ok r => exact foreignKeys_cleanup hkeys hresult
    | error e => exact hkeys

/-! ### The run -/

/-- What is committed in flight keeps the foreign keys, and keeps the events unless it contains a cleanup. -/
theorem exec_keeps {ops : List InFlightOp} (h : Transition.exec (inFlightStep P) db ops = some db') :
    (db.ForeignKeys → db'.ForeignKeys) ∧ (KeepsEvents db db' ∨ ∃ op ∈ ops, op.isCleanup = true) := by
  induction ops generalizing db with
  | nil =>
    cases h
    exact ⟨id, .inl (.refl _)⟩
  | cons op ops ih =>
    obtain ⟨db₁, hstep, hrest⟩ := Transition.exec_cons_eq_some.1 h
    obtain ⟨hkeys, hkept⟩ := inFlightStep_keeps hstep
    obtain ⟨hkeys', hkept'⟩ := ih hrest
    refine ⟨fun h => hkeys' (hkeys h), ?_⟩
    rcases hkept with hkept | hcleanup
    · rcases hkept' with hkept' | ⟨op', hop', hcleanup⟩
      · exact .inl (hkept.trans hkept')
      · exact .inr ⟨op', List.mem_cons_of_mem op hop', hcleanup⟩
    · exact .inr ⟨op, List.mem_cons_self, hcleanup⟩

/-! ### The two transactions -/

/-- A reservation keeps the foreign keys, and its event is stored. -/
theorem reserved_keeps {V : Services} {s : Settings} {r : WebhookRequest} {d : Reserved} (hkeys : db.ForeignKeys)
    (h : admitWebhook P V s r db = (db₁, .reserved d)) : db₁.ForeignKeys ∧ d.EventStored db₁ := by
  refine ⟨?_, d.event, (reserved_mem h).2.1, rfl⟩
  obtain ⟨hroute, abuse, ⟨hof, rfl⟩ | ⟨-, rfl⟩⟩ := admitWebhook_reserved h
  · refine foreignKeys_of_routes hkeys (fun route hroute => ⟨route, hroute, rfl⟩) (fun event hevent => ?_)
      fun _ h => .inl h
    rcases List.mem_append.1 hevent with hold | hnew
    · exact .inr (.inl ⟨event, hold, rfl⟩)
    · rw [List.mem_singleton.1 hnew]
      exact .inr (.inr ⟨d.route, hroute, hof⟩)
  · exact ⟨hkeys.events, hkeys.reveals⟩

/-- The final flush raises nothing exactly when the event takes the error and the rows it writes are there. -/
theorem exists_flushDelivery_iff {now : Int} {d : Reserved} {sent : Sent} :
    (∃ db', flushDelivery P now d sent db = .ok db') ↔
      d.takesError P sent.error = true ∧ (routeChanged d.route sent now = true → d.RouteStored db) ∧
      d.EventStored db := by
  have hroutes : db.routes.all (·.id != d.route.id) = true ↔ ¬d.RouteStored db := by
    simp [Reserved.RouteStored]
  have hevents : db.events.all (·.id != d.event.id) = true ↔ ¬d.EventStored db := by
    simp [Reserved.EventStored]
  unfold flushDelivery
  by_cases hroute : routeChanged d.route sent now = true → d.RouteStored db
  · rw [if_neg fun h => hroutes.1 h.2 (hroute h.1), and_iff_right hroute]
    cases d.takesError P sent.error with
    | false => simp
    | true =>
      by_cases hstored : d.EventStored db
      · simp [mt hevents.1 (not_not.2 hstored), hstored]
      · simp [hevents.2 hstored, hstored]
  · obtain ⟨hchanged, hgone⟩ := Classical.not_imp.1 hroute
    rw [if_pos ⟨hchanged, hroutes.2 hgone⟩]
    exact iff_of_false nofun fun h => hroute h.2.1

/-- What the final flush raises is an error of the database. -/
theorem isDatabaseError_flushDelivery {now : Int} {d : Reserved} {sent : Sent} {e : Exn}
    (h : flushDelivery P now d sent db = .error e) : e.isDatabaseError = true := by
  unfold flushDelivery at h
  repeat' split at h
  all_goals cases h
  all_goals rfl

/-- The final flush keeps the foreign keys and the event, which it gives the status of the outcome. -/
theorem flushDelivery_keeps {now : Int} {d : Reserved} {sent : Sent} (h : flushDelivery P now d sent db = .ok db') :
    KeepsEvents db db' ∧ ∀ event ∈ db'.events, event.id = d.event.id → event.status = sent.status := by
  obtain rfl := flushDelivery_ok h
  have hevents : ∀ event ∈ Table.update (·.id == d.event.id) (finishEvent d sent) db.events,
      ∃ event₀ ∈ db.events, event₀.routeId = event.routeId ∧ (event.id = d.event.id → event.status = sent.status) := by
    intro event hevent
    obtain ⟨event₀, hevent₀, rfl⟩ := Table.mem_update.1 hevent
    refine ⟨event₀, hevent₀, ?_, fun hid => ?_⟩
    · split <;> rfl
    · split
      · rfl
      · rename_i hother
        rw [if_neg hother] at hid
        exact absurd (beq_iff_eq.2 hid) hother
  refine ⟨⟨fun hkeys => foreignKeys_of_routes hkeys ?_ ?_ fun _ h => .inl h, ?_⟩, fun event hevent => ?_⟩
  · intro route hroute
    refine ⟨_, Table.mem_update.2 ⟨route, hroute, rfl⟩, ?_⟩
    split <;> rfl
  · intro event hevent
    obtain ⟨event₀, hevent₀, hroute, -⟩ := hevents event hevent
    exact .inr (.inl ⟨event₀, hevent₀, hroute⟩)
  · intro event hevent
    refine ⟨_, Table.mem_update.2 ⟨event, hevent, rfl⟩, ?_⟩
    split <;> rfl
  · obtain ⟨-, -, -, hstatus⟩ := hevents event hevent
    exact hstatus

/-- A delivery without an outcome leaves its event as it is, so it survives when a cleanup has removed it — but for one
whose credential could not be flushed, which ends in an error of the database. -/
theorem survives_unsent_iff {d : Reserved} {ops : List InFlightOp} {e : Exn}
    (hflushes : e.isDatabaseError = true → e = .dataError) (hkeys : db.ForeignKeys)
    (hkept : d.EventStored db ∨ ∃ op ∈ ops, op.isCleanup = true) :
    SurvivesInFlight d ops (.error e) (db, .error e) ↔ e ≠ .dataError ∧ ¬d.EventStored db := by
  constructor
  · refine fun hsurvives => ⟨?_, ?_⟩
    · rintro rfl
      exact absurd (hsurvives.answered _ rfl) (by decide)
    · rintro ⟨event, hevent, hid⟩
      obtain ⟨sent, hsent, -⟩ := hsurvives.recorded event hevent hid
      cases hsent
  · rintro ⟨hrefused, hgone⟩
    refine ⟨?_, fun event hevent hid => absurd ⟨event, hevent, hid⟩ hgone, hkept, hkeys⟩
    rintro _ ⟨⟩
    exact Bool.eq_false_iff.2 fun hdatabase => hrefused (hflushes hdatabase)

/-- A delivery whose final flush raises nothing survives. -/
theorem survives_of_flushDelivery {now : Int} {d : Reserved} {ops : List InFlightOp} {sent : Sent} {response : Response}
    (hstatus : sent.status = .delivered ∨ sent.status = .failed) (hkeys : db.ForeignKeys) (hstored : d.EventStored db)
    (h : flushDelivery P now d sent db = .ok db') : SurvivesInFlight d ops (.ok sent) (db', .ok response) := by
  obtain ⟨hkept, hrecorded⟩ := flushDelivery_keeps h
  refine ⟨nofun, fun event hevent hid => ?_, .inl ?_, hkept.keys hkeys⟩
  · have hsame := hrecorded event hevent hid
    exact ⟨sent, rfl, hsame, hsame ▸ hstatus⟩
  · obtain ⟨event, hevent, hid⟩ := hstored
    obtain ⟨event', hevent', hid'⟩ := hkept.events event hevent
    exact ⟨event', hevent', hid'.trans hid⟩

/-- A delivery whose final flush raises does not survive. -/
theorem not_survives_of_flushDelivery {now : Int} {d : Reserved} {ops : List InFlightOp} {sent : Sent} {e : Exn}
    (h : flushDelivery P now d sent db = .error e) : ¬SurvivesInFlight d ops (.ok sent) (db', .error e) := by
  intro hsurvives
  have hspared := hsurvives.answered e rfl
  rw [isDatabaseError_flushDelivery h] at hspared
  cases hspared

end InFlightAux

end TeamsRehook
