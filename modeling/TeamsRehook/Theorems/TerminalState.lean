import TeamsRehook.Lemmas.History
import TeamsRehook.Lemmas.Delivery

namespace TeamsRehook

/-! ## The state an accepted request ends in -/

/-- The delivery event is committed as delivered or failed, and the route's last delivery is the same. -/
def Terminal (d : Reserved) (db : Database) : Prop :=
  ∃ e ∈ db.events, e.id = d.event.id ∧ (e.status = .delivered ∨ e.status = .failed) ∧
    ∃ route ∈ db.routes, route.id = d.route.id ∧ route.lastDeliveryStatus = some e.status

namespace TerminalStateAux

variable {P : Platform} {s : Settings} {r : WebhookRequest} {d : Reserved} {db : Database} {run : ProviderRun}

/-- A delivery that is recorded in a text its event takes ends in a terminal state. -/
theorem terminal_of_recorded (hd : d.Fits P r db) {sent : Sent}
    (hsent : (deliverToRoute P s d.route d.message run db.credentials).2 = .ok sent)
    (htakes : d.takesError P sent.error = true) : Terminal d (complete P s run d db).1 := by
  obtain ⟨db', hflush⟩ : ∃ db', flushDelivery P run.sentAt d sent
      { db with credentials := (deliverToRoute P s d.route d.message run db.credentials).1 } = .ok db' :=
    (flushDelivery_of_mem run.sentAt sent hd.route_mem hd.event_mem).2 htakes
  have hcomplete : (complete P s run d db).1 = db' := by
    simp only [complete, hsent, hflush]
  rw [hcomplete, flushDelivery_ok hflush]
  refine ⟨finishEvent d sent d.event, Table.mem_update_of_pos hd.event_mem (by simp), rfl, deliverToRoute_status hsent,
    finishRoute run.sentAt d sent d.route, Table.mem_update_of_pos hd.route_mem (by simp), rfl, ?_⟩
  exact Table.ormWrite_loaded _ _

/-- A request that commits nothing after the reservation leaves its event pending. -/
theorem not_terminal_of_unchanged (hwf : db.EventsWf) (hd : d.Fits P r db) (hcomplete : (complete P s run d db).1 = db) :
    ¬Terminal d (complete P s run d db).1 := by
  rw [hcomplete]
  rintro ⟨event, hevent, hid, hstatus, -⟩
  rw [hwf.ids.eq_of_mem hevent hd.event_mem hid, hd.pending] at hstatus
  rcases hstatus with h | h <;> cases h

/-- What a request whose delivery is not recorded, or in a text its event does not take, commits: nothing. -/
theorem complete_unchanged (hd : d.Fits P r db)
    (h : ¬∃ sent, (deliverToRoute P s d.route d.message run db.credentials).2 = .ok sent ∧
      d.takesError P sent.error = true) :
    (complete P s run d db).1 = db := by
  unfold complete
  dsimp only
  cases hsent : (deliverToRoute P s d.route d.message run db.credentials).2 with
  | error e => rfl
  | ok sent =>
    have hflush : ¬∃ db', flushDelivery P run.sentAt d sent
        { db with credentials := (deliverToRoute P s d.route d.message run db.credentials).1 } = .ok db' := fun hok =>
      h ⟨sent, hsent, (flushDelivery_of_mem run.sentAt sent hd.route_mem hd.event_mem).1 hok⟩
    dsimp only
    split
    · rfl
    next db' hok => exact absurd ⟨db', hok⟩ hflush

end TerminalStateAux

/-- The bot has a token, and reading the answer to the message times out. -/
def timedOutRun (sentAt : Int) : ProviderRun where
  token := .urlError
  send := .response 200 .timeoutError
  retry := .urlError
  manager := ⟨"bot-token", some (hours 1)⟩
  sentAt := sentAt

end TeamsRehook
