import TeamsRehook.Lemmas.History

namespace TeamsRehook

/-! ## Idempotency keys and the URL of a route -/

/-- A request with a key is delivered, or answered by the delivery of the route that has the key, as it stands:
delivered, failed or in progress. -/
inductive Settled (db : Database) (route : WebhookRoute) (key : String) : Admission → Prop where
  | delivery (d : Reserved) : Settled db route key (.reserved d)
  | delivered (e : WebhookDeliveryEvent) (mem : e ∈ db.events) (ofRoute : e.routeId = some route.id)
      (hasKey : e.idempotencyKey = some key) (status : e.status = .delivered) :
    Settled db route key (.responded (.out true .delivered route.id e.id "Webhook delivery already processed"))
  | failed (e : WebhookDeliveryEvent) (mem : e ∈ db.events) (ofRoute : e.routeId = some route.id)
      (hasKey : e.idempotencyKey = some key) (status : e.status = .failed) :
    Settled db route key (.responded (.error 502 e.error))
  | inProgress (e : WebhookDeliveryEvent) (mem : e ∈ db.events) (ofRoute : e.routeId = some route.id)
      (hasKey : e.idempotencyKey = some key) (status : e.status = .pending) :
    Settled db route key (.responded (.error 409 "Webhook delivery is already being processed"))

namespace UrlRegenerationAux

variable {P : Platform} {V : Services} {s : Settings}

/-- The answer of a stored delivery with a key column settles the request. -/
theorem settled_storedAnswer {db : Database} {route : WebhookRoute} {key : String} {p : WebhookDeliveryEvent}
    (h : db.EventsWf) (hp : p ∈ db.events) (hk : keyedEvent route key p = true) :
    Settled db route key (.responded (storedAnswer route p)) := by
  obtain ⟨hof, hcol⟩ := keyedEvent_iff.1 hk
  have hroute := (ofRoute_iff.1 hof).1
  unfold storedAnswer
  cases hs : p.status with
  | delivered => exact .delivered p hp hroute hcol hs
  | failed => exact .failed p hp hroute hcol hs
  | pending => exact .inProgress p hp hroute hcol hs
  | rejected => exact absurd hs (h.keyed p hp (by simp [hcol]))

/-- The answer of a rejected delivery does not. -/
theorem not_settled_of_rejected {db : Database} {route : WebhookRoute} {key : String} {p : WebhookDeliveryEvent}
    (hp : p.status = .rejected) : ¬Settled db route key (.responded (storedAnswer route p)) := by
  intro h
  unfold storedAnswer at h
  simp only [hp, reduceCtorEq, if_false] at h
  cases h

end UrlRegenerationAux

open UrlRegenerationAux Transition in
/-- In every state of every history, a request with a key that passes the checks is delivered, or answered by the
delivery that has the key, if and only if such a delivery is stored under the URL the route has now, or none is stored
under any URL and no rejected request had the key under the URL the route has now. -/
theorem settled_iff (P : Platform) (V : Services) (x₀ x : WebhookState) (steps : List WebhookStep)
    (hx₀ : x₀.db.events = []) (hrun : exec (webhookStep P V) x₀ steps = some x) (r : WebhookRequest)
    (route : WebhookRoute) (body : Bytes) (message : NormalizedMessage)
    (hacc : Accepted P V x.settings r x.db route body message)
    (hkey : requestIdempotencyKey r.idempotencyKeyHeader ≠ "") :
    Settled x.db route (requestIdempotencyKey r.idempotencyKeyHeader) (admitWebhook P V x.settings r x.db).2 ↔
      (∃ e ∈ x.db.events, keyedEvent route (requestIdempotencyKey r.idempotencyKeyHeader) e = true) ∨
        ∀ e ∈ x.db.events,
          ¬(e.routeId = some route.id ∧ e.idempotencyKey = some (requestIdempotencyKey r.idempotencyKeyHeader)) ∧
            legacyEvent route (requestIdempotencyKey r.idempotencyKeyHeader) e = false := by
  have hwf := eventsWf_of_exec hx₀ hrun
  obtain ⟨abuse, hadm⟩ := admitWebhook_of_accepted hacc
  rw [hadm]
  have hview := reserve_view P x.settings r route (requestIdempotencyKey r.idempotencyKeyHeader)
    (requestMetadata P r body (requestIdempotencyKey r.idempotencyKeyHeader)) message x.db abuse
  generalize settle x.db _ = out at hview
  cases hview with
  | fresh abuse' hnot hfree =>
    refine iff_of_true (.delivery _) (.inr fun e he => ⟨?_, ?_⟩)
    · rintro ⟨hroute, hcol⟩
      have := hfree e he
      rw [(pendingEvent_conflictsWith hkey).2 ⟨hroute, hcol⟩] at this
      cases this
    · exact (findIdempotentDelivery_eq_none.1 (hnot.resolve_left hkey) e he).2
  | takenOver abuse' p _ hfound hp _ =>
    obtain ⟨hmem, hk | ⟨hl, -⟩⟩ := findIdempotentDelivery_eq_some hfound
    · exact iff_of_true (.delivery _) (.inl ⟨p, hmem, hk⟩)
    · rw [hwf.rejected_of_legacy hkey hmem hl] at hp
      cases hp
  | answered p _ hfound _ =>
    obtain ⟨hmem, hk | ⟨hl, hno⟩⟩ := findIdempotentDelivery_eq_some hfound
    · exact iff_of_true (settled_storedAnswer hwf hmem hk) (.inl ⟨p, hmem, hk⟩)
    · refine iff_of_false (not_settled_of_rejected (hwf.rejected_of_legacy hkey hmem hl)) ?_
      rintro (⟨e, he, hk⟩ | hall)
      · rw [hno e he] at hk
        cases hk
      · rw [(hall p hmem).2] at hl
        cases hl
  | refused e _ hnot hmem hc =>
    refine iff_of_false (by rintro ⟨⟩) ?_
    rintro (⟨e', he', hk⟩ | hall)
    · rw [(findIdempotentDelivery_eq_none.1 hnot e' he').1] at hk
      cases hk
    · exact (hall e hmem).1 ((pendingEvent_conflictsWith hkey).1 hc)

/-- A retry on the same URL is answered by the delivery. -/
theorem settled_iff_retry :
    ∃ x, Transition.exec (webhookStep .plain .plain) alertsState
    [.request (keyedRequest "first-token" 0) (some (mockRun 1))] = some x ∧
      ∃ route, Settled x.db route "order-0001"
          (admitWebhook .plain .plain x.settings (keyedRequest "first-token" 2) x.db).2 :=
  ⟨_, rfl, _, (settled_iff .plain .plain alertsState _ [.request (keyedRequest "first-token" 0) (some (mockRun 1))] rfl
    rfl
    (keyedRequest "first-token" 2) _ _ _ ⟨rfl, rfl, rfl, rfl, rfl, rfl, rfl⟩ (by decide)).2
      (.inl ⟨_, List.mem_cons_self, rfl⟩)⟩

/-- A retry on a new URL of the route ends in an `IntegrityError`. -/
theorem settled_regenerated :
    ∃ x, Transition.exec (webhookStep .plain .plain) alertsState
        [.request (keyedRequest "first-token" 0) (some (mockRun 1)), .regenerate 2 1 "second-token"] = some x ∧
      (∃ route body message, Accepted .plain .plain x.settings (keyedRequest "second-token" 2) x.db route body message) ∧
      (admitWebhook .plain .plain x.settings (keyedRequest "second-token" 2) x.db).2 = .raised .integrityError :=
  ⟨_, rfl, ⟨_, _, _, rfl, rfl, rfl, rfl, rfl, rfl, rfl⟩, rfl⟩

end TeamsRehook
