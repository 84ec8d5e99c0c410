import TeamsRehook.Lemmas.History

namespace TeamsRehook

/-! ## Rejected requests and their keys -/

/-- The request has the key and is for the route, by the URL the route has now. -/
def Concerns (P : Platform) (routeId : Nat) (key : String) (db : Database) (r : WebhookRequest) : Prop :=
  requestIdempotencyKey r.idempotencyKeyHeader = key ∧
    ∃ route, db.routes.find? (·.routeTokenHash == lookupSecretHash P r.routeToken) = some route ∧ route.id = routeId

/-- A request with the key for the route is rejected before a delivery is reserved. -/
def NotAccepted (P : Platform) (V : Services) (routeId : Nat) (key : String) (x : WebhookState) : WebhookStep → Prop
  | .request r _ =>
    Concerns P routeId key x.db r → ∀ route body message, ¬Accepted P V x.settings r x.db route body message
  | _ => True

/-- A request with the key for the route, under the URL with the hash, is turned away without an event of the route: its
client is blocked or its payload is too large, before the route is looked up, or the normalisation of its payload raises
and nothing is committed. -/
def TurnedAwayEarly (P : Platform) (V : Services) (routeId : Nat) (tokenHash key : String) (x : WebhookState) :
    WebhookStep → Prop
  | .request r _ =>
    Concerns P routeId key x.db r → lookupSecretHash P r.routeToken = tokenHash →
      (checkBlock P x.settings r.checkedAt r.clientHost (some (lookupSecretHash P r.routeToken)) x.db.abuse).2 ≠ none ∨
        (∃ partialBody, r.body = .error partialBody) ∨
        ∃ route, x.db.routes.find? (·.routeTokenHash == lookupSecretHash P r.routeToken) = some route ∧
        Unanswered P V x.settings r route
  | _ => True

namespace RejectedKeysAux

variable {P : Platform} {V : Services} {routeId : Nat} {tokenHash key : String}

/-- An event of the route and the URL without a key column and with the key in its metadata. -/
def Leftover (routeId : Nat) (tokenHash key : String) (e : WebhookDeliveryEvent) : Prop :=
  e.routeId = some routeId ∧ e.routeTokenHash = some tokenHash ∧ e.idempotencyKey = none ∧ e.metadataKeyIs key = true

/-- An event of the route with the key in its key column. -/
def Keyed (routeId : Nat) (key : String) (e : WebhookDeliveryEvent) : Prop :=
  e.routeId = some routeId ∧ e.idempotencyKey = some key

/-- A property that finishing the reserved event does not change is had by an event after the second transaction when it
is had by one before it. -/
theorem exists_mem_complete {s : Settings} {r : WebhookRequest} {run : ProviderRun} {d : Reserved} {db : Database}
    {Q : WebhookDeliveryEvent → Prop} (h : db.EventsWf) (hd : d.Fits P r db)
    (hQ : ∀ sent, Q (finishEvent d sent d.event) ↔ Q d.event) :
    (∃ e ∈ (complete P s run d db).1.events, Q e) ↔ ∃ e ∈ db.events, Q e := by
  obtain hc | ⟨sent, credentials, -, hflush⟩ := complete_cases P s run d db
  · rw [hc]
  rw [flushDelivery_ok hflush]
  constructor
  · rintro ⟨e, he, hq⟩
    obtain ⟨e₀, he₀, rfl⟩ := Table.mem_update.1 he
    split at hq
    · rename_i hid
      have : e₀ = d.event := h.ids.eq_of_mem he₀ hd.event_mem (by simpa using hid)
      exact ⟨e₀, he₀, this ▸ (hQ sent).1 (this ▸ hq)⟩
    · exact ⟨e₀, he₀, hq⟩
  · rintro ⟨e, he, hq⟩
    by_cases hid : e.id = d.event.id
    · have : e = d.event := h.ids.eq_of_mem he hd.event_mem hid
      exact ⟨_, Table.mem_update_of_pos he (by simpa using hid), this ▸ (hQ sent).2 (this ▸ hq)⟩
    · exact ⟨e, Table.mem_update_of_not he (by simpa using hid), hq⟩

/-- A pending event without a key column has no key in its metadata, before and after it is finished. -/
theorem not_leftover_of_reserved (routeId : Nat) (tokenHash : String) {r : WebhookRequest} {d : Reserved} {db : Database}
    (hkey : key ≠ "") (h : db.EventsWf) (hd : d.Fits P r db) (sent : Sent) :
    ¬Leftover routeId tokenHash key (finishEvent d sent d.event) ∧ ¬Leftover routeId tokenHash key d.event := by
  constructor
  · rintro ⟨-, -, hnone, hmeta⟩
    obtain ⟨body, hbody⟩ := hd.metadata
    rw [metadataKeyIs_requestMetadata hbody, beq_iff_eq] at hmeta
    have hcol := hd.key
    rw [show d.event.idempotencyKey = none from hnone, hmeta, if_neg hkey] at hcol
    cases hcol
  · rintro ⟨-, -, hnone, hmeta⟩
    have hrejected := h.unkeyed d.event hd.event_mem hnone key hkey hmeta
    rw [hd.pending] at hrejected
    cases hrejected

/-- A table with one event more has an event with a property when it had one, or the new one has it. -/
theorem exists_mem_append {Q : WebhookDeliveryEvent → Prop} {events : List WebhookDeliveryEvent}
    {e : WebhookDeliveryEvent} : (∃ x ∈ events ++ [e], Q x) ↔ (∃ x ∈ events, Q x) ∨ Q e := by
  simp [or_and_right, exists_or]

/-- What the first transaction of a request whose key is not accepted for the route adds: a leftover when it is rejected
once its route is found, and never an event of the route with the key in its key column. -/
theorem exists_mem_admitWebhook {x : WebhookState} {r : WebhookRequest} {run : Option ProviderRun}
    (hnot : NotAccepted P V routeId key x (.request r run)) :
    ((∃ e ∈ (admitWebhook P V x.settings r x.db).1.events, Leftover routeId tokenHash key e) ↔
        (∃ e ∈ x.db.events, Leftover routeId tokenHash key e) ∨
          ¬TurnedAwayEarly P V routeId tokenHash key x (.request r run)) ∧
      ((∃ e ∈ (admitWebhook P V x.settings r x.db).1.events, Keyed routeId key e) → ∃ e ∈ x.db.events,
          Keyed routeId key e) := by
  have hview := admitWebhook_view P V x.settings r x.db
  generalize admitWebhook P V x.settings r x.db = out at hview
  cases hview with
  | blocked abuse response hb =>
    have hearly : TurnedAwayEarly P V routeId tokenHash key x (.request r run) := fun _ _ => .inl hb
    simp [hearly]
  | turnedAway abuse metadata error response early =>
    have hearly : TurnedAwayEarly P V routeId tokenHash key x (.request r run) := by
      rintro ⟨-, route, hfound, -⟩ -
      rcases early with hp | hnone
      · exact .inr (.inl hp)
      · rw [hfound] at hnone
        cases hnone
    simp only [exists_mem_append, hearly, not_true_eq_false, or_false]
    simp [Leftover, Keyed]
  | rejected abuse route body error response hb hfound hread _ hanswered =>
    have hleft : Leftover routeId tokenHash key
      (rejectedEvent r x.db.nextId (some route) (lookupSecretHash P r.routeToken)
          (requestMetadata P r body (requestIdempotencyKey r.idempotencyKeyHeader)) error) ↔
        ¬TurnedAwayEarly P V routeId tokenHash key x (.request r run) := by
      have hmeta := metadataKeyIs_requestMetadata (rejectedEvent_requestMetadata r x.db.nextId
        (some route) (lookupSecretHash P r.routeToken)
        (requestMetadata P r body (requestIdempotencyKey r.idempotencyKeyHeader))
        error) key
      simp only [Leftover, rejectedEvent_routeId, rejectedEvent_routeTokenHash, rejectedEvent_idempotencyKey, hmeta,
        TurnedAwayEarly, Concerns, hfound, hb, hread, Option.map_some, Option.some.injEq, beq_iff_eq, true_and, ne_eq,
        not_true_eq_false, false_or, reduceCtorEq, exists_false, imp_false, exists_eq_left', hanswered, false_or,
          and_imp, Classical.not_imp, not_not]
      exact ⟨fun ⟨h1, h2, h3⟩ => ⟨h3, h1, h2⟩, fun ⟨h3, h1, h2⟩ => ⟨h1, h2, h3⟩⟩
    simp only [exists_mem_append, hleft]
    simp [Keyed]
  | raised e route _ hfound _ hunanswered =>
    have hearly : TurnedAwayEarly P V routeId tokenHash key x (.request r run) :=
      fun _ _ => .inr (.inr ⟨route, hfound, hunanswered⟩)
    simp [hearly]
  | accepted route body message abuse hacc =>
    have hconcerns : ¬Concerns P routeId key x.db r := fun hc => hnot hc route body message hacc
    have hearly : TurnedAwayEarly P V routeId tokenHash key x (.request r run) := fun hc => absurd hc hconcerns
    have hother : route.id = routeId → requestIdempotencyKey r.idempotencyKeyHeader ≠ key := fun hid hk =>
      hconcerns ⟨hk, route, hacc.found, hid⟩
    have hres := reserve_view P x.settings r route (requestIdempotencyKey r.idempotencyKeyHeader)
      (requestMetadata P r body (requestIdempotencyKey r.idempotencyKeyHeader)) message x.db abuse
    generalize settle x.db _ = out at hres
    cases hres with
    | fresh abuse' =>
      have hleft : ¬Leftover routeId tokenHash key (pendingEvent r x.db.nextId route
          (requestIdempotencyKey r.idempotencyKeyHeader)
          (requestMetadata P r body (requestIdempotencyKey r.idempotencyKeyHeader)) message) := by
        rintro ⟨hid, -, hnone, hmeta⟩
        rw [metadataKeyIs_requestMetadata (pendingEvent_requestMetadata ..), beq_iff_eq] at hmeta
        rw [pendingEvent_routeId, Option.some.injEq] at hid
        exact hother hid hmeta
      have hkeyed : ¬Keyed routeId key (pendingEvent r x.db.nextId route (requestIdempotencyKey r.idempotencyKeyHeader)
          (requestMetadata P r body (requestIdempotencyKey r.idempotencyKeyHeader)) message) := by
        rintro ⟨hid, hcol⟩
        rw [pendingEvent_routeId, Option.some.injEq] at hid
        rw [pendingEvent_idempotencyKey] at hcol
        split at hcol
        · cases hcol
        · exact hother hid (Option.some.inj hcol)
      simp [hleft, hkeyed, hearly]
    | takenOver | answered | refused => simp [hearly]

/-- What a request whose key is not accepted for the route adds: a leftover when it is rejected once its route is found,
and never an event of the route with the key in its key column. -/
theorem exists_mem_handleWebhook {x : WebhookState} {r : WebhookRequest} {run : Option ProviderRun} (hkey : key ≠ "")
    (h : x.db.EventsWf) (hnot : NotAccepted P V routeId key x (.request r run)) :
    ((∃ e ∈ (handleWebhook P V x.settings r run x.db).events, Leftover routeId tokenHash key e) ↔
        (∃ e ∈ x.db.events, Leftover routeId tokenHash key e) ∨
          ¬TurnedAwayEarly P V routeId tokenHash key x (.request r run)) ∧
      ((∃ e ∈ (handleWebhook P V x.settings r run x.db).events, Keyed routeId key e) → ∃ e ∈ x.db.events,
          Keyed routeId key e) := by
  obtain ⟨hwf, hfits⟩ := admitWebhook_wf (P := P) (V := V) (s := x.settings) (r := r) h
  have hcomplete : ((∃ e ∈ (handleWebhook P V x.settings r run x.db).events, Leftover routeId tokenHash key e) ↔
        ∃ e ∈ (admitWebhook P V x.settings r x.db).1.events, Leftover routeId tokenHash key e) ∧
      ((∃ e ∈ (handleWebhook P V x.settings r run x.db).events, Keyed routeId key e) ↔
        ∃ e ∈ (admitWebhook P V x.settings r x.db).1.events, Keyed routeId key e) := by
    unfold handleWebhook
    simp only
    split
    · rename_i d hd
      cases run with
      | none => exact ⟨Iff.rfl, Iff.rfl⟩
      | some run =>
        refine ⟨exists_mem_complete hwf (hfits d hd) fun sent => ?_, exists_mem_complete hwf (hfits d hd)
          fun sent => Iff.rfl⟩
        obtain ⟨h1, h2⟩ := not_leftover_of_reserved routeId tokenHash hkey hwf (hfits d hd) sent
        exact iff_of_false h1 h2
    · exact ⟨Iff.rfl, Iff.rfl⟩
  rw [hcomplete.1, hcomplete.2]
  exact exists_mem_admitWebhook hnot

/-- Over a run in which every request with the key for the route is rejected before a delivery is reserved: there is a
leftover at the end when there was one at the start, or some request was not turned away early; and no event of the
route has the key in its key column when none had it. -/
theorem exists_mem_run (tokenHash : String) (hkey : key ≠ "") {steps : List WebhookStep} {x x' : WebhookState}
    (h : x.db.EventsWf) (hrun : Transition.exec (webhookStep P V) x steps = some x')
    (hnot : Transition.Meets (webhookStep P V) (NotAccepted P V routeId key) x steps) :
    ((∃ e ∈ x'.db.events, Leftover routeId tokenHash key e) ↔
        (∃ e ∈ x.db.events, Leftover routeId tokenHash key e) ∨
          ¬Transition.Meets (webhookStep P V) (TurnedAwayEarly P V routeId tokenHash key) x steps) ∧
      ((∃ e ∈ x'.db.events, Keyed routeId key e) → ∃ e ∈ x.db.events, Keyed routeId key e) := by
  induction steps generalizing x with
  | nil =>
    cases hrun
    simp [Transition.Meets]
  | cons a steps ih =>
    obtain ⟨x₁, h₁, h₂⟩ := Transition.exec_cons_eq_some.1 hrun
    obtain ⟨ihl, ihk⟩ := ih (webhookStep_wf x a x₁ h h₁) h₂ (hnot.2 x₁ h₁)
    have hmeets : Transition.Meets (webhookStep P V) (TurnedAwayEarly P V routeId tokenHash key) x (a :: steps) ↔
        TurnedAwayEarly P V routeId tokenHash key x a ∧
          Transition.Meets (webhookStep P V) (TurnedAwayEarly P V routeId tokenHash key) x₁ steps := by
      simp [Transition.Meets, h₁]
    have hstep : ((∃ e ∈ x₁.db.events, Leftover routeId tokenHash key e) ↔
          (∃ e ∈ x.db.events, Leftover routeId tokenHash key e) ∨ ¬TurnedAwayEarly P V routeId tokenHash key x a) ∧
        ((∃ e ∈ x₁.db.events, Keyed routeId key e) → ∃ e ∈ x.db.events, Keyed routeId key e) := by
      by_cases ha : ∃ r run, a = .request r run
      · obtain ⟨r, run, rfl⟩ := ha
        simp only [webhookStep, Option.some.injEq] at h₁
        subst h₁
        exact exists_mem_handleWebhook hkey h hnot.1
      · have hearly : TurnedAwayEarly P V routeId tokenHash key x a := by
          cases a with
          | request r run => exact absurd ⟨r, run, rfl⟩ ha
          | _ => trivial
        rw [(webhookStep_events h₁ fun r run heq => ha ⟨r, run, heq⟩).1]
        simp [hearly]
    rw [ihl, hstep.1, hmeets, not_and_or, or_assoc]
    exact ⟨Iff.rfl, fun hk => hstep.2 (ihk hk)⟩

/-- The second lookup finds the leftovers. -/
theorem legacyEvent_iff_leftover {route : WebhookRoute} {header : String} {e : WebhookDeliveryEvent} :
    legacyEvent route (requestIdempotencyKey header) e = true ↔
      Leftover route.id route.routeTokenHash (requestIdempotencyKey header) e := by
  rw [legacyEvent_iff (requestIdempotencyKey_chars _), ofRoute_iff, and_assoc]
  rfl

/-- When no event of the route has the key in its key column, the first lookup finds nothing. -/
theorem keyedEvent_eq_false {route : WebhookRoute} {events : List WebhookDeliveryEvent}
    (hkeyed : ¬∃ e ∈ events, Keyed route.id key e) {e : WebhookDeliveryEvent} (he : e ∈ events) :
    keyedEvent route key e = false := by
  by_contra hk
  obtain ⟨hof, hcol⟩ := keyedEvent_iff.1 (by simpa using hk)
  exact hkeyed ⟨e, he, (ofRoute_iff.1 hof).1, hcol⟩

section Accepted

variable {s : Settings} {r : WebhookRequest} {db : Database} {route : WebhookRoute} {body : Bytes}
    {message : NormalizedMessage}

/-- A leftover answers an accepted request: its delivery counts as processed. -/
theorem answered_of_leftover (hwf : db.EventsWf) (hacc : Accepted P V s r db route body message)
    (hkey : requestIdempotencyKey r.idempotencyKeyHeader ≠ "")
    (hkeyed : ¬∃ e ∈ db.events, Keyed route.id (requestIdempotencyKey r.idempotencyKeyHeader) e)
    (hleft : ∃ e ∈ db.events, Leftover route.id route.routeTokenHash (requestIdempotencyKey r.idempotencyKeyHeader) e) :
    ∃ p ∈ db.events, p.status = .rejected ∧ (admitWebhook P V s r db).2 =
      .responded (.out false .rejected route.id p.id "Webhook delivery already processed") := by
  obtain ⟨e, he, hl⟩ := hleft
  have hrejected : ∀ p, findIdempotentDelivery db.events route (requestIdempotencyKey r.idempotencyKeyHeader) = some p →
      p ∈ db.events ∧ p.status = .rejected := by
    intro p hfound
    obtain ⟨hmem, hk | ⟨hlp, -⟩⟩ := findIdempotentDelivery_eq_some hfound
    · rw [keyedEvent_eq_false hkeyed hmem] at hk
      cases hk
    · exact ⟨hmem, hwf.rejected_of_legacy hkey hmem hlp⟩
  have hsome : findIdempotentDelivery db.events route (requestIdempotencyKey r.idempotencyKeyHeader) ≠ none := by
    intro hnone
    have := (findIdempotentDelivery_eq_none.1 hnone e he).2
    rw [legacyEvent_iff_leftover.2 hl] at this
    cases this
  obtain ⟨abuse, hadm⟩ := admitWebhook_of_accepted hacc
  rw [hadm]
  have hview := reserve_view P s r route (requestIdempotencyKey r.idempotencyKeyHeader)
    (requestMetadata P r body (requestIdempotencyKey r.idempotencyKeyHeader)) message db abuse
  generalize settle db _ = out at hview
  cases hview with
  | fresh _ hnot => exact absurd (hnot.resolve_left hkey) hsome
  | takenOver _ p _ hfound hp =>
    rw [(hrejected p hfound).2] at hp
    cases hp
  | answered p _ hfound =>
    obtain ⟨hmem, hp⟩ := hrejected p hfound
    exact ⟨p, hmem, hp, by simp [storedAnswer, hp]⟩
  | refused _ _ hnot => exact absurd hnot hsome

/-- Without leftovers an accepted request is delivered. -/
theorem reserved_of_no_leftover (hacc : Accepted P V s r db route body message)
    (hkey : requestIdempotencyKey r.idempotencyKeyHeader ≠ "")
    (hkeyed : ¬∃ e ∈ db.events, Keyed route.id (requestIdempotencyKey r.idempotencyKeyHeader) e)
    (hleft : ¬∃ e ∈ db.events, Leftover route.id route.routeTokenHash (requestIdempotencyKey r.idempotencyKeyHeader) e) :
    ∃ d, (admitWebhook P V s r db).2 = .reserved d := by
  have hnone : findIdempotentDelivery db.events route (requestIdempotencyKey r.idempotencyKeyHeader) = none := by
    refine findIdempotentDelivery_eq_none.2 fun e he => ⟨keyedEvent_eq_false hkeyed he, ?_⟩
    by_contra hl
    exact hleft ⟨e, he, legacyEvent_iff_leftover.1 (by simpa using hl)⟩
  obtain ⟨abuse, hadm⟩ := admitWebhook_of_accepted hacc
  rw [hadm]
  have hview := reserve_view P s r route (requestIdempotencyKey r.idempotencyKeyHeader)
    (requestMetadata P r body (requestIdempotencyKey r.idempotencyKeyHeader)) message db abuse
  generalize settle db _ = out at hview
  cases hview with
  | fresh => exact ⟨_, rfl⟩
  | takenOver => exact ⟨_, rfl⟩
  | answered p _ hfound =>
    rw [hnone] at hfound
    cases hfound
  | refused e _ _ hmem hc => exact absurd ⟨e, hmem, (pendingEvent_conflictsWith hkey).1 hc⟩ hkeyed

end Accepted

end RejectedKeysAux

open RejectedKeysAux Transition in
/-- Whenever every earlier request with a key for a route was rejected before a delivery was reserved, the next one that
passes the checks is delivered — if and only if, in that case, each of those under the URL the route has now was turned
away without an event of the route. A request that is rejected with one leaves what answers the later ones. -/
theorem rejected_key_iff (P : Platform) (V : Services) (x₀ x : WebhookState) (steps : List WebhookStep)
    (hx₀ : x₀.db.events = []) (hrun : exec (webhookStep P V) x₀ steps = some x) (r : WebhookRequest)
    (route : WebhookRoute) (body : Bytes) (message : NormalizedMessage)
    (hacc : Accepted P V x.settings r x.db route body message)
    (hkey : requestIdempotencyKey r.idempotencyKeyHeader ≠ "") :
    (Meets (webhookStep P V) (NotAccepted P V route.id (requestIdempotencyKey r.idempotencyKeyHeader)) x₀ steps →
        ∃ d, (admitWebhook P V x.settings r x.db).2 = .reserved d) ↔
      (Meets (webhookStep P V) (NotAccepted P V route.id (requestIdempotencyKey r.idempotencyKeyHeader)) x₀ steps →
        Meets (webhookStep P V)
          (TurnedAwayEarly P V route.id route.routeTokenHash (requestIdempotencyKey r.idempotencyKeyHeader))
            x₀ steps) := by
  refine forall_congr' fun hnot => ?_
  have hwf := eventsWf_of_exec hx₀ hrun
  obtain ⟨hleft, hkeyed⟩ := exists_mem_run route.routeTokenHash hkey (Database.eventsWf_of_nil hx₀) hrun hnot
  simp only [hx₀, List.not_mem_nil, false_and, exists_false, false_or, imp_false] at hleft hkeyed
  rw [← not_iff_not, ← hleft]
  constructor
  · intro hres
    by_contra hleft
    exact hres (reserved_of_no_leftover hacc hkey hkeyed hleft)
  · rintro hleft ⟨d, hd⟩
    obtain ⟨p, -, -, hp⟩ := answered_of_leftover hwf hacc hkey hkeyed hleft
    rw [hp] at hd
    cases hd

/-- A request turned away because its payload is too large leaves the key free. -/
theorem rejected_key_iff_tooLarge :
    ∃ x d, Transition.exec (webhookStep .plain .plain) alertsState
        [.request { keyedRequest "first-token" 0 with body := .error [] } (some (mockRun 1))] = some x ∧
      (admitWebhook .plain .plain x.settings (keyedRequest "first-token" 2) x.db).2 = .reserved d := by
  have hnot : Transition.Meets (webhookStep .plain .plain) (NotAccepted .plain .plain 1 "order-0001") alertsState
      [.request { keyedRequest "first-token" 0 with body := .error [] } (some (mockRun 1))] :=
    ⟨fun _ _ _ _ h => (nomatch h.read), fun _ _ => trivial⟩
  obtain ⟨d, hd⟩ := (rejected_key_iff .plain .plain alertsState _
    [.request { keyedRequest "first-token" 0 with body := .error [] } (some (mockRun 1))] rfl rfl
    (keyedRequest "first-token" 2) alertsRoute _ _ ⟨rfl, rfl, rfl, rfl, rfl, rfl, rfl⟩ (by decide)).2
      (fun _ => ⟨fun _ _ => .inr (.inl ⟨_, rfl⟩), fun _ _ => trivial⟩) hnot
  exact ⟨_, d, rfl, hd⟩

/-- A keyed request that comes while the route is disabled. -/
def disabledHistory : List WebhookStep :=
  [.editRoute 0 1 false "bot_framework" "public" "", .request (keyedRequest "first-token" 0) (some (mockRun 1)),
    .editRoute 2 1 true "bot_framework" "public" ""]

open RejectedKeysAux in
/-- A request rejected while its route is disabled answers the next one. -/
theorem rejected_key_disabled :
    ∃ x, Transition.exec (webhookStep .plain .plain) alertsState disabledHistory = some x ∧
      Transition.Meets (webhookStep .plain .plain) (NotAccepted .plain .plain 1 "order-0001") alertsState
        disabledHistory ∧ (∃ route body message, Accepted .plain .plain x.settings (keyedRequest "first-token" 2) x.db
          route body message) ∧
      ∃ p ∈ x.db.events, p.status = .rejected ∧
      (admitWebhook .plain .plain x.settings (keyedRequest "first-token" 2) x.db).2 =
        .responded (.out false .rejected 1 p.id "Webhook delivery already processed") := by
  have hx : ∀ x, Transition.exec (webhookStep .plain .plain) alertsState disabledHistory = some x → x.db.EventsWf ∧
      Accepted .plain .plain x.settings (keyedRequest "first-token" 2) x.db
        { alertsRoute with lastDeliveryStatus := some .rejected, lastDeliveryAt := some 0, updatedAt := 2 } [68,
          105, 115, 107]
        { title := "Webhook message", text := "Disk full", rawType := "text" } := by
    intro x hrun
    refine ⟨eventsWf_of_exec rfl hrun, ?_⟩
    cases hrun
    exact ⟨rfl, rfl, rfl, rfl, rfl, rfl, rfl⟩
  refine ⟨_, rfl, ⟨trivial, fun _ h₁ => ⟨?_, fun _ _ => ⟨trivial, fun _ _ => trivial⟩⟩⟩, ⟨_, _, _, (hx _ rfl).2⟩,
    answered_of_leftover (hx _ rfl).1 (hx _ rfl).2 (by decide) ?_ ?_⟩
  · -- the request comes while the route is disabled
    cases h₁
    intro _ route _ _ h
    have hfound := h.found
    have hactive := h.active
    cases hfound
    cases hactive
  · rintro ⟨e, he, -, hcol⟩
    cases List.mem_singleton.1 he
    cases hcol
  · exact ⟨_, List.mem_cons_self, rfl, rfl, rfl, rfl⟩

end TeamsRehook
