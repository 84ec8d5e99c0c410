import TeamsRehook.Webhook.Receive
import TeamsRehook.Lemmas.Abuse

/-!
# What a webhook request does to the tables

The lookups of an earlier delivery, what recording an event adds, and, for the first transaction of `receive_webhook`,
one view of everything it can do (`AdmitView`), with the ways in which an accepted request is reserved (`ReserveView`).
-/

namespace TeamsRehook

variable {P : Platform} {V : Services} {s : Settings}

/-! ## Lookups -/

/-- Picking the newest of the events ends with an earlier choice or one of the events, and with nothing only when there is
neither. -/
theorem foldl_pickNewer (events : List WebhookDeliveryEvent) (found : Option WebhookDeliveryEvent) :
    (events.foldl pickNewer found = none ↔ found = none ∧ events = []) ∧
      ∀ e, events.foldl pickNewer found = some e → found = some e ∨ e ∈ events := by
  induction events generalizing found with
  | nil => exact ⟨by simp, fun e h => .inl h⟩
  | cons x events ih =>
    obtain ⟨hnone, hsome⟩ := ih (pickNewer found x)
    have hpick : ∃ m, pickNewer found x = some m ∧ (found = some m ∨ m = x) := by
      unfold pickNewer
      cases found with
      | none => exact ⟨x, rfl, .inr rfl⟩
      | some m =>
        simp only
        split
        · exact ⟨x, rfl, .inr rfl⟩
        · exact ⟨m, rfl, .inl rfl⟩
    obtain ⟨m, hm, hor⟩ := hpick
    rw [hm] at hnone hsome
    rw [List.foldl_cons, hm]
    refine ⟨by simp [hnone], fun e h => ?_⟩
    rcases hsome e h with h | h
    · cases h
      rcases hor with h | rfl
      · exact .inl h
      · exact .inr List.mem_cons_self
    · exact .inr (List.mem_cons_of_mem _ h)

/-- Only an empty list has no newest event. -/
theorem newest_eq_none_iff {events : List WebhookDeliveryEvent} : newest events = none ↔ events = [] := by
  simpa [newest] using (foldl_pickNewer events none).1

/-- The newest event is one of the events. -/
theorem newest_mem {events : List WebhookDeliveryEvent} {e : WebhookDeliveryEvent} (h : newest events = some e) :
    e ∈ events := by
  simpa using (foldl_pickNewer events none).2 e h

/-- The delivery a lookup finds has the key in its column, or has no key column and the key in its metadata, and then no
event has the key in its column. -/
theorem findIdempotentDelivery_eq_some {events : List WebhookDeliveryEvent} {route : WebhookRoute} {key : String}
    {e : WebhookDeliveryEvent} (h : findIdempotentDelivery events route key = some e) :
    e ∈ events ∧ (keyedEvent route key e = true ∨
      legacyEvent route key e = true ∧ ∀ e' ∈ events, keyedEvent route key e' = false) := by
  unfold findIdempotentDelivery at h
  cases hn : newest (events.filter (keyedEvent route key)) with
  | some e' =>
    rw [hn] at h
    cases h
    have hm := List.mem_filter.1 (newest_mem hn)
    exact ⟨hm.1, .inl hm.2⟩
  | none =>
    rw [hn] at h
    have hm := List.mem_filter.1 (newest_mem h)
    refine ⟨hm.1, .inr ⟨hm.2, fun e' he' => ?_⟩⟩
    have := List.filter_eq_nil_iff.1 (newest_eq_none_iff.1 hn) e' he'
    simpa using this

/-- No delivery is found when no event of the route has the key, in its column or in its metadata. -/
theorem findIdempotentDelivery_eq_none {events : List WebhookDeliveryEvent} {route : WebhookRoute} {key : String} :
    findIdempotentDelivery events route key = none ↔
      ∀ e ∈ events, keyedEvent route key e = false ∧ legacyEvent route key e = false := by
  have hfilter : ∀ p : WebhookDeliveryEvent → Bool, newest (events.filter p) = none ↔ ∀ e ∈ events, p e = false := by
    intro p
    rw [newest_eq_none_iff, List.filter_eq_nil_iff]
    simp
  unfold findIdempotentDelivery
  cases hn : newest (events.filter (keyedEvent route key)) with
  | some e =>
    refine iff_of_false (by simp) fun hall => ?_
    have := (hfilter (keyedEvent route key)).2 fun e he => (hall e he).1
    rw [hn] at this
    cases this
  | none =>
    rw [hfilter]
    exact ⟨fun h e he => ⟨(hfilter _).1 hn e he, h e he⟩, fun h e he => (h e he).2⟩

/-- A character of a key is not escaped in a JSON text. -/
theorem plain_of_idempotencyKeyChar {c : Char} (h : idempotencyKeyChar c = true) : Json.Plain c := by
  intro ensureAscii
  have hn : 45 ≤ c.toNat ∧ c.toNat ≤ 122 ∧ c ≠ '\\' := by
    simp only [idempotencyKeyChar, Bool.or_eq_true, Bool.and_eq_true, decide_eq_true_eq, beq_iff_eq] at h
    have hle : ∀ a b : Char, a ≤ b → a.toNat ≤ b.toNat := fun a b h => h
    have hbs : ('\\' : Char).toNat = 92 := rfl
    rcases h with (((((⟨h1, h2⟩ | ⟨h1, h2⟩) | ⟨h1, h2⟩) | rfl) | rfl) | rfl) | rfl
    · have h1 := hle _ _ h1
      have h2 := hle _ _ h2
      simp only [show ('A' : Char).toNat = 65 from rfl, show ('Z' : Char).toNat = 90 from rfl] at h1 h2
      exact ⟨by omega, by omega, fun he => by rw [he, hbs] at h2; omega⟩
    · have h1 := hle _ _ h1
      have h2 := hle _ _ h2
      simp only [show ('a' : Char).toNat = 97 from rfl, show ('z' : Char).toNat = 122 from rfl] at h1 h2
      exact ⟨by omega, by omega, fun he => by rw [he, hbs] at h1; omega⟩
    · have h1 := hle _ _ h1
      have h2 := hle _ _ h2
      simp only [show ('0' : Char).toNat = 48 from rfl, show ('9' : Char).toNat = 57 from rfl] at h1 h2
      exact ⟨by omega, by omega, fun he => by rw [he, hbs] at h2; omega⟩
    all_goals decide
  obtain ⟨h45, h122, hbs⟩ := hn
  have hne : ∀ d : Char, d.toNat < 45 → c ≠ d := fun d hd he => by rw [he] at h45; omega
  simp only [Json.escapeChar]
  rw [if_neg (hne '"' (by decide)), if_neg hbs, if_neg (hne '\n' (by decide)), if_neg (hne '\r' (by decide)),
    if_neg (hne '\t' (by decide)), if_neg (by omega), if_neg (by omega), if_neg (by omega), if_neg]
  simp only [Bool.and_eq_true, decide_eq_true_eq]
  omega

/-- A value that is looked up is a member with the key. -/
theorem mem_of_lookup {key : String} {members : List (String × Json)} {v : Json} (h : Json.lookup key members = some v) :
    (key, v) ∈ members := by
  induction members with
  | nil => cases h
  | cons m rest ih =>
    obtain ⟨k, w⟩ := m
    simp only [Json.lookup] at h
    split at h
    · rename_i hk
      cases h
      exact hk ▸ List.mem_cons_self
    · exact List.mem_cons_of_mem _ (ih h)

/-- The second lookup of a key finds every event of the route without a key column whose metadata has the key: the
condition on the text of the metadata leaves none of them out. -/
theorem legacyEvent_iff {route : WebhookRoute} {key : String} {e : WebhookDeliveryEvent}
    (hkey : ∀ c ∈ key.toList, idempotencyKeyChar c = true) :
    legacyEvent route key e = true ↔ e.ofRoute route = true ∧ e.idempotencyKey = none ∧ e.metadataKeyIs key = true := by
  unfold legacyEvent
  simp only [Bool.and_eq_true, Option.isNone_iff_eq_none]
  constructor
  · rintro ⟨⟨⟨h1, h2⟩, -⟩, h3⟩
    exact ⟨h1, h2, h3⟩
  · rintro ⟨h1, h2, h3⟩
    refine ⟨⟨⟨h1, h2⟩, ?_⟩, h3⟩
    have hlookup : Json.lookup "idempotency_key" e.requestMetadata = some (.str key) := by
      unfold WebhookDeliveryEvent.metadataKeyIs at h3
      split at h3
      · rename_i k hk
        rw [hk, eq_of_beq h3]
      · cases h3
    exact Python.sqlContains_of_infix (Json.dumps_contains (mem_of_lookup hlookup)
      (fun c hc => plain_of_idempotencyKeyChar (hkey c hc)) true true)

/-- A key that is taken from a request has only key characters. -/
theorem requestIdempotencyKey_chars (header : String) :
    ∀ c ∈ (requestIdempotencyKey header).toList, idempotencyKeyChar c = true := by
  intro c hc
  unfold requestIdempotencyKey at hc
  simp only at hc
  split at hc
  · rename_i hre
    simp only [idempotencyKeyRe, Bool.and_eq_true, List.all_eq_true] at hre
    rw [Python.clip, String.toList_ofList] at hc
    exact hre.2 c (List.mem_of_mem_take hc)
  · simp at hc

/-! ## Recording -/

/-- An event without a key column conflicts with no other. -/
theorem recordEvent_of_no_key (now : Int) (route : Option WebhookRoute) (tokenHash : String) {f : EventFields}
    (db : Database) (h : f.idempotencyKey = none) :
    recordEvent now route tokenHash f db =
      .ok ({ db with events := db.events ++ [newEvent now db.nextId route tokenHash f], nextId := db.nextId + 1 },
        newEvent now db.nextId route tokenHash f) := by
  unfold recordEvent
  rw [if_neg]
  simp [WebhookDeliveryEvent.conflictsWith, newEvent, h]

/-- The insert of an event succeeds, or the unique index refuses it. -/
theorem recordEvent_cases (now : Int) (route : Option WebhookRoute) (tokenHash : String) (f : EventFields)
    (db : Database) :
    recordEvent now route tokenHash f db =
        .ok ({ db with events := db.events ++ [newEvent now db.nextId route tokenHash f], nextId := db.nextId + 1 },
          newEvent now db.nextId route tokenHash f) ∧
          (∀ e ∈ db.events, (newEvent now db.nextId route tokenHash f).conflictsWith e = false) ∨
      recordEvent now route tokenHash f db = .error .integrityError ∧
        ∃ e ∈ db.events, (newEvent now db.nextId route tokenHash f).conflictsWith e = true := by
  unfold recordEvent
  simp only
  split
  · rename_i h
    exact .inr ⟨rfl, List.any_eq_true.1 h⟩
  · rename_i h
    refine .inl ⟨rfl, fun e he => ?_⟩
    by_contra hc
    exact h (List.any_eq_true.2 ⟨e, he, by simpa using hc⟩)

/-! ## The first transaction -/

/-- Every check of `receive_webhook` that comes before the reservation lets the request pass. -/
structure Accepted (P : Platform) (V : Services) (s : Settings) (r : WebhookRequest) (db : Database)
    (route : WebhookRoute) (body : Bytes) (message : NormalizedMessage) : Prop where
  notBlocked : (checkBlock P s r.checkedAt r.clientHost (some (lookupSecretHash P r.routeToken)) db.abuse).2 = none
  read : r.body = .ok body
  found : db.routes.find? (·.routeTokenHash == lookupSecretHash P r.routeToken) = some route
  active : route.isActive = true
  enabled : routeFeatureDisabledMessage route s = ""
  allowed : routeAllowsClientIp P V route r.clientHost = true
  normalized : V.normalizeWebhookPayload body r.contentType = .ok message

/-- The payload of a request for the route is not answered for: every other check lets it pass, and its normalisation
raises an exception that is no `WebhookPayloadError`. -/
structure Unanswered (P : Platform) (V : Services) (s : Settings) (r : WebhookRequest) (route : WebhookRoute) : Prop where
  active : route.isActive = true
  enabled : routeFeatureDisabledMessage route s = ""
  allowed : routeAllowsClientIp P V route r.clientHost = true
  raised : ∃ body e, r.body = .ok body ∧ V.normalizeWebhookPayload body r.contentType = .error e ∧
    ∀ message, e ≠ .webhookPayload message

/-- The event of a rejection. -/
def rejectedEvent (r : WebhookRequest) (id : Nat) (route : Option WebhookRoute) (tokenHash : String)
    (metadata : List (String × Json)) (error : String) : WebhookDeliveryEvent :=
  newEvent r.readAt id route tokenHash { status := .rejected, requestMetadata := metadata, error := error }

@[simp] theorem rejectedEvent_id (r : WebhookRequest) (id : Nat) (route : Option WebhookRoute) (tokenHash : String)
    (metadata : List (String × Json)) (error : String) : (rejectedEvent r id route tokenHash metadata error).id = id := by
  simp only [rejectedEvent, newEvent]
@[simp] theorem rejectedEvent_routeId (r : WebhookRequest) (id : Nat) (route : Option WebhookRoute) (tokenHash : String)
    (metadata : List (String × Json)) (error : String) :
    (rejectedEvent r id route tokenHash metadata error).routeId = route.map (·.id) :=
    by simp only [rejectedEvent, newEvent]
@[simp] theorem rejectedEvent_routeTokenHash (r : WebhookRequest) (id : Nat) (route : Option WebhookRoute)
    (tokenHash : String) (metadata : List (String × Json)) (error : String) :
    (rejectedEvent r id route tokenHash metadata error).routeTokenHash = some tokenHash := by
  simp only [rejectedEvent, newEvent]
/-- A rejected event has no key in its column. -/
@[simp] theorem rejectedEvent_idempotencyKey (r : WebhookRequest) (id : Nat) (route : Option WebhookRoute)
    (tokenHash : String) (metadata : List (String × Json)) (error : String) :
    (rejectedEvent r id route tokenHash metadata error).idempotencyKey = none := by simp only [rejectedEvent, newEvent]
@[simp] theorem rejectedEvent_status (r : WebhookRequest) (id : Nat) (route : Option WebhookRoute) (tokenHash : String)
    (metadata : List (String × Json)) (error : String) :
    (rejectedEvent r id route tokenHash metadata error).status = .rejected := by simp only [rejectedEvent, newEvent]
@[simp] theorem rejectedEvent_requestMetadata (r : WebhookRequest) (id : Nat) (route : Option WebhookRoute)
    (tokenHash : String) (metadata : List (String × Json)) (error : String) :
    (rejectedEvent r id route tokenHash metadata error).requestMetadata = metadata :=
    by simp only [rejectedEvent, newEvent]

/-- Everything the first transaction can do. -/
inductive AdmitView (P : Platform) (V : Services) (s : Settings) (r : WebhookRequest) (db : Database) :
    Database × Admission → Prop where
  /-- The client is blocked. -/
  | blocked (abuse : AbuseStore) (response : Response)
      (isBlocked : (checkBlock P s r.checkedAt r.clientHost (some (lookupSecretHash P r.routeToken)) db.abuse).2 ≠ none) :
    AdmitView P V s r db ({ db with abuse := abuse }, .responded response)
  /-- The payload is too large, or no route has the URL: the event belongs to no route. -/
  | turnedAway (abuse : AbuseStore) (metadata : List (String × Json)) (error : String) (response : Response)
      (early : (∃ partialBody, r.body = .error partialBody) ∨
        db.routes.find? (·.routeTokenHash == lookupSecretHash P r.routeToken) = none) :
    AdmitView P V s r db
      ({ db with
          events := db.events ++ [rejectedEvent r db.nextId none (lookupSecretHash P r.routeToken) metadata error]
          nextId := db.nextId + 1
          abuse := abuse }, .responded response)
  /-- The route is found and one of the four checks on it fails. -/
  | rejected (abuse : AbuseStore) (route : WebhookRoute) (body : Bytes) (error : String) (response : Response)
      (notBlocked : (checkBlock P s r.checkedAt r.clientHost (some (lookupSecretHash P r.routeToken)) db.abuse).2 = none)
      (found : db.routes.find? (·.routeTokenHash == lookupSecretHash P r.routeToken) = some route)
      (read : r.body = .ok body) (notAccepted : ∀ route' body' message, ¬Accepted P V s r db route' body' message)
        (answered : ¬Unanswered P V s r route) :
    AdmitView P V s r db
      ({ db with
          routes := Table.update (·.id == route.id)
            (fun row => row.flushed r.readAt
              { row with lastDeliveryStatus := some .rejected, lastDeliveryAt := some r.readAt }) db.routes
          events := db.events ++ [rejectedEvent r db.nextId (some route) (lookupSecretHash P r.routeToken)
            (requestMetadata P r body (requestIdempotencyKey r.idempotencyKeyHeader)) error]
          nextId := db.nextId + 1
          abuse := abuse }, .responded response)
  /-- The payload is neither normalised nor rejected. -/
  | raised (e : Exn) (route : WebhookRoute)
      (notBlocked : (checkBlock P s r.checkedAt r.clientHost (some (lookupSecretHash P r.routeToken)) db.abuse).2 = none)
      (found : db.routes.find? (·.routeTokenHash == lookupSecretHash P r.routeToken) = some route)
      (notAccepted : ∀ route' body' message, ¬Accepted P V s r db route' body' message)
        (unanswered : Unanswered P V s r route) :
    AdmitView P V s r db (db, .raised e)
  /-- The request is accepted. -/
  | accepted (route : WebhookRoute) (body : Bytes) (message : NormalizedMessage) (abuse : AbuseStore)
      (accepted : Accepted P V s r db route body message) :
    AdmitView P V s r db
      (settle db (reserve P s r route (requestIdempotencyKey r.idempotencyKeyHeader)
        (requestMetadata P r body (requestIdempotencyKey r.idempotencyKeyHeader)) message { db with abuse := abuse }))

/-- What a rejection writes and answers. -/
theorem reject_eq (P : Platform) (s : Settings) (r : WebhookRequest) (recordedFor : Option String)
    (route : Option WebhookRoute) (tokenHash : String) (metadata : List (String × Json))
    (reason error : String) (code : Nat) (detail : String) (db : Database) :
    reject P s r recordedFor route tokenHash metadata reason error code detail db =
      ({ db with
          events := db.events ++ [rejectedEvent r db.nextId route tokenHash metadata error]
          nextId := db.nextId + 1
          abuse := (recordFailure P s r.readAt r.clientHost recordedFor reason db.abuse).1 },
        .responded (.error code detail)) := by
  unfold reject
  rw [recordEvent_of_no_key _ _ _ _ rfl]
  rfl

/-- The first transaction does one of these. -/
theorem admitWebhook_view (P : Platform) (V : Services) (s : Settings) (r : WebhookRequest) (db : Database) :
    AdmitView P V s r db (admitWebhook P V s r db) := by
  unfold admitWebhook
  simp only
  cases hb : (checkBlock P s r.checkedAt r.clientHost (some (lookupSecretHash P r.routeToken)) db.abuse).2 with
  | some _ => exact .blocked _ _ (by simp [hb])
  | none =>
    simp only
    cases hread : r.body with
    | error partialBody =>
      simp only [reject_eq]
      exact .turnedAway _ _ _ _ (.inl ⟨partialBody, hread⟩)
    | ok body =>
      simp only
      cases hfound : db.routes.find? (·.routeTokenHash == lookupSecretHash P r.routeToken) with
      | none =>
        simp only [reject_eq]
        exact .turnedAway _ _ _ _ (.inr hfound)
      | some route =>
        have hroute : ∀ {route' body' message}, Accepted P V s r db route' body' message → route' = route ∧
            body' = body := by
          intro route' body' message h
          have h1 := h.found
          have h2 := h.read
          rw [hfound] at h1
          rw [hread] at h2
          cases h1
          cases h2
          exact ⟨rfl, rfl⟩
        simp only
        by_cases hactive : route.isActive = true
        · simp only [hactive, Bool.not_true, Bool.false_eq_true, if_false]
          by_cases henabled : routeFeatureDisabledMessage route s = ""
          · simp only [henabled, ne_eq, not_true_eq_false, if_false]
            by_cases hallowed : routeAllowsClientIp P V route r.clientHost = true
            · simp only [hallowed, Bool.not_true, Bool.false_eq_true, if_false]
              cases hnorm : V.normalizeWebhookPayload body r.contentType with
              | error e =>
                have hnot : ∀ route' body' message, ¬Accepted P V s r db route' body' message := by
                  intro route' body' message' h
                  obtain ⟨-, rfl⟩ := hroute h
                  have := h.normalized
                  rw [hnorm] at this
                  cases this
                cases e with
                | webhookPayload message =>
                  simp only [rejectRoute, reject_eq]
                  refine .rejected _ route body _ _ hb hfound hread hnot fun ⟨_, _, _, body', e, hbody', he, hne⟩ => ?_
                  cases hread.symm.trans hbody'
                  cases hnorm.symm.trans he
                  exact hne message rfl
                | _ => exact .raised _ route hb hfound hnot ⟨hactive, henabled, hallowed, body, _, hread, hnorm, nofun⟩
              | ok message =>
                exact .accepted route body message _ ⟨hb, hread, hfound, hactive, henabled, hallowed, hnorm⟩
            · simp only [hallowed, Bool.not_false, if_true, rejectRoute, reject_eq]
              exact .rejected _ route body _ _ hb hfound hread (fun _ _ _ h => hallowed ((hroute h).1 ▸ h.allowed))
                fun h => hallowed h.allowed
          · simp only [henabled, ne_eq, not_false_eq_true, if_true, rejectRoute, reject_eq]
            exact .rejected _ route body _ _ hb hfound hread (fun _ _ _ h => henabled ((hroute h).1 ▸ h.enabled))
              fun h => henabled h.enabled
        · simp only [hactive, Bool.not_false, if_true, rejectRoute, reject_eq]
          exact .rejected _ route body _ _ hb hfound hread (fun _ _ _ h => hactive ((hroute h).1 ▸ h.active)) fun h =>
            hactive h.active

/-- An accepted request goes on to the reservation. -/
theorem admitWebhook_of_accepted {r : WebhookRequest} {db : Database} {route : WebhookRoute} {body : Bytes}
    {message : NormalizedMessage} (h : Accepted P V s r db route body message) :
    ∃ abuse, admitWebhook P V s r db =
      settle db (reserve P s r route (requestIdempotencyKey r.idempotencyKeyHeader)
        (requestMetadata P r body (requestIdempotencyKey r.idempotencyKeyHeader)) message
          { db with abuse := abuse }) := by
  have hview := admitWebhook_view P V s r db
  generalize admitWebhook P V s r db = out at hview
  cases hview with
  | blocked _ _ hb => exact absurd h.notBlocked hb
  | turnedAway _ _ _ _ early =>
    rcases early with ⟨p, hp⟩ | hnone
    · rw [h.read] at hp
      cases hp
    · rw [h.found] at hnone
      cases hnone
  | rejected _ _ _ _ _ _ _ _ hnot => exact absurd h (hnot route body message)
  | raised _ _ _ _ hnot => exact absurd h (hnot route body message)
  | accepted route' body' message' abuse h' =>
    have h1 := h.found.symm.trans h'.found
    have h2 := h.read.symm.trans h'.read
    cases h1
    cases h2
    have h3 := h.normalized.symm.trans h'.normalized
    cases h3
    exact ⟨abuse, rfl⟩

/-! ## The reservation -/

/-- The event a new delivery is reserved with. -/
def pendingEvent (r : WebhookRequest) (id : Nat) (route : WebhookRoute) (key : String) (metadata : List (String × Json))
    (message : NormalizedMessage) : WebhookDeliveryEvent :=
  newEvent r.readAt id (some route) route.routeTokenHash
    (pendingFields route metadata message (if key = "" then none else some key))

@[simp] theorem pendingEvent_id (r : WebhookRequest) (id : Nat) (route : WebhookRoute) (key : String)
    (metadata : List (String × Json)) (message : NormalizedMessage) :
    (pendingEvent r id route key metadata message).id = id := by simp only [pendingEvent, newEvent]
@[simp] theorem pendingEvent_routeId (r : WebhookRequest) (id : Nat) (route : WebhookRoute) (key : String)
    (metadata : List (String × Json)) (message : NormalizedMessage) :
    (pendingEvent r id route key metadata message).routeId = some route.id := by
  simp only [pendingEvent, newEvent, Option.map_some]
@[simp] theorem pendingEvent_routeTokenHash (r : WebhookRequest) (id : Nat) (route : WebhookRoute) (key : String)
    (metadata : List (String × Json)) (message : NormalizedMessage) :
    (pendingEvent r id route key metadata message).routeTokenHash = some route.routeTokenHash := by
  simp only [pendingEvent, newEvent]
/-- The column has the key of the request, if there is one. -/
@[simp] theorem pendingEvent_idempotencyKey (r : WebhookRequest) (id : Nat) (route : WebhookRoute) (key : String)
    (metadata : List (String × Json)) (message : NormalizedMessage) :
    (pendingEvent r id route key metadata message).idempotencyKey = if key = "" then none else some key := by
  simp only [pendingEvent, newEvent, pendingFields]
@[simp] theorem pendingEvent_status (r : WebhookRequest) (id : Nat) (route : WebhookRoute) (key : String)
    (metadata : List (String × Json)) (message : NormalizedMessage) :
    (pendingEvent r id route key metadata message).status = .pending :=
    by simp only [pendingEvent, newEvent, pendingFields]
@[simp] theorem pendingEvent_requestMetadata (r : WebhookRequest) (id : Nat) (route : WebhookRoute) (key : String)
    (metadata : List (String × Json)) (message : NormalizedMessage) :
    (pendingEvent r id route key metadata message).requestMetadata = metadata := by
  simp only [pendingEvent, newEvent, pendingFields]

/-- The unique index does not let the event of a key stand beside an event of the route with the key in its key column. -/
theorem pendingEvent_conflictsWith {r : WebhookRequest} {id : Nat} {route : WebhookRoute} {key : String}
    {metadata : List (String × Json)} {message : NormalizedMessage} {e : WebhookDeliveryEvent} (hkey : key ≠ "") :
    (pendingEvent r id route key metadata message).conflictsWith e = true ↔
      e.routeId = some route.id ∧ e.idempotencyKey = some key := by
  simp only [WebhookDeliveryEvent.conflictsWith, pendingEvent_routeId, pendingEvent_idempotencyKey, if_neg hkey,
    Option.isSome_some, Bool.true_and, Bool.and_eq_true, beq_iff_eq]
  exact and_congr eq_comm eq_comm

/-- The answer to a request whose key an earlier delivery has, when that delivery is not taken over. -/
def storedAnswer (route : WebhookRoute) (p : WebhookDeliveryEvent) : Response :=
  if p.status = .failed then .error 502 p.error
  else if p.status = .pending then .error 409 "Webhook delivery is already being processed"
  else .out (p.status == .delivered) p.status route.id p.id "Webhook delivery already processed"

/-- Everything the reservation of an accepted request can do. -/
inductive ReserveView (r : WebhookRequest) (db : Database) (route : WebhookRoute) (key : String)
    (metadata : List (String × Json)) (message : NormalizedMessage) : Database × Admission → Prop where
  /-- No earlier delivery has the key, or there is no key: a new event is reserved. -/
  | fresh (abuse : AbuseStore) (notFound : key = "" ∨ findIdempotentDelivery db.events route key = none)
      (free : ∀ e ∈ db.events, (pendingEvent r db.nextId route key metadata message).conflictsWith e = false) :
    ReserveView r db route key metadata message
      ({ db with
          events := db.events ++ [pendingEvent r db.nextId route key metadata message]
          nextId := db.nextId + 1
          abuse := abuse },
        .reserved ⟨route, pendingEvent r db.nextId route key metadata message, message, metadata⟩)
  /-- A stale pending delivery is taken over. -/
  | takenOver (abuse : AbuseStore) (p : WebhookDeliveryEvent) (keyed : key ≠ "")
      (found : findIdempotentDelivery db.events route key = some p)
      (pending : p.status = .pending) (stale : pendingDeliveryIsStale r.readAt p = true) :
    ReserveView r db route key metadata message ({ db with abuse := abuse }, .reserved ⟨route, p, message, metadata⟩)
  /-- An earlier delivery answers the request. -/
  | answered (p : WebhookDeliveryEvent) (keyed : key ≠ "") (found : findIdempotentDelivery db.events route key = some p)
      (notStale : p.status = .pending → pendingDeliveryIsStale r.readAt p = false) :
    ReserveView r db route key metadata message (db, .responded (storedAnswer route p))
  /-- The lookup finds nothing and the unique index refuses the new event. -/
  | refused (e : WebhookDeliveryEvent) (keyed : key ≠ "") (notFound : findIdempotentDelivery db.events route key = none)
      (mem : e ∈ db.events) (conflict : (pendingEvent r db.nextId route key metadata message).conflictsWith e = true) :
    ReserveView r db route key metadata message (db, .raised .integrityError)

/-- The reservation does one of these. -/
theorem reserve_view (P : Platform) (s : Settings) (r : WebhookRequest) (route : WebhookRoute) (key : String)
    (metadata : List (String × Json)) (message : NormalizedMessage) (db : Database) (abuse : AbuseStore) :
    ReserveView r db route key metadata message
      (settle db (reserve P s r route key metadata message { db with abuse := abuse })) := by
  by_cases hkey : key = ""
  · subst hkey
    have hrec := recordEvent_of_no_key r.readAt (some route) route.routeTokenHash { db with abuse := abuse }
      (show (pendingFields route metadata message none).idempotencyKey = none from rfl)
    simp only [reserve, if_true, hrec]
    refine .fresh _ (.inl rfl) fun e _ => ?_
    simp [WebhookDeliveryEvent.conflictsWith, pendingEvent, newEvent, pendingFields]
  · have hevent : pendingEvent r db.nextId route key metadata message = newEvent r.readAt db.nextId (some route)
        route.routeTokenHash (pendingFields route metadata message (some key)) := by simp [pendingEvent, hkey]
    simp only [reserve, hkey, if_false, reserveIdempotentDelivery]
    cases hfind : findIdempotentDelivery db.events route key with
    | some p =>
      have hview : (p.status = .pending → pendingDeliveryIsStale r.readAt p = false) → ReserveView r db route key metadata
          message (db, .responded (storedAnswer route p)) := fun h => .answered p hkey hfind h
      simp only [storedAnswer] at hview
      simp only [idempotentDeliveryOutcome]
      by_cases hf : p.status = .failed
      · simp only [hf, if_true] at hview ⊢
        exact hview nofun
      by_cases hp : p.status = .pending
      · cases hstale : pendingDeliveryIsStale r.readAt p with
        | true =>
          simp only [hp, reduceCtorEq, if_false, and_false]
          exact .takenOver _ p hkey hfind hp hstale
        | false =>
          simp only [hp, reduceCtorEq, if_false, and_self, if_true] at hview ⊢
          exact hview fun _ => hstale
      · have hsend : (p.status == .pending) = false := by simpa using hp
        simp only [hf, hp, if_false, false_and, hsend] at hview ⊢
        exact hview nofun
    | none =>
      simp only
      rcases recordEvent_cases r.readAt (some route) route.routeTokenHash
        (pendingFields route metadata message (some key)) { db with abuse := abuse } with ⟨hrec,
          hfree⟩ | ⟨hrec, e, he, hc⟩
      · simp only [hrec]
        rw [← hevent] at hfree
        have hview :=
          ReserveView.fresh (recordSuccess P s r.readAt r.clientHost (some (lookupSecretHash P r.routeToken)) abuse)
          (.inr hfind) hfree
        rwa [hevent] at hview
      · simp only [hrec]
        rw [← hevent] at hc
        exact .refused e hkey hfind he hc

/-- What a request reserves: the route of its URL, with an event of the route that is new or with one that was there. -/
theorem admitWebhook_reserved {P : Platform} {V : Services} {s : Settings} {r : WebhookRequest} {db db' : Database}
    {d : Reserved} (h : admitWebhook P V s r db = (db', .reserved d)) :
    d.route ∈ db.routes ∧ ∃ abuse,
      (d.event.routeId = some d.route.id ∧
          db' = { db with events := db.events ++ [d.event], nextId := db.nextId + 1, abuse := abuse }) ∨
        (d.event ∈ db.events ∧ db' = { db with abuse := abuse }) := by
  have hview := admitWebhook_view P V s r db
  generalize admitWebhook P V s r db = out at hview h
  cases hview with
  | blocked | turnedAway | rejected | raised => nomatch h
  | accepted route body message abuse hacc =>
    have hmem : route ∈ db.routes := List.mem_of_find?_eq_some hacc.found
    have hres := reserve_view P s r route (requestIdempotencyKey r.idempotencyKeyHeader)
      (requestMetadata P r body (requestIdempotencyKey r.idempotencyKeyHeader)) message db abuse
    generalize settle db _ = out at hres h
    cases hres with
    | fresh abuse' =>
      cases h
      exact ⟨hmem, abuse', .inl ⟨pendingEvent_routeId .., rfl⟩⟩
    | takenOver abuse' p hkey hfound =>
      cases h
      exact ⟨hmem, abuse', .inr ⟨(findIdempotentDelivery_eq_some hfound).1, rfl⟩⟩
    | answered | refused => nomatch h

/-- What a request has reserved is stored, and no credential has changed. -/
theorem reserved_mem {P : Platform} {V : Services} {s : Settings} {r : WebhookRequest} {db db' : Database} {d : Reserved}
    (h : admitWebhook P V s r db = (db', .reserved d)) :
    d.route ∈ db'.routes ∧ d.event ∈ db'.events ∧ db'.credentials = db.credentials := by
  obtain ⟨hroute, abuse, ⟨-, rfl⟩ | ⟨hevent, rfl⟩⟩ := admitWebhook_reserved h
  · exact ⟨hroute, List.mem_append_right _ (List.mem_singleton_self _), rfl⟩
  · exact ⟨hroute, hevent, rfl⟩

/-! ## Well-formed events -/

/-- What holds of the events in every state of a history: ids are unique and used; an event that has a key in its
metadata and none in its column was rejected; an event with a key column was not rejected. -/
structure Database.EventsWf (db : Database) : Prop where
  ids : Table.UniqueOn (·.id) db.events
  fresh : ∀ e ∈ db.events, e.id < db.nextId
  unkeyed : ∀ e ∈ db.events, e.idempotencyKey = none → ∀ key, key ≠ "" → e.metadataKeyIs key = true → e.status = .rejected
  keyed : ∀ e ∈ db.events, e.idempotencyKey ≠ none → e.status ≠ .rejected

/-- Well-formedness is about the events and the next id. -/
theorem Database.eventsWf_of_events_eq {db db' : Database} (h : db.EventsWf) (he : db'.events = db.events)
    (hn : db'.nextId = db.nextId) : db'.EventsWf := by
  obtain ⟨h1, h2, h3, h4⟩ := h
  rw [← he] at h1 h2 h3 h4
  rw [← hn] at h2
  exact ⟨h1, h2, h3, h4⟩

/-- A table without events is well-formed. -/
theorem Database.eventsWf_of_nil {db : Database} (h : db.events = []) : db.EventsWf := by
  constructor <;> simp [h, Table.UniqueOn]

/-- A new event with the next id. -/
theorem Database.EventsWf.append {db : Database} (h : db.EventsWf) {e : WebhookDeliveryEvent} {db' : Database}
    (he : db'.events = db.events ++ [e]) (hn : db'.nextId = db.nextId + 1) (hid : e.id = db.nextId)
    (hu : e.idempotencyKey = none → ∀ key, key ≠ "" → e.metadataKeyIs key = true → e.status = .rejected)
    (hk : e.idempotencyKey ≠ none → e.status ≠ .rejected) : db'.EventsWf := by
  have hall : ∀ Q : WebhookDeliveryEvent → Prop, (∀ x ∈ db.events, Q x) → Q e → ∀ x ∈ db'.events, Q x := by
    intro Q hQ hQe x hx
    rw [he, List.mem_append, List.mem_singleton] at hx
    rcases hx with hx | rfl
    · exact hQ x hx
    · exact hQe
  refine ⟨?_, ?_, hall _ h.unkeyed hu, hall _ h.keyed hk⟩
  · rw [he]
    exact Table.uniqueOn_append h.ids fun x hx => by
      have := h.fresh x hx
      omega
  · rw [hn]
    exact hall _ (fun x hx => Nat.lt_succ_of_lt (h.fresh x hx)) (by omega)

/-- The metadata of a request has its key. -/
theorem metadataKeyIs_requestMetadata {e : WebhookDeliveryEvent} {r : WebhookRequest} {body : Bytes} {key : String}
    (h : e.requestMetadata = requestMetadata P r body key) (key' : String) : e.metadataKeyIs key' = (key == key') := by
  unfold WebhookDeliveryEvent.metadataKeyIs
  rw [h]
  rfl

/-- What the first transaction has reserved: the route of the URL, and a pending event of that route and URL, which has
the request's key in its column, if the request has one. -/
structure Reserved.Fits (d : Reserved) (P : Platform) (r : WebhookRequest) (db : Database) : Prop where
  route_mem : d.route ∈ db.routes
  route_hash : d.route.routeTokenHash = lookupSecretHash P r.routeToken
  event_mem : d.event ∈ db.events
  pending : d.event.status = .pending
  ofRoute : d.event.ofRoute d.route = true
  key : d.event.idempotencyKey =
    if requestIdempotencyKey r.idempotencyKeyHeader = "" then none
    else some (requestIdempotencyKey r.idempotencyKeyHeader)
  metadata : ∃ body, d.requestMetadata = TeamsRehook.requestMetadata P r body
    (requestIdempotencyKey r.idempotencyKeyHeader)

/-- An event is found by its column when it is of the route and has the key. -/
theorem keyedEvent_iff {route : WebhookRoute} {key : String} {e : WebhookDeliveryEvent} :
    keyedEvent route key e = true ↔ e.ofRoute route = true ∧ e.idempotencyKey = some key := by
  simp [keyedEvent]

/-- An event is of the route when it has its id and the hash of its token. -/
theorem ofRoute_iff {route : WebhookRoute} {e : WebhookDeliveryEvent} :
    e.ofRoute route = true ↔ e.routeId = some route.id ∧ e.routeTokenHash = some route.routeTokenHash := by
  simp [WebhookDeliveryEvent.ofRoute]

/-- Without a key column, the metadata of a request has no key but the empty one. -/
theorem metadataKeyIs_unkeyed {e : WebhookDeliveryEvent} {r : WebhookRequest} {body : Bytes} {requestKey key : String}
    (h : e.requestMetadata = requestMetadata P r body requestKey) (hempty : requestKey = "") (hkey : key ≠ "") :
    e.metadataKeyIs key ≠ true := by
  rw [metadataKeyIs_requestMetadata h, hempty, ne_eq, beq_iff_eq]
  exact hkey.symm

/-- A delivery that is found without a key column was rejected. -/
theorem Database.EventsWf.rejected_of_legacy {db : Database} (h : db.EventsWf) {route : WebhookRoute} {header : String}
    {e : WebhookDeliveryEvent} (hkey : requestIdempotencyKey header ≠ "") (he : e ∈ db.events)
    (hl : legacyEvent route (requestIdempotencyKey header) e = true) : e.status = .rejected := by
  obtain ⟨-, hnone, hmeta⟩ := (legacyEvent_iff (requestIdempotencyKey_chars header)).1 hl
  exact h.unkeyed e he hnone _ hkey hmeta

/-- The first transaction keeps the events well-formed, and what it reserves fits. -/
theorem admitWebhook_wf {r : WebhookRequest} {db : Database} (h : db.EventsWf) :
    (admitWebhook P V s r db).1.EventsWf ∧ ∀ d, (admitWebhook P V s r db).2 = .reserved d →
    d.Fits P r (admitWebhook P V s r db).1 := by
  have hview := admitWebhook_view P V s r db
  generalize admitWebhook P V s r db = out at hview
  cases hview with
  | blocked => exact ⟨Database.eventsWf_of_events_eq h rfl rfl, by simp⟩
  | turnedAway => exact ⟨h.append rfl rfl (by simp) (by simp) (by simp), by simp⟩
  | rejected => exact ⟨h.append rfl rfl (by simp) (by simp) (by simp), by simp⟩
  | raised => exact ⟨h, by simp⟩
  | accepted route body message abuse hacc =>
    have hroute : route ∈ db.routes ∧ route.routeTokenHash = lookupSecretHash P r.routeToken :=
      ⟨List.mem_of_find?_eq_some hacc.found, by simpa using List.find?_some hacc.found⟩
    have hres := reserve_view P s r route (requestIdempotencyKey r.idempotencyKeyHeader)
      (requestMetadata P r body (requestIdempotencyKey r.idempotencyKeyHeader)) message db abuse
    generalize settle db _ = out at hres
    cases hres with
    | fresh abuse' hnot hfree =>
      refine ⟨h.append rfl rfl (by simp) (fun hk key' hkey' hmeta => ?_) (by simp), ?_⟩
      · exact absurd hmeta (metadataKeyIs_unkeyed (pendingEvent_requestMetadata ..) (by simpa using hk) hkey')
      · rintro d ⟨⟩
        exact ⟨hroute.1, hroute.2, by simp, by simp, by simp [ofRoute_iff], by simp, body, rfl⟩
    | takenOver abuse' p hkey hfound hp hstale =>
      refine ⟨Database.eventsWf_of_events_eq h rfl rfl, ?_⟩
      rintro d ⟨⟩
      obtain ⟨hmem, hk | ⟨hl, -⟩⟩ := findIdempotentDelivery_eq_some hfound
      · obtain ⟨hof, hcol⟩ := keyedEvent_iff.1 hk
        exact ⟨hroute.1, hroute.2, hmem, hp, hof, by simp only [hcol, if_neg hkey], body, rfl⟩
      · rw [h.rejected_of_legacy hkey hmem hl] at hp
        cases hp
    | answered => exact ⟨h, by simp⟩
    | refused => exact ⟨h, by simp⟩

/-! ## The second transaction -/

/-- What is recorded of a delivery is that it was delivered or that it failed. -/
theorem deliverToRoute_status {route : WebhookRoute} {message : NormalizedMessage} {run : ProviderRun}
    {credentials : List GraphDelegatedCredential} {sent : Sent}
    (h : (deliverToRoute P s route message run credentials).2 = .ok sent) :
    sent.status = .delivered ∨ sent.status = .failed := by
  unfold deliverToRoute at h
  simp only at h
  split at h
  · simp only at h
    split at h
    · cases h
      exact .inl rfl
    · cases h
      exact .inr rfl
    · cases h
  · split at h
    · cases h
      exact .inr rfl
    · simp only at h
      split at h
      · cases h
        exact .inl rfl
      · cases h
        exact .inr rfl
      · cases h

/-- The second transaction leaves the tables alone, or flushes a delivery. -/
theorem complete_cases (P : Platform) (s : Settings) (run : ProviderRun) (d : Reserved) (db : Database) :
    (complete P s run d db).1 = db ∨
      ∃ sent credentials, (sent.status = .delivered ∨ sent.status = .failed) ∧
        flushDelivery P run.sentAt d sent { db with credentials := credentials } = .ok (complete P s run d db).1 := by
  unfold complete
  simp only
  split
  · exact .inl rfl
  · rename_i sent hsent
    split
    · exact .inl rfl
    · rename_i db' hflush
      exact .inr ⟨sent, _, deliverToRoute_status hsent, hflush⟩

/-- A delivery whose route and event are stored is flushed exactly when the event takes the text of its error. -/
theorem flushDelivery_of_mem {d : Reserved} {db : Database} {credentials : List GraphDelegatedCredential}
    (now : Int) (sent : Sent) (hroute : d.route ∈ db.routes) (hevent : d.event ∈ db.events) :
    (∃ db', flushDelivery P now d sent { db with credentials := credentials } = .ok db') ↔
    d.takesError P sent.error = true := by
  have hr : db.routes.all (·.id != d.route.id) = false := List.all_eq_false.2 ⟨d.route, hroute, by simp⟩
  have he : db.events.all (·.id != d.event.id) = false := List.all_eq_false.2 ⟨d.event, hevent, by simp⟩
  cases htakes : d.takesError P sent.error <;> simp [flushDelivery, hr, he, htakes]

/-- What a flush that raises nothing writes. -/
theorem flushDelivery_ok {now : Int} {d : Reserved} {sent : Sent} {db db' : Database}
    (h : flushDelivery P now d sent db = .ok db') : db' = { db with
      routes := Table.update (·.id == d.route.id) (finishRoute now d sent) db.routes
      events := Table.update (·.id == d.event.id) (finishEvent d sent) db.events } := by
  unfold flushDelivery at h
  split at h
  · cases h
  · split at h
    · cases h
    · split at h
      · cases h
      · exact (Except.ok.inj h).symm

/-- A request that is answered after its delivery has recorded what became of it. -/
theorem complete_ok {s : Settings} {run : ProviderRun} {d : Reserved} {db : Database} {response : Response}
    (h : (complete P s run d db).2 = .ok response) :
    ∃ sent, (deliverToRoute P s d.route d.message run db.credentials).2 = .ok sent ∧
      flushDelivery P run.sentAt d sent
      { db with credentials := (deliverToRoute P s d.route d.message run db.credentials).1 } =
        .ok (complete P s run d db).1 := by
  unfold complete at h
  dsimp only at h
  cases hsent : (deliverToRoute P s d.route d.message run db.credentials).2 with
  | error e =>
    rw [hsent] at h
    nomatch h
  | ok sent =>
    refine ⟨sent, rfl, ?_⟩
    rw [hsent] at h
    dsimp only at h
    split at h
    · nomatch h
    next db' hflush => simp only [complete, hsent, hflush]

/-- The second transaction keeps the events well-formed. -/
theorem complete_wf {r : WebhookRequest} {run : ProviderRun} {d : Reserved} {db : Database} (h : db.EventsWf)
    (hd : d.Fits P r db) : (complete P s run d db).1.EventsWf := by
  obtain hc | ⟨sent, credentials, hs, hflush⟩ := complete_cases P s run d db
  · rwa [hc]
  rw [flushDelivery_ok hflush]
  have hone : ∀ e ∈ db.events, (e.id == d.event.id) = true → e = d.event := fun e he hid =>
    h.ids.eq_of_mem he hd.event_mem (by simpa using hid)
  refine ⟨Table.uniqueOn_update h.ids fun _ => rfl, Table.forall_mem_update h.fresh fun e he _ => h.fresh e he,
    Table.forall_mem_update h.unkeyed fun e he hid hnone key hkey hmeta => ?_,
    Table.forall_mem_update h.keyed fun e he hid _ hrej => ?_⟩
  · obtain ⟨body, hbody⟩ := hd.metadata
    refine absurd hmeta (@metadataKeyIs_unkeyed P _ r body _ _ hbody ?_ hkey)
    have hcol := hd.key
    rw [hone e he hid] at hnone
    simp only [finishEvent] at hnone
    rw [hnone] at hcol
    simpa using hcol.symm
  · rw [show (finishEvent d sent e).status = sent.status from rfl] at hrej
    rcases hs with hs | hs <;> rw [hs] at hrej <;> cases hrej

end TeamsRehook
