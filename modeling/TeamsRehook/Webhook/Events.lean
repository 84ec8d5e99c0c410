import TeamsRehook.Database

/-!
# Delivery events

The functions of `routers/webhook_routes.py` that look up, reserve and record delivery
events. A function that raises leaves its changes to be rolled back by its caller.
-/

namespace TeamsRehook

/-- The columns of a new delivery event that its writer chooses. -/
structure EventFields where
  status : DeliveryStatus
  requestMetadata : List (String × Json)
  normalizedMessage : List (String × Json) := []
  deliveryResult : List (String × Json) := []
  error : String := ""
  idempotencyKey : Option String := none

/-- `_route_delivery_backend`. -/
def routeDeliveryBackend (route : WebhookRoute) : String :=
  Python.orElse (Python.strip route.deliveryBackend) "bot_framework"

/-! ## Idempotency keys -/

/-- The characters of `IDEMPOTENCY_KEY_RE`. -/
def idempotencyKeyChar (c : Char) : Bool :=
  ('A' ≤ c && c ≤ 'Z') || ('a' ≤ c && c ≤ 'z') || ('0' ≤ c && c ≤ '9') || c == '.' || c == '_' || c == ':' || c == '-'

/-- `IDEMPOTENCY_KEY_RE.match`. -/
def idempotencyKeyRe (candidate : String) : Bool :=
  8 ≤ candidate.length && candidate.length ≤ 120 && candidate.toList.all idempotencyKeyChar

/-- `_request_idempotency_key`, from the header's value. -/
def requestIdempotencyKey (header : String) : String :=
  let candidate := Python.strip header
  if idempotencyKeyRe candidate then Python.clip candidate 120 else ""

/-- `IDEMPOTENCY_PENDING_STALE_AFTER`. -/
def idempotencyPendingStaleAfter : Int := minutes 15

/-- The order of a lookup: later creation first, then the greater id. -/
def WebhookDeliveryEvent.newerThan (e e' : WebhookDeliveryEvent) : Bool :=
  decide (e'.createdAt < e.createdAt) || (e.createdAt == e'.createdAt && decide (e'.id < e.id))

/-- The one of two events that comes first in that order. -/
def pickNewer (found : Option WebhookDeliveryEvent) (e : WebhookDeliveryEvent) : Option WebhookDeliveryEvent :=
  match found with
  | none => some e
  | some m => if e.newerThan m then some e else some m

/-- The first of the events in that order. -/
def newest (events : List WebhookDeliveryEvent) : Option WebhookDeliveryEvent := events.foldl pickNewer none

/-- The event belongs to the route and to its current URL. -/
def WebhookDeliveryEvent.ofRoute (route : WebhookRoute) (e : WebhookDeliveryEvent) : Bool :=
  e.routeId == some route.id && e.routeTokenHash == some route.routeTokenHash

/-- `metadata.get("idempotency_key") == idempotency_key`. -/
def WebhookDeliveryEvent.metadataKeyIs (key : String) (e : WebhookDeliveryEvent) : Bool :=
  match Json.lookup "idempotency_key" e.requestMetadata with
  | some (.str k) => k == key
  | _ => false

/-- What the first select of `_find_idempotent_delivery` matches. -/
def keyedEvent (route : WebhookRoute) (key : String) (e : WebhookDeliveryEvent) : Bool :=
  e.ofRoute route && e.idempotencyKey == some key

/-- What the loop over the second select of `_find_idempotent_delivery` accepts: events without a key column whose
metadata text contains the key and whose metadata has it. -/
def legacyEvent (route : WebhookRoute) (key : String) (e : WebhookDeliveryEvent) : Bool :=
  e.ofRoute route && e.idempotencyKey.isNone && Python.sqlContains (Json.dumps true true (.obj e.requestMetadata)) key &&
    e.metadataKeyIs key

/-- `_find_idempotent_delivery`. -/
def findIdempotentDelivery (events : List WebhookDeliveryEvent) (route : WebhookRoute) (key : String) :
    Option WebhookDeliveryEvent :=
  match newest (events.filter (keyedEvent route key)) with
  | some e => some e
  | none => newest (events.filter (legacyEvent route key))

/-- `_pending_delivery_is_stale`. -/
def pendingDeliveryIsStale (now : Int) (delivery : WebhookDeliveryEvent) : Bool :=
  decide (idempotencyPendingStaleAfter < now - delivery.createdAt)

/-- `_idempotent_delivery_outcome`: the delivery, and whether it is to be sent. -/
def idempotentDeliveryOutcome (now : Int) (delivery : WebhookDeliveryEvent) : Except Exn (WebhookDeliveryEvent × Bool) :=
  if delivery.status = .failed then .error (.http 502 delivery.error)
  else if delivery.status = .pending ∧ pendingDeliveryIsStale now delivery = false then
    .error (.http 409 "Webhook delivery is already being processed")
  else .ok (delivery, delivery.status == .pending)

/-! ## Recording -/

/-- Two events the unique index on `(route_id, idempotency_key)` does not let stand together. -/
def WebhookDeliveryEvent.conflictsWith (e e' : WebhookDeliveryEvent) : Bool :=
  e.routeId.isSome && e.idempotencyKey.isSome && e.routeId == e'.routeId && e.idempotencyKey == e'.idempotencyKey

/-- The event `_record_event` creates. -/
def newEvent (now : Int) (id : Nat) (route : Option WebhookRoute) (routeTokenHash : String) (f : EventFields) :
    WebhookDeliveryEvent where
  id := id
  organizationId := route.map (·.organizationId)
  routeId := route.map (·.id)
  routeTokenHash := some routeTokenHash
  idempotencyKey := f.idempotencyKey
  status := f.status
  requestMetadata := f.requestMetadata
  normalizedMessage := f.normalizedMessage
  deliveryResult := f.deliveryResult
  error := Python.clip f.error 1000
  createdAt := now

/-- `_record_event` without an event: the insert of a new one, which the unique index can refuse. -/
def recordEvent (now : Int) (route : Option WebhookRoute) (routeTokenHash : String) (f : EventFields) (db : Database) :
    Except Exn (Database × WebhookDeliveryEvent) :=
  let e := newEvent now db.nextId route routeTokenHash f
  if db.events.any e.conflictsWith then .error .integrityError
  else .ok ({ db with events := db.events ++ [e], nextId := db.nextId + 1 }, e)

/-- The pending event of an accepted request. -/
def pendingFields (route : WebhookRoute) (metadata : List (String × Json)) (message : NormalizedMessage)
    (key : Option String) : EventFields where
  status := .pending
  requestMetadata := metadata
  normalizedMessage := message.toDict
  deliveryResult := [("backend", .str (routeDeliveryBackend route))]
  idempotencyKey := key

/-- `_reserve_idempotent_delivery`. -/
def reserveIdempotentDelivery (now : Int) (route : WebhookRoute) (key : String) (metadata : List (String × Json))
    (message : NormalizedMessage) (db : Database) : Except Exn (Database × WebhookDeliveryEvent × Bool) :=
  let previous := fun (db : Database) => findIdempotentDelivery db.events route key
  match previous db with
  | some p => (idempotentDeliveryOutcome now p).map fun r => (db, r)
  | none =>
    match recordEvent now (some route) route.routeTokenHash (pendingFields route metadata message (some key)) db with
    | .ok (db', e) => .ok (db', e, true)
    | .error err =>
      -- the savepoint is rolled back, and the delivery is looked up again
      match previous db with
      | none => .error err
      | some p => (idempotentDeliveryOutcome now p).map fun r => (db, r)

end TeamsRehook
