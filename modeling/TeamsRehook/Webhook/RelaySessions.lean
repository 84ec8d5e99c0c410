import TeamsRehook.Webhook.Receive
import TeamsRehook.Lib.Processes
import Mathlib.Data.Fintype.Card

/-!
# Requests with one key in concurrent sessions

Requests for one route that carry the same key and pass the checks, handled by any number of backends on one database,
each in a session of its own. A transaction reads what is committed. `_find_idempotent_delivery` locks the event it
finds by the key column, and the insert of an event holds its entry in the unique index: both are held until the
transaction ends, and the message is sent after that. An insert that meets the uncommitted entry of another transaction
waits, and so does the update of a locked event.

The code of the steps is that of `Events.lean` and `Receive.lean`: `findIdempotentDelivery` and
`idempotentDeliveryOutcome` for the reservation, `newEvent` for the insert, `complete` for the delivery and what is
recorded of it.
-/

namespace TeamsRehook

/-- What the requests have in common, and what each of them brings: `_request_metadata` has their key. -/
structure KeyedRequests (ι : Type) where
  route : WebhookRoute
  key : String
  requestMetadata : ι → List (String × Json)
  message : ι → NormalizedMessage
  metadata_key : ∀ i, Json.lookup "idempotency_key" (requestMetadata i) = some (.str key)

/-- Where a request is. -/
inductive RelayPhase where
  /-- The checks are passed; the reservation has not begun. -/
  | idle
  /-- No delivery with the key was found. -/
  | missed
  /-- The insert of the event is flushed and not committed. -/
  | inserted (d : Reserved)
  /-- The insert was refused by the unique index, and the delivery is looked up again. -/
  | conflicted
  /-- A stale delivery is found, and nothing is committed. Its event is locked if it has the key in its column. -/
  | found (d : Reserved)
  /-- The reservation is committed. -/
  | reserved (d : Reserved)
  /-- `_deliver_to_route` is called. -/
  | delivering (d : Reserved)
  /-- `_deliver_to_route` was called, and the request has ended: its delivery is recorded, or an exception left it. -/
  | finished
  /-- The request has ended without a call of `_deliver_to_route`. -/
  | answered
  /-- The process of the request stopped. -/
  | crashed
  deriving Repr

/-- `_deliver_to_route` was called by a request that did not crash. -/
def RelayPhase.Delivers : RelayPhase → Prop
  | .delivering _ | .finished => True
  | _ => False

/-- A request that has found the delivery stale, or reserved it, and did not crash. -/
def RelayPhase.Owns : RelayPhase → Prop
  | .found _ | .reserved _ | .delivering _ | .finished => True
  | _ => False

instance : (p : RelayPhase) → Decidable p.Delivers
  | .delivering _ | .finished => isTrue trivial
  | .idle | .missed | .inserted _ | .conflicted | .found _ | .reserved _ | .answered | .crashed => isFalse id

instance : (p : RelayPhase) → Decidable p.Owns
  | .found _ | .reserved _ | .delivering _ | .finished => isTrue trivial
  | .idle | .missed | .inserted _ | .conflicted | .answered | .crashed => isFalse id

/-- The committed tables, the request whose transaction holds the event of the key or its entry in the unique index, the
time, and where each request is. -/
structure RelaySessions (ι : Type) where
  db : Database
  lock : Option ι
  now : Int
  phase : ι → RelayPhase

/-- What can happen. -/
inductive RelayAct (ι : Type) where
  | tick (now : Int)
  | find (i : ι)
  | insert (i : ι)
  | commit (i : ι)
  | deliver (i : ι)
  /-- `_deliver_to_route` ends, by what the services do, and the request with it. -/
  | finish (i : ι) (run : ProviderRun)
  | crash (i : ι)

section

variable {ι : Type} [DecidableEq ι]

/-- Move a request to a phase. -/
def RelaySessions.to (x : RelaySessions ι) (i : ι) (p : RelayPhase) : RelaySessions ι :=
  { x with phase := Function.update x.phase i p }

/-- The lookup of a request, and where the request is after it when nothing is found: `missing`. -/
def lookUp (R : KeyedRequests ι) (x : RelaySessions ι) (i : ι) (missing : RelayPhase) : Option (RelaySessions ι) :=
  -- an event with the key in its column is selected for update
  if x.lock ≠ none ∧ x.db.events.any (keyedEvent R.route R.key) then none
  else
    match findIdempotentDelivery x.db.events R.route R.key with
    | none => some (x.to i missing)
    | some p =>
      match idempotentDeliveryOutcome x.now p with
      | .ok (delivery, true) =>
        some { x.to i (.found ⟨R.route, delivery, R.message i, R.requestMetadata i⟩) with
          lock := if keyedEvent R.route R.key p then some i else x.lock }
      | .ok (_, false) | .error _ => some (x.to i .answered)

/-- The event a request inserts. -/
def insertedEvent (R : KeyedRequests ι) (x : RelaySessions ι) (i : ι) : WebhookDeliveryEvent :=
  newEvent x.now x.db.nextId (some R.route) R.route.routeTokenHash
    (pendingFields R.route (R.requestMetadata i) (R.message i) (some R.key))

/-- One step of one request, or of the clock; `none` when it has to wait, or is not at the point. -/
def relayStep (P : Platform) (s : Settings) (R : KeyedRequests ι) (x : RelaySessions ι) :
    RelayAct ι → Option (RelaySessions ι)
  | .tick now => if x.now ≤ now then some { x with now := now } else none
  | .find i =>
    match x.phase i with
    | .idle => lookUp R x i .missed
    -- the `IntegrityError` is raised again
    | .conflicted => lookUp R x i .answered
    | _ => none
  | .insert i =>
    match x.phase i with
    | .missed =>
      if x.db.events.any (insertedEvent R x i).conflictsWith then some (x.to i .conflicted)
      else if x.lock ≠ none then none
      else
        some { x.to i (.inserted ⟨R.route, insertedEvent R x i, R.message i, R.requestMetadata i⟩) with
          db := { x.db with nextId := x.db.nextId + 1 }
          lock := some i }
    | _ => none
  | .commit i =>
    match x.phase i with
    | .inserted d =>
      some { x.to i (.reserved d) with db := { x.db with events := x.db.events ++ [d.event] }, lock := none }
    | .found d => some { x.to i (.reserved d) with lock := if x.lock = some i then none else x.lock }
    | _ => none
  | .deliver i =>
    match x.phase i with
    | .reserved d => some (x.to i (.delivering d))
    | _ => none
  | .finish i run =>
    match x.phase i with
    | .delivering d =>
      let run := { run with sentAt := x.now }
      match (deliverToRoute P s d.route d.message run x.db.credentials).2 with
      | .error _ => some (x.to i .finished)
      | .ok _ => if x.lock ≠ none then none else some { x.to i .finished with db := (complete P s run d x.db).1 }
    | _ => none
  | .crash i =>
    match x.phase i with
    | .finished | .answered | .crashed => none
    | _ => some { x.to i .crashed with lock := if x.lock = some i then none else x.lock }

/-- No request has begun the reservation. -/
def RelaySessions.initial (db : Database) (now : Int) : RelaySessions ι := ⟨db, none, now, fun _ => .idle⟩

/-- A request takes a stale delivery over only when every other one that has found it stale before, or reserved it,
crashed. -/
def OwnersCrashed (R : KeyedRequests ι) (x : RelaySessions ι) : RelayAct ι → Prop
  | .find i =>
    ∀ p ∈ findIdempotentDelivery x.db.events R.route R.key, p.status = .pending → pendingDeliveryIsStale x.now p = true →
      ∀ j, j ≠ i → ¬(x.phase j).Owns
  | _ => True

instance [Fintype ι] (R : KeyedRequests ι) (x : RelaySessions ι) : (a : RelayAct ι) → Decidable (OwnersCrashed R x a)
  | .find _ => inferInstanceAs (Decidable (∀ p ∈ findIdempotentDelivery x.db.events R.route R.key, _))
  | .tick _ | .insert _ | .commit _ | .deliver _ | .finish _ _ | .crash _ => isTrue trivial

end

end TeamsRehook
