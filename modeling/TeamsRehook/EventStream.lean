import TeamsRehook.Lib.Json
import TeamsRehook.Lib.Processes
import TeamsRehook.Lib.Python

/-!
# The event stream

`services/event_stream.py` and the endpoint of `routers/events.py`. A call of `publish` takes a copy of the list of
subscribers under the lock of the bus and then puts its event into their queues, one after the other; a request to
`stream_events` subscribes, yields what its queue holds until its client has gone, and unsubscribes. Any number of both
run at once (`Processes.World`): what they share is the list of subscribers and the queues.
-/

namespace TeamsRehook

/-- `SYSTEM_TOPIC`. -/
def systemTopic : String := "system"

/-- An event. -/
structure EventEnvelope where
  id : String
  topic : String
  type : String
  createdAt : String
  payload : Json
  deriving Repr

/-- `EventEnvelope.to_dict`. -/
def EventEnvelope.toDict (envelope : EventEnvelope) : Json :=
  .obj [("id", .str envelope.id), ("topic", .str envelope.topic), ("type", .str envelope.type),
    ("created_at", .str envelope.createdAt), ("payload", envelope.payload)]

/-- The text of an event in the stream. -/
def sseFormat (envelope : EventEnvelope) : String :=
  let data := Json.dumps true true envelope.toDict
  "id: " ++ envelope.id ++ "\nevent: " ++ envelope.topic ++ "." ++ envelope.type ++ "\ndata: " ++ data ++ "\n\n"

/-- What `uuid4().hex` and `utcnow().isoformat()` give. -/
structure Stamp where
  id : String
  createdAt : String
  deriving Repr

/-- `heartbeat_event`. -/
def heartbeatEvent (stamp : Stamp) : EventEnvelope := ⟨stamp.id, systemTopic, "heartbeat", stamp.createdAt, .obj []⟩

/-- The topics that the query of a request lists, or those of the refresh jobs. -/
def requestedTopics (query : String) : List String :=
  let topics := ((Python.splitChar query ',').map Python.strip).filter (· ≠ "")
  if topics.isEmpty then ["delivery_auth"] else topics

/-- The topics of a subscriber: those it asked for, and the system topic. -/
def subscriberTopics (topics : List String) : List String := (topics ++ [systemTopic]).dedup

/-- The event a subscriber is given first. -/
def connectedEvent (stamp : Stamp) (topics : List String) : EventEnvelope :=
  ⟨stamp.id, systemTopic, "connected", stamp.createdAt,
    .obj [("topics", .arr (((subscriberTopics topics).insertionSort (· ≤ ·)).map .str))]⟩

/-- `Queue(maxsize=100)`. -/
def maxQueuedEvents : Nat := 100

/-- What a thread does with the bus: one call of `publish`, with the event it makes, or one request to `stream_events`,
with its query and the stamps of the events that are made for it. -/
inductive BusThread where
  | publish (envelope : EventEnvelope)
  | stream (query : String) (connected : Stamp) (heartbeats : Nat → Stamp)

/-- The topics a thread is subscribed to while it is a subscriber. -/
def BusThread.topics : BusThread → List String
  | .publish _ => []
  | .stream query _ _ => subscriberTopics (requestedTopics query)

/-- Where a thread is: a call of `publish` has a rest of its copy of the subscribers to serve, or has returned; a
request has added its subscriber to the list and not yet put the first event, yields events, or has ended. -/
inductive BusPhase (ι : Type*) where
  | ready
  | sending (rest : List ι)
  | published
  | subscribed
  | reading
  | closed
  deriving DecidableEq

/-- The state of the bus. A subscriber is known by the request that made it: `events` is its queue, `yielded` is what
its request has yielded so far, and `gone` says that the server has seen the client of the request go. -/
structure EventBus (ι : Type*) where
  subscribers : List ι := []
  events : ι → List EventEnvelope := fun _ => []
  yielded : ι → List EventEnvelope := fun _ => []
  gone : ι → Bool := fun _ => false

variable {ι : Type*} [DecidableEq ι]

/-- `put_nowait`: the event is dropped when the queue is full. -/
def EventBus.putNowait (bus : EventBus ι) (k : ι) (envelope : EventEnvelope) : EventBus ι :=
  if (bus.events k).length < maxQueuedEvents then
    { bus with events := Function.update bus.events k (bus.events k ++ [envelope]) }
  else bus

/-- The request yields an event. -/
def EventBus.yield (bus : EventBus ι) (k : ι) (envelope : EventEnvelope) : EventBus ι :=
  { bus with yielded := Function.update bus.yielded k (bus.yielded k ++ [envelope]) }

/-- The next step of a call of `EventBus.publish`. -/
def publishNext (threads : ι → BusThread) (envelope : EventEnvelope) (bus : EventBus ι) :
    BusPhase ι → Option (EventBus ι × BusPhase ι)
  | .ready => some (bus, .sending bus.subscribers)
  | .sending [] => some (bus, .published)
  | .sending (k :: rest) =>
    if envelope.topic ∈ (threads k).topics then some (bus.putNowait k envelope, .sending rest)
    else some (bus, .sending rest)
  | _ => none

/-- The next step of the request `i` to `stream_events`: `EventBus.subscribe` in two steps, of which the second one
waits for room in the queue, then one event after the other, or a heartbeat when the queue is empty, and
`EventBus.unsubscribe`. -/
def streamNext (i : ι) (topics : List String) (connected : Stamp) (heartbeats : Nat → Stamp) (bus : EventBus ι) :
    BusPhase ι → Option (EventBus ι × BusPhase ι)
  | .ready => some ({ bus with subscribers := bus.subscribers ++ [i] }, .subscribed)
  | .subscribed =>
    if (bus.events i).length < maxQueuedEvents then some (bus.putNowait i (connectedEvent connected topics), .reading)
    else none
  | .reading =>
    if bus.gone i then some ({ bus with subscribers := bus.subscribers.filter (· ≠ i) }, .closed)
    else
      match bus.events i with
      | [] => some (bus.yield i (heartbeatEvent (heartbeats (bus.yielded i).length)), .reading)
      | envelope :: rest => some ({ bus with events := Function.update bus.events i rest }.yield i envelope, .reading)
  | _ => none

/-- The next step of a thread. -/
def busNext (threads : ι → BusThread) (i : ι) (bus : EventBus ι) (phase : BusPhase ι) :
    Option (EventBus ι × BusPhase ι) :=
  match threads i with
  | .publish envelope => publishNext threads envelope bus phase
  | .stream query connected heartbeats => streamNext i (requestedTopics query) connected heartbeats bus phase

/-- The server sees a client go. -/
def clientGone (bus : EventBus ι) (i : ι) : Option (EventBus ι) :=
  some { bus with gone := Function.update bus.gone i true }

/-- One step of the threads and the clients. -/
def busStep (threads : ι → BusThread) (w : Processes.World (EventBus ι) ι (BusPhase ι)) (a : Processes.Act ι ι) :
    Option (Processes.World (EventBus ι) ι (BusPhase ι)) :=
  Processes.World.step (busNext threads) clientGone w a

/-- Before any thread has begun. -/
def initialBus : Processes.World (EventBus ι) ι (BusPhase ι) := ⟨{}, fun _ => .ready⟩

/-- The events a subscriber has been given, those its request has yielded and those in its queue. -/
def EventBus.given (bus : EventBus ι) (k : ι) : List EventEnvelope := bus.yielded k ++ bus.events k

end TeamsRehook
