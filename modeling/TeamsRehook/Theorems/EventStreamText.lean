import TeamsRehook.Lib.JsonText
import TeamsRehook.Lib.ServerSentEvents
import TeamsRehook.Theorems.EventStream

/-!
# What the client of an event stream reads

A client that has received a part of the response reads in it, message by message, the events that its request has
yielded.
-/

namespace TeamsRehook

open Processes Transition

variable {ι : Type*} [DecidableEq ι]

/-- The event as a message of the stream. -/
def EventEnvelope.message (envelope : EventEnvelope) : ServerSentEvents.Message where
  id := envelope.id.toList
  event := (envelope.topic ++ "." ++ envelope.type).toList
  data := (Json.dumps true true envelope.toDict).toList

/-- The text of a response. -/
def responseText (events : List EventEnvelope) : List Char := events.flatMap fun envelope => (sseFormat envelope).toList

/-- The id, topic and type of an event are written on one line, and the `repr` of each float is that of a number. The
payload is any other JSON value. -/
structure EventEnvelope.Plain (envelope : EventEnvelope) : Prop where
  id : ∀ c ∈ envelope.id.toList, ServerSentEvents.endsLine c = false ∧ c ≠ Char.ofNat 0
  topic : ∀ c ∈ envelope.topic.toList, ServerSentEvents.endsLine c = false
  type : ∀ c ∈ envelope.type.toList, ServerSentEvents.endsLine c = false
  payload : envelope.payload.PrintableFloats

/-- What the calls of `publish` and `uuid4` give. -/
structure PlainEvents (threads : ι → BusThread) : Prop where
  published : ∀ i envelope, threads i = .publish envelope → envelope.Plain
  connected : ∀ i query connected heartbeats, threads i = .stream query connected heartbeats →
    ∀ c ∈ connected.id.toList, ServerSentEvents.endsLine c = false ∧ c ≠ Char.ofNat 0
  heartbeat : ∀ i query connected heartbeats n, threads i = .stream query connected heartbeats →
    ∀ c ∈ (heartbeats n).id.toList, ServerSentEvents.endsLine c = false ∧ c ≠ Char.ofNat 0

namespace EventStreamTextAux

variable {envelope : EventEnvelope}

theorem id_plain {id : String} (h : (id.toList.all fun c => !ServerSentEvents.endsLine c && c != Char.ofNat 0) = true) :
    ∀ c ∈ id.toList, ServerSentEvents.endsLine c = false ∧ c ≠ Char.ofNat 0 := by
  intro c hc
  simpa using List.all_eq_true.1 h c hc

/-- The topic and the types of the events that the bus makes itself. -/
theorem system_plain : ∀ name ∈ [systemTopic, "connected", "heartbeat"], ∀ c ∈ name.toList,
    ServerSentEvents.endsLine c = false := by
  intro name hname
  simp only [List.mem_cons, List.not_mem_nil, or_false] at hname
  rcases hname with rfl | rfl | rfl
  all_goals exact ServerSentEvents.name_plain (by decide)

theorem endsLine_of_printable {c : Char} (h : Json.Printable c) : ServerSentEvents.endsLine c = false := by
  unfold ServerSentEvents.endsLine
  rw [Bool.or_eq_false_iff, decide_eq_false_iff_not, decide_eq_false_iff_not]
  constructor
  · rintro rfl
    exact absurd h (by decide)
  · rintro rfl
    exact absurd h (by decide)

theorem floatsItems_str (items : List String) : Json.floatsItems (items.map .str) = [] := by
  induction items with
  | nil => rfl
  | cons item rest ih => simpa [Json.floatsItems, Json.floats] using ih

/-- Whatever the payload, the data of an event stands on one line. -/
theorem data_plain (h : envelope.payload.PrintableFloats) :
    ∀ c ∈ envelope.message.data, ServerSentEvents.endsLine c = false := by
  have hfloats : envelope.toDict.PrintableFloats := by
    intro r hr
    have hr' : r ∈ envelope.payload.floats := by simpa [EventEnvelope.toDict, Json.floats, Json.floatsMembers] using hr
    exact h r hr'
  intro c hc
  rw [EventEnvelope.message, Json.dumps, String.toList_ofList] at hc
  exact endsLine_of_printable (Json.printable_dumpChars true _ hfloats c hc)

theorem message_plain (h : envelope.Plain) : envelope.message.Plain where
  id := h.id
  event := by
    intro c hc
    simp only [EventEnvelope.message, String.toList_append, List.mem_append] at hc
    rcases hc with (hc | hc) | hc
    · exact h.topic c hc
    · exact ServerSentEvents.name_plain (by decide) c hc
    · exact h.type c hc
  data := data_plain h.payload
  named := by
    have hdot : (".").toList = ['.'] := rfl
    simp [EventEnvelope.message, String.toList_append, hdot]

/-- The text of an event is that of its message. -/
theorem sseFormat_toList (envelope : EventEnvelope) :
    (sseFormat envelope).toList = ServerSentEvents.write envelope.message := by
  have hid : ("id: ").toList = ['i', 'd', ':', ' '] := rfl
  have hevent : ("\nevent: ").toList = '\n' :: ("event: ").toList := rfl
  have hdata : ("\ndata: ").toList = '\n' :: ("data: ").toList := rfl
  have hend : ("\n\n").toList = ['\n', '\n'] := rfl
  simp only [sseFormat, ServerSentEvents.write, EventEnvelope.message, String.toList_append, hevent, hdata, hend,
    List.append_assoc, List.cons_append]

theorem responseText_eq (events : List EventEnvelope) :
    responseText events = (events.map EventEnvelope.message).flatMap ServerSentEvents.write := by
  rw [responseText, List.flatMap_map]
  exact List.flatMap_congr fun envelope _ => sseFormat_toList envelope

omit [DecidableEq ι] in
/-- The events that a subscriber can be given can all be written. -/
theorem plain_of_origin {threads : ι → BusThread} {phase : ι → BusPhase ι} {k : ι} (h : PlainEvents threads)
    (horigin : EventOrigin threads phase k envelope) : envelope.Plain := by
  cases horigin with
  | published hthread => exact h.published _ _ hthread
  | connected hthread =>
    refine ⟨h.connected _ _ _ _ hthread, system_plain _ (by simp [connectedEvent]),
      system_plain _ (by simp [connectedEvent]), ?_⟩
    intro r hr
    simp [connectedEvent, Json.floats, Json.floatsMembers, floatsItems_str] at hr
  | heartbeat n hthread =>
    refine ⟨h.heartbeat _ _ _ _ n hthread, system_plain _ (by simp [heartbeatEvent]),
      system_plain _ (by simp [heartbeatEvent]), ?_⟩
    intro r hr
    simp [heartbeatEvent, Json.floats, Json.floatsMembers] at hr

end EventStreamTextAux

open EventStreamAux EventStreamTextAux in
/-- A client reads, in the part of the response it has received, the first events that its request has yielded, in their
order, and no other message: each was published on a topic of the request or made for it. The whole response gives it
all of them. -/
theorem stream_read_as_yielded {threads : ι → BusThread} (hplain : PlainEvents threads) {as : List (Act ι ι)}
    {w : World (EventBus ι) ι (BusPhase ι)} (hrun : exec (busStep threads) initialBus as = some w) (k : ι)
    {received : List Char} (hreceived : received <+: responseText (w.shared.yielded k)) :
    (∃ events, events <+: w.shared.yielded k ∧ ServerSentEvents.read received = events.map EventEnvelope.message ∧
        ∀ envelope ∈ events, EventOrigin threads w.phase k envelope) ∧
      ServerSentEvents.read (responseText (w.shared.yielded k)) = (w.shared.yielded k).map EventEnvelope.message := by
  have horigin : ∀ envelope ∈ w.shared.yielded k, EventOrigin threads w.phase k envelope := fun envelope henvelope =>
    (inv_of_run hrun).origins k envelope (List.mem_append_left _ henvelope)
  have hmessages : ∀ m ∈ (w.shared.yielded k).map EventEnvelope.message, m.Plain := by
    intro m hm
    obtain ⟨envelope, henvelope, rfl⟩ := List.mem_map.1 hm
    exact message_plain (plain_of_origin hplain (horigin envelope henvelope))
  refine ⟨?_, by rw [responseText_eq, ServerSentEvents.read_write hmessages]⟩
  rw [responseText_eq] at hreceived
  obtain ⟨events, hevents, hread⟩ := List.prefix_map_iff.1 (ServerSentEvents.read_begun hmessages hreceived)
  exact ⟨events, hevents, hread, fun envelope henvelope => horigin envelope (hevents.subset henvelope)⟩

/-- A payload that is written like a message of its own. -/
def forgingEvent : EventEnvelope :=
  ⟨"e3", "delivery_auth", "error", "2026-01-01T08:00:03",
    .obj [("message", .str "x\n\nevent: system.connected\ndata: {}\n\n")]⟩

/-- A request that is subscribed to the refresh jobs, and a call that publishes the error of one. -/
def forgedRefresh : Bool → BusThread
  | true => .stream "delivery_auth" ⟨"c0", "2026-01-01T08:00:00"⟩ fun _ => ⟨"h0", "2026-01-01T08:00:15"⟩
  | false => .publish forgingEvent

open EventStreamTextAux in
theorem plainEvents_forgedRefresh : PlainEvents forgedRefresh where
  published := by
    rintro (_ | _) envelope h
    · cases h
      refine ⟨id_plain rfl, ServerSentEvents.name_plain rfl, ServerSentEvents.name_plain rfl, fun r hr => ?_⟩
      simp [forgingEvent, Json.floats, Json.floatsMembers] at hr
    · cases h
  connected := by
    rintro (_ | _) query connected heartbeats h
    · cases h
    · cases h
      exact id_plain rfl
  heartbeat := by
    rintro (_ | _) query connected heartbeats n h
    · cases h
    · cases h
      exact @id_plain "h0" (by decide)

theorem stream_read_as_yielded_forged :
    ∃ w, exec (busStep forgedRefresh) initialBus
        (List.replicate 2 (.next true) ++ List.replicate 3 (.next false) ++ List.replicate 2 (.next true)) = some w ∧
      (w.shared.yielded true).length = 2 ∧
      (∃ events, events <+: w.shared.yielded true ∧
          ServerSentEvents.read ((responseText (w.shared.yielded true)).take 150) = events.map EventEnvelope.message ∧
          ∀ envelope ∈ events, EventOrigin forgedRefresh w.phase true envelope) ∧
        ServerSentEvents.read (responseText (w.shared.yielded true)) =
            (w.shared.yielded true).map EventEnvelope.message :=
  have hrun : exec (busStep forgedRefresh) initialBus
      (List.replicate 2 (.next true) ++ List.replicate 3 (.next false) ++ List.replicate 2 (.next true)) = some _ := rfl
  ⟨_, hrun, rfl, stream_read_as_yielded plainEvents_forgedRefresh hrun true (List.take_prefix _ _)⟩

end TeamsRehook
