import TeamsRehook.EventStream

/-!
# What the subscribers of the event stream are given

Any number of calls of `publish` and of requests to `stream_events` take their steps in any order, and clients go at any
time.
-/

namespace TeamsRehook

open Processes Transition

variable {ι : Type*} [DecidableEq ι]

/-- `uuid4` gives the event that the thread `i` publishes an id of its own. -/
structure OwnId (threads : ι → BusThread) (i : ι) (id : String) : Prop where
  published : ∀ j envelope, j ≠ i → threads j = .publish envelope → envelope.id ≠ id
  connected : ∀ k query connected heartbeats, threads k = .stream query connected heartbeats → connected.id ≠ id
  heartbeat : ∀ k query connected heartbeats n, threads k = .stream query connected heartbeats → (heartbeats n).id ≠ id

/-- Where an event that a subscriber has been given comes from: a call of `publish` that has begun, on one of its
topics, or the request of the subscriber itself. -/
inductive EventOrigin (threads : ι → BusThread) (phase : ι → BusPhase ι) (k : ι) : EventEnvelope → Prop
  | published {j : ι} {envelope : EventEnvelope} (hthread : threads j = .publish envelope) (hphase : phase j ≠ .ready)
      (htopic : envelope.topic ∈ (threads k).topics) : EventOrigin threads phase k envelope
  | connected {query : String} {connected : Stamp} {heartbeats : Nat → Stamp}
      (hthread : threads k = .stream query connected heartbeats) :
      EventOrigin threads phase k (connectedEvent connected (requestedTopics query))
  | heartbeat {query : String} {connected : Stamp} {heartbeats : Nat → Stamp} (n : Nat)
      (hthread : threads k = .stream query connected heartbeats) :
      EventOrigin threads phase k (heartbeatEvent (heartbeats n))

/-- When the call `i` of `publish` comes to the subscriber `k`, there is room in its queue. -/
def HasRoom (i k : ι) (w : World (EventBus ι) ι (BusPhase ι)) (a : Act ι ι) : Prop :=
  a = .next i → ∀ rest, w.phase i = .sending (k :: rest) → (w.shared.events k).length < maxQueuedEvents

/-- The request waits for room in the queue of its own subscriber before it has put the first event there. -/
def StuckSubscribing (w : World (EventBus ι) ι (BusPhase ι)) (k : ι) : Prop :=
  w.phase k = .subscribed ∧ maxQueuedEvents ≤ (w.shared.events k).length

/-- The places of a thread. -/
def BusThread.Takes : BusThread → BusPhase ι → Prop
  | .publish _, phase => phase = .ready ∨ (∃ rest, phase = .sending rest) ∨ phase = .published
  | .stream _ _ _, phase => phase = .ready ∨ phase = .subscribed ∨ phase = .reading ∨ phase = .closed

namespace EventStreamAux

/-- What a step can do. -/
inductive Moves (threads : ι → BusThread) (w : World (EventBus ι) ι (BusPhase ι)) :
    Act ι ι → World (EventBus ι) ι (BusPhase ι) → Prop
  | copied {i : ι} {envelope : EventEnvelope} (hthread : threads i = .publish envelope) (hphase : w.phase i = .ready) :
      Moves threads w (.next i) ⟨w.shared, Function.update w.phase i (.sending w.shared.subscribers)⟩
  | returned {i : ι} {envelope : EventEnvelope} (hthread : threads i = .publish envelope) (hphase : w.phase i =
    .sending []) :
      Moves threads w (.next i) ⟨w.shared, Function.update w.phase i .published⟩
  | passed {i k : ι} {rest : List ι} {envelope : EventEnvelope} (hthread : threads i = .publish envelope)
      (hphase : w.phase i = .sending (k :: rest))
      (hpassed : ¬(envelope.topic ∈ (threads k).topics ∧ (w.shared.events k).length < maxQueuedEvents)) :
      Moves threads w (.next i) ⟨w.shared, Function.update w.phase i (.sending rest)⟩
  | put {i k : ι} {rest : List ι} {envelope : EventEnvelope} (hthread : threads i = .publish envelope)
      (hphase : w.phase i = .sending (k :: rest)) (htopic : envelope.topic ∈ (threads k).topics)
      (hroom : (w.shared.events k).length < maxQueuedEvents) :
      Moves threads w (.next i)
        ⟨{ w.shared with events := Function.update w.shared.events k (w.shared.events k ++ [envelope]) },
          Function.update w.phase i (.sending rest)⟩
  | listed {i : ι} {query : String} {connected : Stamp} {heartbeats : Nat → Stamp}
      (hthread : threads i = .stream query connected heartbeats) (hphase : w.phase i = .ready) :
      Moves threads w (.next i)
        ⟨{ w.shared with subscribers := w.shared.subscribers ++ [i] }, Function.update w.phase i .subscribed⟩
  | connected {i : ι} {query : String} {connected : Stamp} {heartbeats : Nat → Stamp}
      (hthread : threads i = .stream query connected heartbeats) (hphase : w.phase i = .subscribed)
      (hroom : (w.shared.events i).length < maxQueuedEvents) :
      Moves threads w (.next i)
        ⟨{ w.shared with
            events := Function.update w.shared.events i (w.shared.events i ++
              [connectedEvent connected (requestedTopics query)]) },
          Function.update w.phase i .reading⟩
  | closed {i : ι} {query : String} {connected : Stamp} {heartbeats : Nat → Stamp}
      (hthread : threads i = .stream query connected heartbeats) (hphase : w.phase i = .reading) :
      Moves threads w (.next i)
        ⟨{ w.shared with subscribers := w.shared.subscribers.filter (· ≠ i) }, Function.update w.phase i .closed⟩
  | beat {i : ι} {query : String} {connected : Stamp} {heartbeats : Nat → Stamp}
      (hthread : threads i = .stream query connected heartbeats) (hphase : w.phase i = .reading)
      (hempty : w.shared.events i = []) (n : Nat) :
      Moves threads w (.next i)
        ⟨{ w.shared with
            yielded := Function.update w.shared.yielded i (w.shared.yielded i ++ [heartbeatEvent (heartbeats n)]) },
          Function.update w.phase i .reading⟩
  | read {i : ι} {query : String} {connected : Stamp} {heartbeats : Nat → Stamp} {envelope : EventEnvelope}
      {rest : List EventEnvelope} (hthread : threads i = .stream query connected heartbeats)
      (hphase : w.phase i = .reading) (hqueue : w.shared.events i = envelope :: rest) :
      Moves threads w (.next i)
        ⟨{ w.shared with
            events := Function.update w.shared.events i rest
            yielded := Function.update w.shared.yielded i (w.shared.yielded i ++ [envelope]) },
          Function.update w.phase i .reading⟩
  | gone (i : ι) :
      Moves threads w (.env i) { w with shared := { w.shared with gone := Function.update w.shared.gone i true } }

variable {threads : ι → BusThread} {w w' w₁ w₂ : World (EventBus ι) ι (BusPhase ι)} {a : Act ι ι} {as : List (Act ι ι)}
  {i k : ι} {envelope : EventEnvelope}

theorem moves_of_publishNext {i : ι} {envelope : EventEnvelope} {bus : EventBus ι} {p : BusPhase ι}
    (hthread : threads i = .publish envelope) (h : publishNext threads envelope w.shared (w.phase i) = some (bus, p)) :
    Moves threads w (.next i) ⟨bus, Function.update w.phase i p⟩ := by
  cases hphase : w.phase i with
  | ready =>
    rw [hphase] at h
    cases h
    exact .copied hthread hphase
  | sending subscribers =>
    rw [hphase] at h
    cases subscribers with
    | nil =>
      cases h
      exact .returned hthread hphase
    | cons k rest =>
      simp only [publishNext, EventBus.putNowait] at h
      by_cases htopic : envelope.topic ∈ (threads k).topics
      · rw [if_pos htopic] at h
        by_cases hroom : (w.shared.events k).length < maxQueuedEvents
        · rw [if_pos hroom] at h
          cases h
          exact .put hthread hphase htopic hroom
        · rw [if_neg hroom] at h
          cases h
          exact .passed hthread hphase fun h => hroom h.2
      · rw [if_neg htopic] at h
        cases h
        exact .passed hthread hphase fun h => htopic h.1
  | _ =>
    rw [hphase] at h
    cases h

theorem moves_of_streamNext {i : ι} {query : String} {connected : Stamp} {heartbeats : Nat → Stamp} {bus : EventBus ι}
    {p : BusPhase ι} (hthread : threads i = .stream query connected heartbeats)
    (h : streamNext i (requestedTopics query) connected heartbeats w.shared (w.phase i) = some (bus, p)) :
    Moves threads w (.next i) ⟨bus, Function.update w.phase i p⟩ := by
  cases hphase : w.phase i with
  | ready =>
    rw [hphase] at h
    cases h
    exact .listed hthread hphase
  | subscribed =>
    rw [hphase] at h
    simp only [streamNext, EventBus.putNowait] at h
    by_cases hroom : (w.shared.events i).length < maxQueuedEvents
    · rw [if_pos hroom, if_pos hroom] at h
      cases h
      exact .connected hthread hphase hroom
    · rw [if_neg hroom] at h
      cases h
  | reading =>
    rw [hphase] at h
    simp only [streamNext] at h
    by_cases hgone : w.shared.gone i = true
    · rw [if_pos hgone] at h
      cases h
      exact .closed hthread hphase
    · rw [if_neg hgone] at h
      cases hqueue : w.shared.events i with
      | nil =>
        rw [hqueue] at h
        cases h
        exact .beat hthread hphase hqueue _
      | cons envelope rest =>
        rw [hqueue] at h
        cases h
        exact .read hthread hphase hqueue
  | _ =>
    rw [hphase] at h
    cases h

theorem moves_of_step (h : busStep threads w a = some w') : Moves threads w a w' := by
  rcases World.step_cases h with ⟨i, bus, p, rfl, hnext, rfl⟩ | ⟨i, bus, rfl, henv, rfl⟩
  · unfold busNext at hnext
    cases hthread : threads i with
    | publish envelope =>
      rw [hthread] at hnext
      exact moves_of_publishNext hthread hnext
    | stream query connected heartbeats =>
      rw [hthread] at hnext
      exact moves_of_streamNext hthread hnext
  · cases henv
    exact .gone i

/-! ### What a subscriber is given -/

/-- A subscriber is given nothing in a step, or an event that the thread taking the step has for it. -/
theorem given_moves (h : Moves threads w a w') (k : ι) :
    w'.shared.given k = w.shared.given k ∨
      ∃ i envelope, a = .next i ∧ w'.shared.given k = w.shared.given k ++ [envelope] ∧
        ((∃ rest, threads i = .publish envelope ∧ w.phase i = .sending (k :: rest) ∧
          envelope.topic ∈ (threads k).topics) ∨
          (i = k ∧ ∃ query connected heartbeats, threads k = .stream query connected heartbeats ∧
            (envelope = connectedEvent connected (requestedTopics query) ∨
              ∃ n, envelope = heartbeatEvent (heartbeats n)))) := by
  cases h with
  | put hthread hphase htopic hroom =>
    rename_i i k' rest envelope
    by_cases hk : k = k'
    · subst hk
      refine .inr ⟨i, envelope, rfl, ?_, .inl ⟨rest, hthread, hphase, htopic⟩⟩
      simp only [EventBus.given, Function.update_self, List.append_assoc]
    · refine .inl ?_
      simp only [EventBus.given, Function.update_of_ne hk]
  | connected hthread hphase hroom =>
    rename_i i query connected heartbeats
    by_cases hk : k = i
    · subst hk
      refine .inr ⟨k, _, rfl, ?_, .inr ⟨rfl, query, connected, heartbeats, hthread, .inl rfl⟩⟩
      simp only [EventBus.given, Function.update_self, List.append_assoc]
    · refine .inl ?_
      simp only [EventBus.given, Function.update_of_ne hk]
  | beat hthread hphase hempty n =>
    rename_i i query connected heartbeats
    by_cases hk : k = i
    · subst hk
      refine .inr ⟨k, _, rfl, ?_, .inr ⟨rfl, query, connected, heartbeats, hthread, .inr ⟨n, rfl⟩⟩⟩
      simp only [EventBus.given, Function.update_self, hempty, List.append_nil]
    · refine .inl ?_
      simp only [EventBus.given, Function.update_of_ne hk]
  | read hthread hphase hqueue =>
    rename_i i query connected heartbeats envelope rest
    refine .inl ?_
    by_cases hk : k = i
    · subst hk
      simp only [EventBus.given, Function.update_self, hqueue, List.append_assoc, List.singleton_append]
    · simp only [EventBus.given, Function.update_of_ne hk]
  | _ => exact .inl rfl

/-- A thread is moved by its own steps only. -/
theorem phase_moves_of_ne (h : Moves threads w a w') {i : ι} (hi : a ≠ .next i) : w'.phase i = w.phase i := by
  cases h with
  | gone => rfl
  | _ =>
    refine Function.update_of_ne (fun heq => hi ?_) _ _
    rw [heq]

/-- A thread that has begun does not come back to its beginning. -/
theorem begun_moves (h : Moves threads w a w') {i : ι} (hi : w.phase i ≠ .ready) : w'.phase i ≠ .ready := by
  by_cases ha : a = .next i
  · subst ha
    cases h <;> simp
  · rwa [phase_moves_of_ne h ha]

/-- A call begins with a copy of the list. -/
theorem copied_moves (h : Moves threads w (.next i) w') (hthread : threads i = .publish envelope)
    (hphase : w.phase i = .ready) : w'.phase i = .sending w.shared.subscribers ∧ w'.shared = w.shared := by
  cases h with
  | copied => exact ⟨Function.update_self .., rfl⟩
  | listed hstream | connected hstream | closed hstream | beat hstream | read hstream =>
    rw [hthread] at hstream
    cases hstream
  | returned _ hat | passed _ hat | put _ hat =>
    rw [hphase] at hat
    cases hat

/-- A call with no subscriber left returns, and gives nothing. -/
theorem returns_moves (h : Moves threads w (.next i) w') (hthread : threads i = .publish envelope)
    (hphase : w.phase i = .sending []) : w'.phase i = .published ∧ w'.shared = w.shared := by
  cases h with
  | returned => exact ⟨Function.update_self .., rfl⟩
  | listed hstream | connected hstream | closed hstream | beat hstream | read hstream =>
    rw [hthread] at hstream
    cases hstream
  | copied _ hat | passed _ hat | put _ hat =>
    rw [hphase] at hat
    cases hat

/-- A call that has returned takes no further step. -/
theorem published_moves (h : Moves threads w a w') {i : ι} {envelope : EventEnvelope}
    (hthread : threads i = .publish envelope) (hi : w.phase i = .published) : a ≠ .next i ∧ w'.phase i = .published := by
  have ha : a ≠ .next i := by
    rintro rfl
    cases h with
    | listed hstream | connected hstream | closed hstream | beat hstream | read hstream =>
      rw [hthread] at hstream
      cases hstream
    | copied _ hphase | returned _ hphase | passed _ hphase | put _ hphase =>
      rw [hi] at hphase
      cases hphase
  exact ⟨ha, by rw [phase_moves_of_ne h ha, hi]⟩

/-! ### The invariant -/

/-- What holds of the bus in every state that can be reached. -/
structure Inv (threads : ι → BusThread) (w : World (EventBus ι) ι (BusPhase ι)) : Prop where
  nodup : w.shared.subscribers.Nodup
  listed : ∀ k, k ∈ w.shared.subscribers ↔ w.phase k = .subscribed ∨ w.phase k = .reading
  origins : ∀ k, ∀ envelope ∈ w.shared.given k, EventOrigin threads w.phase k envelope
  bounded : ∀ k, (w.shared.events k).length ≤ maxQueuedEvents
  unread : ∀ k, w.phase k = .ready ∨ w.phase k = .subscribed → w.shared.yielded k = []
  placed : ∀ k, (threads k).Takes (w.phase k)

omit [DecidableEq ι] in
theorem inv_initial : Inv threads (initialBus : World (EventBus ι) ι (BusPhase ι)) where
  nodup := List.nodup_nil
  listed k := by simp [initialBus]
  origins k envelope h := absurd h List.not_mem_nil
  bounded k := Nat.zero_le _
  unread k _ := rfl
  placed k := by
    cases h : threads k with
    | publish envelope => exact .inl rfl
    | stream query connected heartbeats => exact .inl rfl

/-- What a thread has yielded changes with its own steps only. -/
theorem yielded_moves_of_ne (h : Moves threads w a w') (hk : a ≠ .next k) : w'.shared.yielded k = w.shared.yielded k := by
  cases h with
  | beat | read =>
    refine Function.update_of_ne (fun heq => hk ?_) _ _
    rw [heq]
  | _ => rfl

/-- A thread yields nothing before its loop. -/
theorem unread_moves (hI : ∀ k, w.phase k = .ready ∨ w.phase k = .subscribed → w.shared.yielded k = [])
    (h : Moves threads w a w') (k : ι) (hk : w'.phase k = .ready ∨ w'.phase k = .subscribed) :
    w'.shared.yielded k = [] := by
  by_cases ha : a = .next k
  · subst ha
    cases h with
    | listed _ hphase => exact hI k (.inl hphase)
    | _ => simp at hk
  · rw [yielded_moves_of_ne h ha]
    exact hI k (phase_moves_of_ne h ha ▸ hk)

/-- A thread stays at the places of its kind. -/
theorem placed_moves (hI : ∀ k, (threads k).Takes (w.phase k)) (h : Moves threads w a w') (k : ι) :
    (threads k).Takes (w'.phase k) := by
  by_cases ha : a = .next k
  · subst ha
    cases h with
    | copied hthread | returned hthread | passed hthread | put hthread | listed hthread | connected hthread
    | closed hthread | beat hthread | read hthread =>
      rw [hthread]
      simp [BusThread.Takes]
  · rw [phase_moves_of_ne h ha]
    exact hI k

/-- A thread that moves between two places of one kind leaves the list right. -/
theorem listed_update {subscribers : List ι} {phase : ι → BusPhase ι} {i : ι} {p : BusPhase ι}
    (hlisted : ∀ k, k ∈ subscribers ↔ phase k = .subscribed ∨ phase k = .reading)
    (hp : phase i = .subscribed ∨ phase i = .reading ↔ p = .subscribed ∨ p = .reading) (k : ι) :
    k ∈ subscribers ↔ Function.update phase i p k = .subscribed ∨ Function.update phase i p k = .reading := by
  rw [hlisted]
  by_cases hk : k = i
  · subst hk
    rw [Function.update_self]
    exact hp
  · rw [Function.update_of_ne hk]

/-- The list and the places change together. -/
theorem listed_moves (hI : Inv threads w) (h : Moves threads w a w') :
    w'.shared.subscribers.Nodup ∧ ∀ k, k ∈ w'.shared.subscribers ↔ w'.phase k = .subscribed ∨ w'.phase k = .reading := by
  cases h with
  | gone => exact ⟨hI.nodup, hI.listed⟩
  | listed hthread hphase =>
    rename_i i query connected heartbeats
    have hi : i ∉ w.shared.subscribers := by
      rw [hI.listed, hphase]
      simp
    refine ⟨List.nodup_append.2 ⟨hI.nodup, List.nodup_singleton i, ?_⟩, fun k => ?_⟩
    · intro k hk j hj heq
      rw [List.mem_singleton.1 hj] at heq
      exact hi (heq ▸ hk)
    · by_cases hk : k = i
      · subst hk
        simp
      · simp [hk, hI.listed]
  | closed hthread hphase =>
    rename_i i query connected heartbeats
    refine ⟨hI.nodup.filter _, fun k => ?_⟩
    by_cases hk : k = i
    · subst hk
      simp
    · simp [hk, hI.listed]
  | copied _ hphase | returned _ hphase | passed _ hphase | put _ hphase | connected _ hphase | beat _ hphase
  | read _ hphase =>
    exact ⟨hI.nodup, listed_update hI.listed (by simp [hphase])⟩

omit [DecidableEq ι] in
theorem origin_mono {phase phase' : ι → BusPhase ι} (h : ∀ j, phase j ≠ .ready → phase' j ≠ .ready) {k : ι}
    {envelope : EventEnvelope} (horigin : EventOrigin threads phase k envelope) :
    EventOrigin threads phase' k envelope := by
  cases horigin with
  | published hthread hphase htopic => exact .published hthread (h _ hphase) htopic
  | connected hthread => exact .connected hthread
  | heartbeat n hthread => exact .heartbeat n hthread

theorem inv_moves (hI : Inv threads w) (h : Moves threads w a w') : Inv threads w' := by
  obtain ⟨hnodup, hlisted⟩ := listed_moves hI h
  refine ⟨hnodup, hlisted, fun k envelope hmem => ?_, fun k => ?_, unread_moves hI.unread h, placed_moves hI.placed h⟩
  · have hold := fun henvelope : envelope ∈ w.shared.given k =>
      origin_mono (fun j => begun_moves h) (hI.origins k envelope henvelope)
    rcases given_moves h k with heq | ⟨i, envelope', rfl, heq, hgives⟩
    · exact hold (heq ▸ hmem)
    · rw [heq] at hmem
      rcases List.mem_append.1 hmem with hmem | hmem
      · exact hold hmem
      · obtain rfl := List.mem_singleton.1 hmem
        rcases hgives with ⟨rest, hthread, hphase, htopic⟩ | ⟨rfl, query, connected, heartbeats, hthread, rfl | ⟨n, rfl⟩⟩
        · refine .published hthread (begun_moves h ?_) htopic
          rw [hphase]
          simp
        · exact .connected hthread
        · exact .heartbeat n hthread
  · have hk := hI.bounded k
    cases h with
    | put _ _ _ hroom | connected _ _ hroom =>
      simp only [Function.update_apply]
      split
      · rename_i heq
        subst heq
        rw [List.length_append]
        exact hroom
      · exact hk
    | read _ _ hqueue =>
      simp only [Function.update_apply]
      split
      · rename_i heq
        subst heq
        rw [hqueue, List.length_cons] at hk
        omega
      · exact hk
    | _ => exact hk

theorem inv_of_run (hrun : exec (busStep threads) initialBus as = some w) : Inv threads w :=
  exec_invariant (fun _ _ _ hI h => inv_moves hI (moves_of_step h)) inv_initial hrun

/-! ### How often a subscriber is given an event -/

/-- How many of the events that a subscriber has been given have this id. -/
def timesGiven (w : World (EventBus ι) ι (BusPhase ι)) (k : ι) (id : String) : Nat :=
  ((w.shared.given k).map (·.id)).count id

/-- An event of another thread has another id. -/
theorem timesGiven_of_ne (hown : OwnId threads i envelope.id) (h : Moves threads w a w') (ha : a ≠ .next i) :
    timesGiven w' k envelope.id = timesGiven w k envelope.id := by
  unfold timesGiven
  rcases given_moves h k with heq | ⟨j, other, rfl, heq, hgives⟩
  · rw [heq]
  · have hid : other.id ≠ envelope.id := by
      rcases hgives with ⟨rest, hthread, -, -⟩ | ⟨rfl, query, connected, heartbeats, hthread, rfl | ⟨n, rfl⟩⟩
      · exact hown.published j other (fun heq => ha (heq ▸ rfl)) hthread
      · exact hown.connected j query connected heartbeats hthread
      · exact hown.heartbeat j query connected heartbeats n hthread
    rw [heq, List.map_append, List.count_append, List.map_singleton, List.count_singleton,
      if_neg (by simpa using hid), Nat.add_zero]

/-- The call that comes to a subscriber gives it the event once when the event has one of its topics and there is room. -/
theorem timesGiven_put (h : Moves threads w (.next i) w') (hthread : threads i = .publish envelope) {k' : ι}
    {rest : List ι} (hphase : w.phase i = .sending (k' :: rest)) :
    w'.phase i = .sending rest ∧ timesGiven w' k envelope.id = timesGiven w k envelope.id +
      if k = k' ∧ envelope.topic ∈ (threads k).topics ∧ (w.shared.events k).length < maxQueuedEvents then 1 else 0 := by
  cases h with
  | copied _ hat | returned _ hat =>
    rw [hphase] at hat
    cases hat
  | listed hstream | connected hstream | closed hstream | beat hstream | read hstream =>
    rw [hthread] at hstream
    cases hstream
  | passed hthread' hat hpassed =>
    rw [hthread] at hthread'
    rw [hphase] at hat
    cases hthread'
    cases hat
    refine ⟨Function.update_self .., ?_⟩
    rw [if_neg, Nat.add_zero]
    · rfl
    · rintro ⟨rfl, h⟩
      exact hpassed h
  | put hthread' hat htopic hroom =>
    rw [hthread] at hthread'
    rw [hphase] at hat
    cases hthread'
    cases hat
    refine ⟨Function.update_self .., ?_⟩
    unfold timesGiven EventBus.given
    by_cases hk : k = k'
    · subst hk
      simp only [Function.update_self]
      rw [if_pos ⟨trivial, htopic, hroom⟩, ← List.append_assoc, List.map_append, List.count_append, List.map_singleton,
        List.count_singleton_self]
    · simp only [Function.update_of_ne hk]
      rw [if_neg fun h => hk h.1, Nat.add_zero]

/-- Once the call has returned, nothing is given of its event any more. -/
theorem timesGiven_of_published (hown : OwnId threads i envelope.id) (hthread : threads i = .publish envelope)
    (hphase : w.phase i = .published) (hrun : exec (busStep threads) w as = some w') :
    timesGiven w' k envelope.id = timesGiven w k envelope.id ∧ w'.phase i = .published := by
  refine exec_invariant (I := fun v => timesGiven v k envelope.id = timesGiven w k envelope.id ∧ v.phase i = .published)
    ?_ ⟨rfl, hphase⟩ hrun
  rintro v a v' ⟨htimes, hat⟩ hstep
  have hmoves := moves_of_step hstep
  obtain ⟨ha, hat'⟩ := published_moves hmoves hthread hat
  exact ⟨(timesGiven_of_ne hown hmoves ha).trans htimes, hat'⟩

/-- A call that has the subscriber behind it, or has not got it in its copy, does not come to it. -/
theorem meets_of_not_mem {rest : List ι} (hthread : threads i = .publish envelope) (hphase : w.phase i = .sending rest)
    (hk : k ∉ rest) : Meets (busStep threads) (HasRoom i k) w as := by
  refine (meets_true (busStep threads) w as).imp_of_invariant
    (I := fun v => v.phase i = .published ∨ ∃ rest, v.phase i = .sending rest ∧ k ∉ rest) ?_ ?_ (.inr ⟨rest, hphase, hk⟩)
  · rintro v a v' (hpublished | ⟨rest, hat, hk⟩) hstep
    · exact .inl (published_moves (moves_of_step hstep) hthread hpublished).2
    · have hmoves := moves_of_step hstep
      by_cases ha : a = .next i
      · subst ha
        cases rest with
        | nil => exact .inl (returns_moves hmoves hthread hat).1
        | cons k' rest =>
          refine .inr ⟨rest, (timesGiven_put (k := k) hmoves hthread hat).1, fun h => hk (List.mem_cons_of_mem _ h)⟩
      · exact .inr ⟨rest, by rw [phase_moves_of_ne hmoves ha, hat], hk⟩
  · rintro v a (hpublished | ⟨rest, hat, hk⟩) - - rest' hat'
    · rw [hpublished] at hat'
      cases hat'
    · rw [hat] at hat'
      cases hat'
      exact absurd List.mem_cons_self hk

/-- What a subscriber has been given stays, in its order. -/
theorem given_grows (hrun : exec (busStep threads) w as = some w') (k : ι) :
    ∃ new, w'.shared.given k = w.shared.given k ++ new := by
  refine exec_invariant (I := fun v => ∃ new, v.shared.given k = w.shared.given k ++ new) ?_ ⟨[],
    (List.append_nil _).symm⟩ hrun
  rintro v a v' ⟨new, hnew⟩ hstep
  rcases given_moves (moves_of_step hstep) k with heq | ⟨j, other, -, heq, -⟩
  · exact ⟨new, heq.trans hnew⟩
  · exact ⟨new ++ [other], by rw [heq, hnew, List.append_assoc]⟩

/-- What a call that has the subscribers `rest` before it gives to one of them until it returns: its event, once, when
the subscriber is among them, the event has one of its topics, and there is room when the call comes to it. -/
theorem timesGiven_of_sending (hown : OwnId threads i envelope.id) (hthread : threads i = .publish envelope)
    {rest : List ι} (hnodup : rest.Nodup) (hphase : w.phase i = .sending rest)
    (hrun : exec (busStep threads) w as = some w') (hend : w'.phase i = .published) :
    (k ∈ rest ∧ envelope.topic ∈ (threads k).topics ∧ Meets (busStep threads) (HasRoom i k) w as ∧
        timesGiven w' k envelope.id = timesGiven w k envelope.id + 1) ∨
      ¬(k ∈ rest ∧ envelope.topic ∈ (threads k).topics ∧ Meets (busStep threads) (HasRoom i k) w as) ∧
        timesGiven w' k envelope.id = timesGiven w k envelope.id := by
  induction as generalizing w rest with
  | nil =>
    cases hrun
    rw [hphase] at hend
    cases hend
  | cons a as ih =>
    obtain ⟨v, hstep, hlater⟩ := exec_cons_eq_some.1 hrun
    have hmoves := moves_of_step hstep
    have hmeets : Meets (busStep threads) (HasRoom i k) w (a :: as) ↔
        HasRoom i k w a ∧ Meets (busStep threads) (HasRoom i k) v as := by
      refine and_congr_right fun _ => ⟨fun h => h v hstep, fun h v' hv' => ?_⟩
      rw [hstep] at hv'
      cases hv'
      exact h
    rw [hmeets]
    by_cases ha : a = .next i
    · subst ha
      cases rest with
      | nil =>
        obtain ⟨hreturned, hshared⟩ := returns_moves hmoves hthread hphase
        obtain ⟨hsame, -⟩ := timesGiven_of_published (k := k) hown hthread hreturned hlater
        refine .inr ⟨fun h => absurd h.1 List.not_mem_nil, ?_⟩
        rw [hsame, timesGiven, hshared]
        rfl
      | cons k' rest =>
        obtain ⟨hat, hput⟩ := timesGiven_put (k := k) hmoves hthread hphase
        obtain ⟨hk', hrest⟩ := List.nodup_cons.1 hnodup
        have hroom : HasRoom i k w (.next i) ↔ (k = k' → (w.shared.events k).length < maxQueuedEvents) := by
          constructor
          · rintro h rfl
            exact h rfl rest hphase
          · intro h _ rest' hat'
            rw [hphase] at hat'
            cases hat'
            exact h rfl
        rw [hroom]
        by_cases hk : k = k'
        · subst hk
          obtain ⟨hmem, -⟩ | ⟨-, hlast⟩ := ih hrest hat hlater
          · exact absurd hmem hk'
          rw [hlast, hput]
          have hafter : Meets (busStep threads) (HasRoom i k) v as := meets_of_not_mem hthread hat hk'
          by_cases hgiven : envelope.topic ∈ (threads k).topics ∧ (w.shared.events k).length < maxQueuedEvents
          · rw [if_pos ⟨rfl, hgiven⟩]
            exact .inl ⟨List.mem_cons_self, hgiven.1, ⟨fun _ => hgiven.2, hafter⟩, rfl⟩
          · rw [if_neg fun h => hgiven h.2]
            exact .inr ⟨fun h => hgiven ⟨h.2.1, h.2.2.1 rfl⟩, rfl⟩
        · rw [if_neg fun h => hk h.1, Nat.add_zero] at hput
          have hmem : k ∈ k' :: rest ↔ k ∈ rest := by simp [hk]
          rw [hmem, ← hput]
          obtain ⟨hin, htopic, hafter, hlast⟩ | ⟨hnot, hlast⟩ := ih hrest hat hlater
          · exact .inl ⟨hin, htopic, ⟨fun h => absurd h hk, hafter⟩, hlast⟩
          · exact .inr ⟨fun h => hnot ⟨h.1, h.2.1, h.2.2.2⟩, hlast⟩
    · have hroom : HasRoom i k w a := fun h => absurd h ha
      rw [← timesGiven_of_ne hown hmoves ha]
      obtain ⟨hin, htopic, hafter, hlast⟩ | ⟨hnot, hlast⟩ := ih hnodup ((phase_moves_of_ne hmoves ha).trans hphase) hlater
      · exact .inl ⟨hin, htopic, ⟨hroom, hafter⟩, hlast⟩
      · exact .inr ⟨fun h => hnot ⟨h.1, h.2.1, h.2.2.2⟩, hlast⟩

omit [DecidableEq ι] in
/-- Before the call begins, nothing has been given of its event. -/
theorem timesGiven_of_ready (hI : Inv threads w) (hown : OwnId threads i envelope.id)
    (hthread : threads i = .publish envelope) (hphase : w.phase i = .ready) : timesGiven w k envelope.id = 0 := by
  refine List.count_eq_zero.2 fun hmem => ?_
  obtain ⟨other, hother, hid⟩ := List.mem_map.1 hmem
  cases hI.origins k other hother with
  | published hthread' hphase' =>
    rename_i j _
    refine hown.published j other ?_ hthread' hid
    rintro rfl
    exact hphase' hphase
  | connected hthread' => exact hown.connected k _ _ _ hthread' hid
  | heartbeat n hthread' => exact hown.heartbeat k _ _ _ n hthread' hid

/-! ### Waiting -/

/-- The threads that cannot take a step: those that have ended, and the requests that are stuck. -/
theorem next_eq_none_iff (hI : Inv threads w) :
    busStep threads w (.next k) = none ↔ w.phase k = .published ∨ w.phase k = .closed ∨ StuckSubscribing w k := by
  have hnext : busStep threads w (.next k) = none ↔ busNext threads k w.shared (w.phase k) = none :=
    Option.map_eq_none_iff
  have hplaced := hI.placed k
  rw [hnext]
  unfold busNext StuckSubscribing
  cases hthread : threads k with
  | publish envelope =>
    rw [hthread] at hplaced
    rcases hplaced with hphase | ⟨rest, hphase⟩ | hphase
    · simp [hphase, publishNext]
    · cases rest with
      | nil => simp [hphase, publishNext]
      | cons k' rest =>
        simp only [hphase, publishNext]
        split <;> simp
    · simp [hphase, publishNext]
  | stream query connected heartbeats =>
    rw [hthread] at hplaced
    rcases hplaced with hphase | hphase | hphase | hphase
    · simp [hphase, streamNext]
    · simp [hphase, streamNext]
    · simp only [hphase, streamNext]
      split
      · simp
      · split <;> simp
    · simp [hphase, streamNext]

/-- A request that is stuck stays where it is, and its queue stays full: nobody else takes events from it. -/
theorem stuck_moves (hI : Inv threads w) (hstuck : StuckSubscribing w k) (hstep : busStep threads w a = some w') :
    StuckSubscribing w' k := by
  have ha : a ≠ .next k := by
    rintro rfl
    rw [(next_eq_none_iff hI).2 (.inr (.inr hstuck))] at hstep
    cases hstep
  have hmoves := moves_of_step hstep
  refine ⟨(phase_moves_of_ne hmoves ha).trans hstuck.1, hstuck.2.trans ?_⟩
  cases hmoves with
  | put =>
    simp only [Function.update_apply]
    split
    · rename_i heq
      subst heq
      rw [List.length_append]
      omega
    · exact le_rfl
  | connected | read =>
    simp only [Function.update_apply]
    split
    · rename_i heq
      exact absurd (heq ▸ rfl) ha
    · exact le_rfl
  | _ => exact le_rfl

end EventStreamAux

open EventStreamAux in
/-- In every state, the list of subscribers is that of the requests between `subscribe` and `unsubscribe`, each once, at
most 100 events wait for a subscriber, and every event it has been given was published on one of its topics or made for
it. -/
theorem event_bus_invariant {threads : ι → BusThread} {as : List (Act ι ι)} {w : World (EventBus ι) ι (BusPhase ι)}
    (hrun : exec (busStep threads) initialBus as = some w) :
    w.shared.subscribers.Nodup ∧
      (∀ k, k ∈ w.shared.subscribers ↔ w.phase k = .subscribed ∨ w.phase k = .reading) ∧
      ∀ k, (w.shared.events k).length ≤ maxQueuedEvents ∧
        ∀ envelope ∈ w.shared.given k, EventOrigin threads w.phase k envelope := by
  have hI := inv_of_run hrun
  exact ⟨hI.nodup, hI.listed, fun k => ⟨hI.bounded k, hI.origins k⟩⟩

/-- The first two events of a job. -/
def queuedEvent : EventEnvelope := ⟨"e1", "delivery_auth", "queued", "2026-01-01T08:00:01", .obj []⟩

def startedEvent : EventEnvelope := ⟨"e2", "delivery_auth", "started", "2026-01-01T08:00:02", .obj []⟩

/-- A request that is subscribed to the refresh jobs, and the calls that publish the first two events of a job. -/
def watchedRefresh : Option Bool → BusThread
  | none => .stream "delivery_auth" ⟨"c0", "2026-01-01T08:00:00"⟩ fun _ => ⟨"h0", "2026-01-01T08:00:15"⟩
  | some false => .publish queuedEvent
  | some true => .publish startedEvent

/-- The request subscribes and puts its first event. -/
def subscribes : List (Act (Option Bool) (Option Bool)) := [.next none, .next none]

/-- The event goes to the one subscriber there is. -/
def publishes (second : Bool) : List (Act (Option Bool) (Option Bool)) := List.replicate 3 (.next (some second))

theorem ownId_watchedRefresh (second : Bool) : OwnId watchedRefresh (some second) (if second then "e2" else "e1") where
  published := by
    rintro (_ | other) envelope hne h
    · cases h
    · cases second <;> cases other <;> cases h <;> simp [queuedEvent, startedEvent] at hne ⊢
  connected := by
    rintro (_ | other) query connected heartbeats h
    · cases second <;> cases h <;> simp
    · cases other <;> cases h
  heartbeat := by
    rintro (_ | other) query connected heartbeats n h
    · cases second <;> cases h <;> simp
    · cases other <;> cases h

theorem event_bus_invariant_watched : ∃ w, exec (busStep watchedRefresh) initialBus
    (subscribes ++ publishes false) = some w ∧
    w.shared.subscribers.Nodup ∧
      (∀ k, k ∈ w.shared.subscribers ↔ w.phase k = .subscribed ∨ w.phase k = .reading) ∧
      ∀ k, (w.shared.events k).length ≤ maxQueuedEvents ∧
        ∀ envelope ∈ w.shared.given k, EventOrigin watchedRefresh w.phase k envelope :=
  have hrun : exec (busStep watchedRefresh) initialBus (subscribes ++ publishes false) = some _ := rfl
  ⟨_, hrun, event_bus_invariant hrun⟩

open EventStreamAux in
/-- A call of `publish` that has returned gave its event at most once to each subscriber: once to those that were
subscribed when it began, on a topic of the event, and had room when the call came to them, and to no other. -/
theorem published_event_given_once {threads : ι → BusThread} {i : ι} {envelope : EventEnvelope}
    (hthread : threads i = .publish envelope) (hown : OwnId threads i envelope.id) {before during : List (Act ι ι)}
    {w₁ w₂ : World (EventBus ι) ι (BusPhase ι)} (hbefore : exec (busStep threads) initialBus before = some w₁)
    (hready : w₁.phase i = .ready) (hduring : exec (busStep threads) w₁ (.next i :: during) = some w₂)
    (hreturned : w₂.phase i = .published) (k : ι) :
    ((w₂.shared.given k).map (·.id)).count envelope.id ≤ 1 ∧
      (envelope.id ∈ (w₂.shared.given k).map (·.id) ↔
        k ∈ w₁.shared.subscribers ∧ envelope.topic ∈ (threads k).topics ∧
          Meets (busStep threads) (HasRoom i k) w₁ (.next i :: during)) := by
  have hI := inv_of_run hbefore
  obtain ⟨v, hstep, hlater⟩ := exec_cons_eq_some.1 hduring
  have hnone := timesGiven_of_ready (k := k) hI hown hthread hready
  have hcopied : v.phase i = .sending w₁.shared.subscribers ∧ v.shared = w₁.shared :=
    copied_moves (moves_of_step hstep) hthread hready
  have hmeets : Meets (busStep threads) (HasRoom i k) w₁ (.next i :: during) ↔
      Meets (busStep threads) (HasRoom i k) v during := by
    constructor
    · exact fun h => h.2 v hstep
    · refine fun h => ⟨fun _ rest hat => ?_, fun v' hv' => ?_⟩
      · rw [hready] at hat
        cases hat
      · rw [hstep] at hv'
        cases hv'
        exact h
  have hstart : timesGiven v k envelope.id = 0 := by
    rw [timesGiven, hcopied.2]
    exact hnone
  have hcount := timesGiven_of_sending (k := k) hown hthread hI.nodup hcopied.1 hlater hreturned
  rw [hstart] at hcount
  rw [hmeets, ← List.count_pos_iff]
  rcases hcount with ⟨hin, htopic, hroom, hlast⟩ | ⟨hnot, hlast⟩
  · have hone : ((w₂.shared.given k).map (·.id)).count envelope.id = 1 := hlast
    rw [hone]
    exact ⟨le_rfl, iff_of_true Nat.one_pos ⟨hin, htopic, hroom⟩⟩
  · have hzero : ((w₂.shared.given k).map (·.id)).count envelope.id = 0 := hlast
    rw [hzero]
    exact ⟨Nat.zero_le 1, iff_of_false (Nat.lt_irrefl 0) hnot⟩

/-- The first event of the job reaches the request that watches it. -/
theorem published_event_given_once_watched : ∃ w₁ w₂, exec (busStep watchedRefresh) initialBus subscribes = some w₁ ∧
    exec (busStep watchedRefresh) w₁ (publishes false) = some w₂ ∧
    ((w₂.shared.given none).map (·.id)).count "e1" ≤ 1 ∧
      ("e1" ∈ (w₂.shared.given none).map (·.id) ↔
        none ∈ w₁.shared.subscribers ∧ "delivery_auth" ∈ (watchedRefresh none).topics ∧
          Meets (busStep watchedRefresh) (HasRoom (some false) none) w₁ (publishes false)) :=
  have hthread : watchedRefresh (some false) = .publish queuedEvent := rfl
  have hbefore : exec (busStep watchedRefresh) initialBus subscribes = some _ := rfl
  ⟨_, _, hbefore, rfl, published_event_given_once hthread (ownId_watchedRefresh false) hbefore rfl rfl rfl none⟩

open EventStreamAux in
/-- No subscriber is given the event of a call before that of another call which had returned when the first one began. -/
theorem sequential_events_given_in_order {threads : ι → BusThread} {i j : ι} {first second : EventEnvelope}
    (hi : threads i = .publish first) (hj : threads j = .publish second) (hfirst : OwnId threads i first.id)
    (hsecond : OwnId threads j second.id) {before after : List (Act ι ι)} {w₁ w₂ : World (EventBus ι) ι (BusPhase ι)}
    (hbefore : exec (busStep threads) initialBus before = some w₁) (hreturned : w₁.phase i = .published)
    (hready : w₁.phase j = .ready) (hafter : exec (busStep threads) w₁ after = some w₂) (k : ι) :
    ¬[second.id, first.id].Sublist ((w₂.shared.given k).map (·.id)) := by
  obtain ⟨new, hgiven⟩ := given_grows hafter k
  have hnew : first.id ∉ new.map (·.id) := by
    obtain ⟨hsame, -⟩ := timesGiven_of_published (k := k) hfirst hi hreturned hafter
    rw [timesGiven, timesGiven, hgiven, List.map_append, List.count_append] at hsame
    exact List.count_eq_zero.1 (by omega)
  have hold : second.id ∉ (w₁.shared.given k).map (·.id) :=
    List.count_eq_zero.1 (timesGiven_of_ready (k := k) (inv_of_run hbefore) hsecond hj hready)
  rw [hgiven, List.map_append]
  intro hsub
  obtain ⟨l₁, l₂, hsplit, hsub₁, hsub₂⟩ := List.sublist_append_iff.1 hsub
  cases l₁ with
  | nil =>
    rw [List.nil_append] at hsplit
    exact hnew (hsub₂.subset (hsplit ▸ List.mem_cons_of_mem _ List.mem_cons_self))
  | cons id l₁ =>
    obtain ⟨rfl, -⟩ := List.cons.inj hsplit
    exact hold (hsub₁.subset List.mem_cons_self)

/-- The second event of the job comes after the first one. -/
theorem sequential_events_given_in_order_watched :
    ∃ w₁ w₂, exec (busStep watchedRefresh) initialBus (subscribes ++ publishes false) = some w₁ ∧
      exec (busStep watchedRefresh) w₁ (publishes true) = some w₂ ∧
      ¬["e2", "e1"].Sublist ((w₂.shared.given none).map (·.id)) :=
  have hfirst : watchedRefresh (some false) = .publish queuedEvent := rfl
  have hsecond : watchedRefresh (some true) = .publish startedEvent := rfl
  have hbefore : exec (busStep watchedRefresh) initialBus (subscribes ++ publishes false) = some _ := rfl
  have hafter : exec (busStep watchedRefresh) _ (publishes true) = some _ := rfl
  ⟨_, _, hbefore, hafter,
    sequential_events_given_in_order hfirst hsecond (ownId_watchedRefresh false) (ownId_watchedRefresh true) hbefore rfl
      rfl hafter none⟩

open EventStreamAux in
/-- A thread waits only while its request is stuck in `subscribe`, because 100 events came before its first one; it is
stuck for good then: it stays subscribed and its request never yields an event. -/
theorem stuck_subscribing_forever {threads : ι → BusThread} {as : List (Act ι ι)} {w : World (EventBus ι) ι (BusPhase ι)}
    (hrun : exec (busStep threads) initialBus as = some w) (k : ι) :
    (busStep threads w (.next k) = none ↔ w.phase k = .published ∨ w.phase k = .closed ∨ StuckSubscribing w k) ∧
      (StuckSubscribing w k → ∀ later w', exec (busStep threads) w later = some w' →
        StuckSubscribing w' k ∧ k ∈ w'.shared.subscribers ∧ w'.shared.yielded k = []) := by
  have hI := inv_of_run hrun
  refine ⟨next_eq_none_iff hI, fun hstuck later w' hlater => ?_⟩
  obtain ⟨hI', hstuck'⟩ := exec_invariant (I := fun v => Inv threads v ∧ StuckSubscribing v k)
    (fun v a v' hv hstep => ⟨inv_moves hv.1 (moves_of_step hstep), stuck_moves hv.1 hv.2 hstep⟩) ⟨hI, hstuck⟩ hlater
  exact ⟨hstuck', (hI'.listed k).2 (.inl hstuck'.1), hI'.unread k (.inr hstuck'.1)⟩

/-- A request that is subscribed to the refresh jobs, and as many calls as there are numbers that publish an event of a
job. -/
def crowdedRefresh : Option Nat → BusThread
  | none => .stream "delivery_auth" ⟨"c0", "2026-01-01T08:00:00"⟩ fun _ => ⟨"h0", "2026-01-01T08:00:15"⟩
  | some _ => .publish queuedEvent

/-- The request adds its subscriber, and before it goes on `n` calls publish their events. -/
def crowds : Nat → List (Act (Option Nat) (Option Nat))
  | 0 => [.next none]
  | n + 1 => crowds n ++ List.replicate 3 (.next (some n))

/-- The queue of the subscriber has taken the first hundred events of the calls, and the request has not gone on. -/
structure Crowded (n : Nat) (w : World (EventBus (Option Nat)) (Option Nat) (BusPhase (Option Nat))) : Prop where
  subscribers : w.shared.subscribers = [none]
  subscribed : w.phase none = .subscribed
  ready : ∀ m, n ≤ m → w.phase (some m) = .ready
  queued : (w.shared.events none).length = min n maxQueuedEvents

/-- One call more publishes its event. -/
theorem crowded_publishes {n : Nat} {w : World (EventBus (Option Nat)) (Option Nat) (BusPhase (Option Nat))}
    (h : Crowded n w) :
    ∃ w', exec (busStep crowdedRefresh) w (List.replicate 3 (.next (some n))) = some w' ∧ Crowded (n + 1) w' := by
  have hthread : crowdedRefresh (some n) = .publish queuedEvent := rfl
  have htopic : queuedEvent.topic ∈ (crowdedRefresh none).topics := by decide
  have hcopied : busStep crowdedRefresh w (.next (some n)) =
      some ⟨w.shared, Function.update w.phase (some n) (.sending [none])⟩ := by
    simp only [busStep, World.step, busNext, hthread, h.ready n le_rfl, publishNext, h.subscribers, Option.map_some]
  have hput : busStep crowdedRefresh ⟨w.shared, Function.update w.phase (some n) (.sending [none])⟩ (.next (some n)) =
      some ⟨w.shared.putNowait none queuedEvent, Function.update w.phase (some n) (.sending [])⟩ := by
    simp only [busStep, World.step, busNext, hthread, Function.update_self, publishNext]
    rw [if_pos htopic, Option.map_some, Function.update_idem]
  have hreturned : busStep crowdedRefresh ⟨w.shared.putNowait none queuedEvent,
    Function.update w.phase (some n) (.sending [])⟩
      (.next (some n)) = some ⟨w.shared.putNowait none queuedEvent, Function.update w.phase (some n) .published⟩ := by
    simp only [busStep, World.step, busNext, hthread, Function.update_self, publishNext, Option.map_some,
      Function.update_idem]
  have hplace : ∀ i, i ≠ some n → Function.update w.phase (some n) BusPhase.published i = w.phase i := fun i hi =>
    Function.update_of_ne hi _ _
  refine ⟨⟨w.shared.putNowait none queuedEvent, Function.update w.phase (some n) .published⟩, ?_, ?_, ?_, ?_, ?_⟩
  · exact exec_cons_eq_some.2 ⟨_, hcopied, exec_cons_eq_some.2 ⟨_, hput, exec_cons_eq_some.2 ⟨_, hreturned, rfl⟩⟩⟩
  · unfold EventBus.putNowait
    split <;> exact h.subscribers
  · exact (hplace none (Option.some_ne_none n).symm).trans h.subscribed
  · intro m hm
    have hne : some m ≠ some n := fun heq => absurd (Option.some.inj heq) (by omega)
    exact (hplace (some m) hne).trans (h.ready m (by omega))
  · have hqueued := h.queued
    show ((w.shared.putNowait none queuedEvent).events none).length = min (n + 1) maxQueuedEvents
    unfold EventBus.putNowait
    split
    · dsimp only
      rw [Function.update_self, List.length_append, List.length_singleton]
      omega
    · omega

/-- The request and the calls get as far as the queue is full. -/
theorem exists_crowded (n : Nat) : ∃ w, exec (busStep crowdedRefresh) initialBus (crowds n) = some w ∧ Crowded n w := by
  induction n with
  | zero => exact ⟨_, rfl, rfl, rfl, fun _ _ => rfl, rfl⟩
  | succ n ih =>
    obtain ⟨w, hrun, hcrowded⟩ := ih
    obtain ⟨w', hpublished, hcrowded'⟩ := crowded_publishes hcrowded
    refine ⟨w', ?_, hcrowded'⟩
    rw [crowds, exec_append, hrun]
    exact hpublished

/-- A hundred events come between the two steps of a request to `subscribe`: it is stuck. -/
theorem stuck_subscribing_forever_crowded : ∃ w, exec (busStep crowdedRefresh) initialBus (crowds 100) = some w ∧
    StuckSubscribing w none ∧ busStep crowdedRefresh w (.next none) = none ∧
      ∀ later w', exec (busStep crowdedRefresh) w later = some w' →
        StuckSubscribing w' none ∧ none ∈ w'.shared.subscribers ∧ w'.shared.yielded none = [] := by
  obtain ⟨w, hrun, hcrowded⟩ := exists_crowded 100
  have hstuck : StuckSubscribing w none := ⟨hcrowded.subscribed, hcrowded.queued.ge⟩
  obtain ⟨hwaits, hforever⟩ := stuck_subscribing_forever hrun none
  exact ⟨w, hrun, hstuck, hwaits.2 (.inr (.inr hstuck)), hforever hstuck⟩

end TeamsRehook
