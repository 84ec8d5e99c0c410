import TeamsRehook.Webhook.RelaySessions
import TeamsRehook.Webhook.History
import TeamsRehook.Lemmas.Webhook

namespace TeamsRehook

/-! ## One delivery for each key -/

namespace AtMostOnceAux

open Processes

variable {ι : Type} {P : Platform} {s : Settings} {R : KeyedRequests ι} {x : RelaySessions ι} {i : ι} {p : RelayPhase}

/-- A request that has inserted the event, or found it to take it over, and whatever comes after that. -/
def Claims : RelayPhase → Prop
  | .inserted _ | .found _ | .reserved _ | .delivering _ | .finished => True
  | .idle | .missed | .conflicted | .answered | .crashed => False

/-- An event of the route with the key in its key column. -/
def HasKey (R : KeyedRequests ι) (e : WebhookDeliveryEvent) : Prop :=
  e.routeId = some R.route.id ∧ e.idempotencyKey = some R.key

/-- Such an event is committed. -/
def KeyStored (R : KeyedRequests ι) (events : List WebhookDeliveryEvent) : Prop := ∃ e ∈ events, HasKey R e

/-- An event with the key in its metadata only is committed. -/
def LegacyStored (R : KeyedRequests ι) (events : List WebhookDeliveryEvent) : Prop :=
  ∃ e ∈ events, legacyEvent R.route R.key e = true

/-- What a request would write to the metadata of its event has the key. -/
def MetadataHasKey (R : KeyedRequests ι) (d : Reserved) : Prop :=
  Json.lookup "idempotency_key" d.requestMetadata = some (.str R.key)

/-- What holds of a request in a phase. One that is about to insert found no event with the key in its metadata only,
unless the key is stored by now; one that has inserted holds the lock; one that has found or reserved the delivery has
an event to show for it. -/
def PhaseOk (R : KeyedRequests ι) (events : List WebhookDeliveryEvent) (lock : Option ι) (i : ι) : RelayPhase → Prop
  | .missed => KeyStored R events ∨ ¬LegacyStored R events
  | .inserted d => lock = some i ∧ HasKey R d.event ∧ MetadataHasKey R d ∧ ¬LegacyStored R events
  | .found d | .reserved d | .delivering d => MetadataHasKey R d ∧ (KeyStored R events ∨ LegacyStored R events)
  | .finished => KeyStored R events ∨ LegacyStored R events
  | .idle | .conflicted | .answered | .crashed => True

/-- What holds in every state of a run in which deliveries are taken over from crashed requests only. -/
structure Inv (R : KeyedRequests ι) (x : RelaySessions ι) : Prop where
  claims : AtMostOne Claims x.phase
  phases : ∀ i, PhaseOk R x.db.events x.lock i (x.phase i)

/-- What a transaction may do to the events while request `i` looks on: a stored key stays, and so does an event to show
for a delivery; where none has the key in its metadata only, none gets it, unless the key is stored. -/
structure Keeps (R : KeyedRequests ι) (events events' : List WebhookDeliveryEvent) : Prop where
  key : KeyStored R events → KeyStored R events'
  shown : KeyStored R events ∨ LegacyStored R events → KeyStored R events' ∨ LegacyStored R events'
  missed : KeyStored R events ∨ ¬LegacyStored R events → KeyStored R events' ∨ ¬LegacyStored R events'

theorem Keeps.refl (R : KeyedRequests ι) (events : List WebhookDeliveryEvent) : Keeps R events events := ⟨id, id, id⟩

/-- Where the key is stored in the end, everything is kept. -/
theorem Keeps.of_keyStored {events events' : List WebhookDeliveryEvent} (h : KeyStored R events') :
    Keeps R events events' :=
  ⟨fun _ => h, fun _ => .inl h, fun _ => .inl h⟩

/-- What holds of a request still holds after a transaction of another one: it keeps the lock of the request, and leaves
the events alone while the request holds it. -/
theorem phaseOk_of_keeps {events events' : List WebhookDeliveryEvent} {lock lock' : Option ι}
    (hevents : Keeps R events events') (hlock : lock = some i → lock' = some i ∧ events' = events)
    (h : PhaseOk R events lock i p) : PhaseOk R events' lock' i p := by
  cases p with
  | missed => exact hevents.missed h
  | inserted d =>
    obtain ⟨hl, hkey, hmeta, hnone⟩ := h
    obtain ⟨hl', rfl⟩ := hlock hl
    exact ⟨hl', hkey, hmeta, hnone⟩
  | found | reserved | delivering => exact ⟨h.1, hevents.shown h.2⟩
  | finished => exact hevents.shown h
  | idle | conflicted | answered | crashed => trivial

/-- Without a lock, only a request that owns the reservation claims it. -/
theorem Inv.owns_of_claims (hI : Inv R x) (hlock : x.lock = none) {j : ι} (hj : Claims (x.phase j)) :
    (x.phase j).Owns := by
  have hok := hI.phases j
  revert hj hok
  cases x.phase j with
  | inserted d =>
    intro _ hok
    rw [hlock] at hok
    cases hok.1
  | found | reserved | delivering | finished => exact fun _ _ => trivial
  | idle | missed | conflicted | answered | crashed => exact fun h _ => h.elim

/-- Where a request owns the reservation, an event shows it. -/
theorem Inv.stored (hI : Inv R x) {j : ι} (hj : (x.phase j).Owns) :
    KeyStored R x.db.events ∨ LegacyStored R x.db.events := by
  have hok := hI.phases j
  revert hj hok
  cases x.phase j with
  | found | reserved | delivering => exact fun _ hok => hok.2
  | finished => exact fun _ hok => hok
  | idle | missed | inserted | conflicted | answered | crashed => exact fun h _ => h.elim

variable [DecidableEq ι]

/-- One request moves, and its transaction may take or end the lock and commit. -/
theorem Inv.move (hI : Inv R x) (i : ι) (p : RelayPhase) (db : Database) (lock : Option ι)
    (hclaims : AtMostOne Claims (Function.update x.phase i p)) (hok : PhaseOk R db.events lock i p)
    (hevents : Keeps R x.db.events db.events)
    (hlock : ∀ j, j ≠ i → x.lock = some j → lock = some j ∧ db.events = x.db.events) :
    Inv R { x.to i p with db := db, lock := lock } where
  claims := hclaims
  phases := forall_move (fun j hj => phaseOk_of_keeps hevents (hlock j hj) (hI.phases j)) hok

/-- One request moves, and nothing is committed. -/
theorem Inv.to (hI : Inv R x) (p : RelayPhase) (hp : Claims p → Claims (x.phase i))
    (hok : PhaseOk R x.db.events x.lock i p) : Inv R (x.to i p) :=
  hI.move i p x.db x.lock (hI.claims.move hp) hok (.refl R _) fun _ _ h => ⟨h, rfl⟩

/-- A request that ends outside of the claims lets go of the lock. -/
theorem Inv.leave (hI : Inv R x) (hp : ¬Claims p) (hok : ∀ lock, PhaseOk R x.db.events lock i p) :
    Inv R { x.to i p with lock := if x.lock = some i then none else x.lock } := by
  refine hI.move i p x.db _ (hI.claims.move fun h => absurd h hp) (hok _) (.refl R _) ?_
  intro j hj hl
  refine ⟨?_, rfl⟩
  rw [if_neg, hl]
  rw [hl]
  simpa using hj

/-- A delivery that is to be sent is the pending one that was found, and it is stale. -/
theorem outcome_eq_true {now : Int} {e delivery : WebhookDeliveryEvent}
    (h : idempotentDeliveryOutcome now e = .ok (delivery, true)) :
    delivery = e ∧ e.status = .pending ∧ pendingDeliveryIsStale now e = true := by
  unfold idempotentDeliveryOutcome at h
  split at h
  · cases h
  · split at h
    · cases h
    · rename_i hnot
      have hpending : e.status = .pending := by
        have := (Prod.mk.inj (Except.ok.inj h)).2
        simpa using this
      refine ⟨(Prod.mk.inj (Except.ok.inj h)).1.symm, hpending, ?_⟩
      by_contra hstale
      exact hnot ⟨hpending, by simpa using hstale⟩

/-- A lookup keeps the invariant when it takes a delivery over from crashed requests only. -/
theorem inv_lookUp {x' : RelaySessions ι} {missing : RelayPhase} (hI : Inv R x) (hmissing : ¬Claims missing)
    (hguard : OwnersCrashed R x (.find i)) (h : lookUp R x i missing = some x')
    (hmissed : ¬LegacyStored R x.db.events → PhaseOk R x.db.events x.lock i missing) : Inv R x' := by
  have hout : ∀ p, ¬Claims p → PhaseOk R x.db.events x.lock i p → Inv R (x.to i p) := fun p hp hok =>
    hI.to p (fun hc => absurd hc hp) hok
  unfold lookUp at h
  split at h
  · cases h
  · rename_i hfree
    cases hfind : findIdempotentDelivery x.db.events R.route R.key with
    | none =>
      simp only [hfind, Option.some.injEq] at h
      subst h
      refine hout missing hmissing (hmissed ?_)
      rintro ⟨e, he, hl⟩
      rw [(findIdempotentDelivery_eq_none.1 hfind e he).2] at hl
      cases hl
    | some e =>
      simp only [hfind] at h
      cases hout' : idempotentDeliveryOutcome x.now e with
      | error err =>
        simp only [hout', Option.some.injEq] at h
        subst h
        exact hout .answered id trivial
      | ok r =>
        obtain ⟨delivery, shouldDeliver⟩ := r
        cases shouldDeliver with
        | false =>
          simp only [hout', Option.some.injEq] at h
          subst h
          exact hout .answered id trivial
        | true =>
          simp only [hout', Option.some.injEq] at h
          subst h
          obtain ⟨rfl, hpending, hstale⟩ := outcome_eq_true hout'
          have hcrashed := hguard delivery hfind hpending hstale
          obtain ⟨hmem, hk | ⟨hl, hunkeyed⟩⟩ := findIdempotentDelivery_eq_some hfind
          · -- the event has the key in its column, so it was not locked
            have hlock : x.lock = none := by
              by_contra hne
              exact hfree ⟨hne, List.any_eq_true.2 ⟨delivery, hmem, hk⟩⟩
            obtain ⟨hof, hcol⟩ := keyedEvent_iff.1 hk
            have hstored : KeyStored R x.db.events := ⟨delivery, hmem, (ofRoute_iff.1 hof).1, hcol⟩
            refine hI.move i _ x.db _ (AtMostOne.enter fun j hj hc => ?_) ⟨R.metadata_key i, .inl hstored⟩ (.refl R _) ?_
            · exact hcrashed j hj (hI.owns_of_claims hlock hc)
            · intro j _ hl
              rw [hlock] at hl
              cases hl
          · -- the event has the key in its metadata only and is not locked; nobody has inserted one
            have hstored : LegacyStored R x.db.events := ⟨delivery, hmem, hl⟩
            refine hI.move i _ x.db _ (AtMostOne.enter fun j hj hc => ?_) ⟨R.metadata_key i, .inr hstored⟩ (.refl R _) ?_
            · have hok := hI.phases j
              have hcr := hcrashed j hj
              revert hc hok hcr
              cases x.phase j with
              | inserted d => exact fun _ hok _ => hok.2.2.2 hstored
              | found | reserved | delivering | finished => exact fun _ _ hcr => hcr trivial
              | idle | missed | conflicted | answered | crashed => exact fun hc _ _ => hc
            · intro j _ hlj
              rw [if_neg (by simp [hunkeyed delivery hmem])]
              exact ⟨hlj, rfl⟩

/-- An insert enters the claims: nobody holds the lock, and no committed event has the key. -/
theorem inv_insert {x' : RelaySessions ι} (hI : Inv R x) (h : relayStep P s R x (.insert i) = some x') : Inv R x' := by
  simp only [relayStep] at h
  split at h
  · rename_i hphase
    have hmissed := hI.phases i
    rw [hphase] at hmissed
    have hevent : HasKey R (insertedEvent R x i) := ⟨by simp only [insertedEvent, newEvent, Option.map_some], by
      simp only [insertedEvent, newEvent, pendingFields]⟩
    have hconflict : KeyStored R x.db.events → x.db.events.any (insertedEvent R x i).conflictsWith = true := by
      rintro ⟨e, he, hroute, hcol⟩
      refine List.any_eq_true.2 ⟨e, he, ?_⟩
      simp [WebhookDeliveryEvent.conflictsWith, hevent.1, hevent.2, hroute, hcol]
    split at h
    · cases h
      exact hI.to _ (fun hc => hc.elim) trivial
    · rename_i hfree
      have hnokey : ¬KeyStored R x.db.events := fun hstored => hfree (hconflict hstored)
      have hnone : ¬LegacyStored R x.db.events := hmissed.resolve_left hnokey
      split at h
      · cases h
      · rename_i hlock
        have hlock : x.lock = none := not_not.1 hlock
        cases h
        refine hI.move i _ { x.db with nextId := x.db.nextId + 1 } _ (AtMostOne.enter fun j _ hc => ?_)
          ⟨rfl, hevent, R.metadata_key i, hnone⟩ (.refl R _) ?_
        · exact (hI.stored (hI.owns_of_claims hlock hc)).elim hnokey hnone
        · intro j _ hl
          rw [hlock] at hl
          cases hl
  · cases h

/-- A commit stores the key. -/
theorem inv_commit {x' : RelaySessions ι} (hI : Inv R x) (h : relayStep P s R x (.commit i) = some x') : Inv R x' := by
  simp only [relayStep] at h
  split at h
  · rename_i d hphase
    have hok := hI.phases i
    rw [hphase] at hok
    obtain ⟨hlock, hkey, hmeta, -⟩ := hok
    cases h
    have hstored : KeyStored R (x.db.events ++ [d.event]) := ⟨d.event, List.mem_append_right _ List.mem_cons_self, hkey⟩
    refine hI.move i _ { x.db with events := x.db.events ++ [d.event] } none (hI.claims.move fun _ =>
      by rw [hphase]; trivial)
      ⟨hmeta, .inl hstored⟩ (.of_keyStored hstored) fun j hj hl => ?_
    rw [hlock] at hl
    exact absurd (Option.some.inj hl).symm hj
  · rename_i d hphase
    have hok := hI.phases i
    rw [hphase] at hok
    cases h
    refine hI.move i _ x.db _ (hI.claims.move fun _ => by rw [hphase]; trivial) hok (.refl R _) fun j hj hl => ⟨?_, rfl⟩
    rw [if_neg, hl]
    rw [hl]
    simpa using hj
  · cases h

omit [DecidableEq ι] in
/-- An event that shows a delivery still does when it is finished by a request with the key in its metadata. -/
theorem keeps_finish {events : List WebhookDeliveryEvent} {d : Reserved} {sent : Sent}
    (hkey : ∀ c ∈ R.key.toList, idempotencyKeyChar c = true) (hmeta : MetadataHasKey R d)
    (hstored : KeyStored R events ∨ LegacyStored R events) :
    Keeps R events (Table.update (·.id == d.event.id) (finishEvent d sent) events) := by
  have hk : KeyStored R events → KeyStored R (Table.update (·.id == d.event.id) (finishEvent d sent) events) := by
    rintro ⟨e, he, h⟩
    exact ⟨_, Table.mem_update.2 ⟨e, he, rfl⟩, by split <;> exact h⟩
  have hl : LegacyStored R events → LegacyStored R (Table.update (·.id == d.event.id) (finishEvent d sent) events) := by
    rintro ⟨e, he, h⟩
    refine ⟨_, Table.mem_update.2 ⟨e, he, rfl⟩, ?_⟩
    split
    · obtain ⟨hof, hcol, -⟩ := (legacyEvent_iff hkey).1 h
      refine (legacyEvent_iff hkey).2 ⟨hof, hcol, ?_⟩
      simp [WebhookDeliveryEvent.metadataKeyIs, finishEvent, show Json.lookup _ _ = _ from hmeta]
    · exact h
  exact ⟨hk, Or.imp hk hl, fun hmissed => .inl (hk (hmissed.elim id fun hnone => hstored.resolve_right hnone))⟩

/-- Recording a delivery leaves an event to show for it. -/
theorem inv_finish {x' : RelaySessions ι} {run : ProviderRun} (hkey : ∀ c ∈ R.key.toList, idempotencyKeyChar c = true)
    (hI : Inv R x) (h : relayStep P s R x (.finish i run) = some x') : Inv R x' := by
  simp only [relayStep] at h
  split at h
  · rename_i d hphase
    have hok := hI.phases i
    rw [hphase] at hok
    obtain ⟨hmeta, hstored⟩ := hok
    have hclaims : AtMostOne Claims (Function.update x.phase i .finished) :=
      hI.claims.move fun _ => by rw [hphase]; trivial
    split at h
    · cases h
      exact hI.to _ (fun _ => by rw [hphase]; trivial) hstored
    · split at h
      · cases h
      · rename_i hlock
        have hlock : x.lock = none := not_not.1 hlock
        cases h
        have hkeeps : Keeps R x.db.events (complete P s { run with sentAt := x.now } d x.db).1.events := by
          obtain hc | ⟨sent, credentials, -, hflush⟩ := complete_cases P s { run with sentAt := x.now } d x.db
          · rw [hc]
            exact .refl R _
          · rw [flushDelivery_ok hflush]
            exact keeps_finish hkey hmeta hstored
        refine hI.move i _ _ x.lock hclaims (hkeeps.shown hstored) hkeeps fun j _ hl => ?_
        rw [hlock] at hl
        cases hl
  · cases h

/-- Every step keeps the invariant when a delivery is taken over from crashed requests only. -/
theorem inv_step (hkey : ∀ c ∈ R.key.toList, idempotencyKeyChar c = true) (x : RelaySessions ι) (a : RelayAct ι)
    (x' : RelaySessions ι) (hI : Inv R x) (hguard : OwnersCrashed R x a) (h : relayStep P s R x a = some x') :
    Inv R x' := by
  cases a with
  | tick now =>
    simp only [relayStep] at h
    split at h
    · cases h
      exact ⟨hI.claims, hI.phases⟩
    · cases h
  | find i =>
    simp only [relayStep] at h
    split at h
    · exact inv_lookUp hI id hguard h fun hnone => Or.inr hnone
    · exact inv_lookUp hI id hguard h fun _ => trivial
    · cases h
  | insert i => exact inv_insert hI h
  | commit i => exact inv_commit hI h
  | deliver i =>
    simp only [relayStep] at h
    split at h
    · rename_i d hphase
      have hok := hI.phases i
      rw [hphase] at hok
      cases h
      exact hI.to _ (fun _ => by rw [hphase]; trivial) hok
    · cases h
  | finish i run => exact inv_finish hkey hI h
  | crash i =>
    simp only [relayStep] at h
    split at h
    · cases h
    · cases h
    · cases h
    · cases h
      exact hI.leave id fun _ => trivial

omit [DecidableEq ι] in
/-- Nothing is claimed before the requests begin. -/
theorem inv_initial (R : KeyedRequests ι) (db : Database) (now : Int) : Inv R (.initial db now) where
  claims := atMostOne_of_none fun _ => id
  phases _ := trivial

end AtMostOnceAux

open AtMostOnceAux Transition in
/-- Any number of requests for one route with one key, on any tables, in any interleaving of their transactions and
their calls of the services: at every moment at most one request that did not crash has called `_deliver_to_route` — in
every run in which a stale delivery is taken over only when every request that has found it stale before, or reserved
it, crashed. -/
theorem relayed_at_most_once {ι : Type} [DecidableEq ι] (P : Platform) (s : Settings) (R : KeyedRequests ι)
    (header : String) (hkey : R.key = requestIdempotencyKey header) (db : Database) (now : Int)
    (acts : List (RelayAct ι)) (x : RelaySessions ι) (hrun : exec (relayStep P s R) (.initial db now) acts = some x)
    (hcrashed : Meets (relayStep P s R) (OwnersCrashed R) (.initial db now) acts) :
    ∀ i j, (x.phase i).Delivers → (x.phase j).Delivers → i = j := by
  have hchars : ∀ c ∈ R.key.toList, idempotencyKeyChar c = true := hkey ▸ requestIdempotencyKey_chars header
  have hI := exec_invariant_of_meets (inv_step hchars) (inv_initial R db now) hcrashed hrun
  have hclaims : ∀ p : RelayPhase, p.Delivers → Claims p := by
    rintro (_ | _ | _ | _ | _ | _ | _ | _ | _ | _) hp
    all_goals first | exact hp.elim | trivial
  exact fun i j hi hj => hI.claims i j (hclaims _ hi) (hclaims _ hj)

/-- Requests for the route of the fixed inputs. -/
def alertsRequests : KeyedRequests (Fin 3) where
  route := alertsRoute
  key := "order-0001"
  requestMetadata _ := [("idempotency_key", .str "order-0001")]
  message _ := { title := "Webhook message", text := "Disk full", rawType := "text" }
  metadata_key _ := rfl

/-- A request crashes after its reservation, and one retry after 16 minutes delivers; another one, after that, is
answered. -/
def oneRetry : List (RelayAct (Fin 3)) :=
  [.find 0, .insert 0, .commit 0, .crash 0, .tick (minutes 16), .find 1, .commit 1, .deliver 1,
    .finish 1 (mockRun 0), .find 2]

/-- One request delivers. -/
theorem relayed_at_most_once_oneRetry :
    ∃ x, Transition.exec (relayStep .plain { botDeliveryMode := "mock" } alertsRequests)
        (.initial alertsState.db 0) oneRetry = some x ∧
      ∀ i j, (x.phase i).Delivers → (x.phase j).Delivers → i = j :=
  ⟨_, rfl, relayed_at_most_once .plain { botDeliveryMode := "mock" } alertsRequests "order-0001" (by decide)
    alertsState.db 0 oneRetry _ rfl (by decide)⟩

/-- A request crashes after its reservation, and two retries after 16 minutes. -/
def twoRetries : List (RelayAct (Fin 3)) :=
  [.find 0, .insert 0, .commit 0, .crash 0, .tick (minutes 16), .find 1, .commit 1, .find 2, .commit 2,
    .deliver 1, .deliver 2]

/-- Both of them deliver: a reservation that is taken over stays stale. -/
theorem relayed_twice_twoRetries :
    ∃ x, Transition.exec (relayStep .plain { botDeliveryMode := "mock" } alertsRequests)
        (.initial alertsState.db 0) twoRetries = some x ∧
      (x.phase 1).Delivers ∧ (x.phase 2).Delivers :=
  ⟨_, rfl, by decide, by decide⟩

end TeamsRehook
