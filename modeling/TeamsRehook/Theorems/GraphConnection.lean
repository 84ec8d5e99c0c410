import TeamsRehook.Delivery.GraphConnection
import TeamsRehook.Lib.Except

namespace TeamsRehook

/-! ## The pending Graph connection -/

/-- A pending id with which nothing can be confirmed any more: it was given out, and the row of the organization that
has it, when there is one, has expired. -/
def GraphConnectionState.Retired (x : GraphConnectionState) (organizationId pendingId : Nat) : Prop :=
  pendingId < x.db.nextId ∧
    ∀ pending ∈ x.db.pendings, pending.id = pendingId → pending.organizationId = organizationId →
    pending.expiresAt ≤ x.clock

/-- The request is made by an admin of the organization for that pending id. -/
def GraphConnectionRequest.Names (organizationId pendingId : Nat) : GraphConnectionRequest → Prop
  | .inspect o p | .confirm o p | .cancel o p => o = organizationId ∧ p = pendingId
  | .callback .. | .disconnect _ => False

/-- What a confirmed row leaves: a credential of its organization with exactly its values, the credentials of the other
organizations as they were, and every other pending row. -/
structure Promoted (pending : GraphDelegatedOAuthPendingCredential) (db db' : GraphConnections) : Prop where
  installed : ∃ credential, db'.delegatedCredential pending.organizationId = some credential ∧
    credential.tenantId = pending.tenantId ∧ credential.clientId = pending.clientId ∧ credential.scopes = pending.scopes ∧
    credential.encryptedRefreshToken = pending.encryptedRefreshToken ∧ credential.serviceUserId = pending.serviceUserId ∧
    credential.serviceUserDisplayName = pending.serviceUserDisplayName ∧
    credential.serviceUserPrincipalName = pending.serviceUserPrincipalName
  others : ∀ organizationId, organizationId ≠ pending.organizationId →
    db'.delegatedCredential organizationId = db.delegatedCredential organizationId
  removed : ∀ row, row ∈ db'.pendings ↔ row ∈ db.pendings ∧ row ≠ pending

/-- What is asked of a state that a sequence of requests leads to, and of the requests that may follow. -/
structure GraphConnectionLaw (P : Platform) (x : GraphConnectionState) : Prop where
  pendingUnique : Table.UniqueOn (·.organizationId) x.db.pendings
  credentialUnique : Table.UniqueOn (·.organizationId) x.db.credentials
  /-- A confirmation succeeds for a pending row of the organization that has not expired, and for nothing else. -/
  confirms : ∀ (call : GraphConnectionCall) organizationId pendingId x', call.request =
    .confirm organizationId pendingId → x.step P call = some x' → ((∃ reply, (call.handle P x.db).2 = .ok reply) ↔
      ∃ pending ∈ x.db.pendings, pending.id = pendingId ∧ pending.organizationId = organizationId ∧
        call.now' < pending.expiresAt)
  promotes : ∀ (call : GraphConnectionCall) organizationId pendingId x' reply, call.request =
    .confirm organizationId pendingId → x.step P call = some x' → (call.handle P x.db).2 = .ok reply →
    ∃ pending ∈ x.db.pendings, pending.id = pendingId ∧ pending.organizationId = organizationId ∧
    Promoted pending x.db x'.db
  failed : ∀ (call : GraphConnectionCall) x' e, x.step P call = some x' → (call.handle P x.db).2 = .error e →
    x'.db.credentials = x.db.credentials
  /-- The row a callback gives replaces the others of its organization. -/
  replaces : ∀ (call : GraphConnectionCall) organizationId verified code error out x' pendingId,
    call.request = .callback organizationId verified code error out → x.step P call = some x' →
    (call.handle P x.db).2 = .ok (.pendingRedirect pendingId) → x.db.nextId ≤ pendingId ∧
      ∃ pending : GraphDelegatedOAuthPendingCredential, pending.id = pendingId ∧ pending.organizationId = organizationId ∧
        pending.expiresAt = call.now + pendingCredentialTtl ∧
        ∀ row, row ∈ x'.db.pendings ↔ row = pending ∨ row ∈ x.db.pendings ∧ row.organizationId ≠ organizationId
  cancels : ∀ (call : GraphConnectionCall) organizationId pendingId x' reply, call.request =
    .cancel organizationId pendingId → x.step P call = some x' → (call.handle P x.db).2 = .ok reply →
    ∀ row ∈ x'.db.pendings, row.id ≠ pendingId
  /-- The id of a row is retired when the row has expired, for every organization but its own, and when the row is
  removed. -/
  retires : ∀ pending ∈ x.db.pendings, ∀ organizationId,
    (pending.expiresAt ≤ x.clock ∨ pending.organizationId ≠ organizationId → x.Retired organizationId pending.id) ∧
      ∀ call x', x.step P call = some x' → pending ∉ x'.db.pendings → x'.Retired organizationId pending.id
  /-- A retired id never changes a credential again. -/
  stale : ∀ organizationId pendingId, x.Retired organizationId pendingId → ∀ calls call y z,
    Transition.exec (GraphConnectionState.step P) x calls = some y → y.step P call = some z →
    call.request.Names organizationId pendingId → z.db.credentials = y.db.credentials

namespace GraphConnectionAux

variable {P : Platform} {s : Settings} {now now' : Int} {organizationId pendingId : Nat} {db : GraphConnections}
  {pending : GraphDelegatedOAuthPendingCredential}

/-- What holds of the tables in every state. -/
structure Sound (db : GraphConnections) : Prop where
  ids : Table.UniqueOn (·.id) db.pendings
  pendings : Table.UniqueOn (·.organizationId) db.pendings
  credentials : Table.UniqueOn (·.organizationId) db.credentials
  fresh : ∀ pending ∈ db.pendings, pending.id < db.nextId

/-! ### Rows -/

/-- A row that is found by its id is stored, has the id and belongs to the organization. -/
theorem mem_of_pendingById (h : db.pendingDelegatedCredentialById organizationId pendingId = some pending) :
    pending ∈ db.pendings ∧ pending.id = pendingId ∧ pending.organizationId = organizationId := by
  unfold GraphConnections.pendingDelegatedCredentialById at h
  split at h
  · rename_i row hfind
    split at h
    · nomatch h
    · rename_i horganization
      cases h
      exact ⟨List.mem_of_find?_eq_some hfind, by simpa using List.find?_some hfind, not_not.1 horganization⟩
  · nomatch h

/-- A stored row is the one found by its id and organization. -/
theorem pendingById_of_mem (hdb : Sound db) (hmem : pending ∈ db.pendings) :
    db.pendingDelegatedCredentialById pending.organizationId pending.id = some pending := by
  have hfind := hdb.ids.find?_eq_some hmem
  unfold GraphConnections.pendingDelegatedCredentialById
  simp [hfind]

theorem mem_deletePending (hdb : Sound db) (hmem : pending ∈ db.pendings) (row : GraphDelegatedOAuthPendingCredential) :
    row ∈ (db.deletePending pending).pendings ↔ row ∈ db.pendings ∧ row ≠ pending := by
  simp only [GraphConnections.deletePending, Table.mem_delete, beq_eq_false_iff_ne]
  constructor
  · rintro ⟨hrow, hid⟩
    exact ⟨hrow, fun heq => hid (heq ▸ rfl)⟩
  · rintro ⟨hrow, hne⟩
    exact ⟨hrow, fun hid => hne (hdb.ids.eq_of_mem hrow hmem hid)⟩

theorem Sound.deletePending (hdb : Sound db) (pending : GraphDelegatedOAuthPendingCredential) :
    Sound (db.deletePending pending) where
  ids := Table.uniqueOn_delete hdb.ids
  pendings := Table.uniqueOn_delete hdb.pendings
  credentials := hdb.credentials
  fresh row hrow := hdb.fresh row (Table.mem_delete.1 hrow).1

@[simp] theorem changeCredential_pendings (db : GraphConnections) (organizationId : Nat)
    (change : GraphDelegatedCredential → GraphDelegatedCredential) :
    (db.changeCredential organizationId change).pendings = db.pendings := by
  unfold GraphConnections.changeCredential
  split <;> rfl

@[simp] theorem changeCredential_nextId (db : GraphConnections) (organizationId : Nat)
    (change : GraphDelegatedCredential → GraphDelegatedCredential) :
    (db.changeCredential organizationId change).nextId = db.nextId := by
  unfold GraphConnections.changeCredential
  split <;> rfl

/-- Changing the credential of an organization keeps the pending rows and one credential for each organization. -/
theorem Sound.changeCredential (hdb : Sound db) (organizationId : Nat)
    {change : GraphDelegatedCredential → GraphDelegatedCredential}
    (hkeep : ∀ credential, (change credential).organizationId = credential.organizationId) :
    Sound (db.changeCredential organizationId change) := by
  unfold GraphConnections.changeCredential
  split
  · exact ⟨hdb.ids, hdb.pendings, Table.uniqueOn_update hdb.credentials hkeep, hdb.fresh⟩
  · rename_i hnone
    refine ⟨hdb.ids, hdb.pendings, Table.uniqueOn_append hdb.credentials ?_, hdb.fresh⟩
    intro credential hmem heq
    have := List.find?_eq_none.1 hnone credential hmem
    rw [hkeep] at heq
    simp [heq] at this

/-- The credential of the organization after a change is a changed one. -/
theorem credential_changeCredential (db : GraphConnections) (organizationId : Nat)
    {change : GraphDelegatedCredential → GraphDelegatedCredential}
    (hkeep : ∀ credential, (change credential).organizationId = credential.organizationId) :
    ∃ credential, (db.changeCredential organizationId change).delegatedCredential organizationId =
    some (change credential) := by
  unfold GraphConnections.changeCredential
  split
  · rename_i credential hfind
    refine ⟨credential, ?_⟩
    unfold GraphConnections.delegatedCredential at hfind ⊢
    have horganization : credential.organizationId = organizationId := by simpa using List.find?_some hfind
    rw [Table.find?_update (fun row => by rw [hkeep]), hfind]
    simp [horganization]
  · rename_i hnone
    refine ⟨{ organizationId := organizationId }, ?_⟩
    unfold GraphConnections.delegatedCredential at hnone ⊢
    rw [List.find?_append, hnone]
    simp [hkeep]

/-- The credentials of the other organizations are as they were. -/
theorem credential_changeCredential_of_ne (db : GraphConnections) {organizationId other : Nat}
    (hne : other ≠ organizationId) {change : GraphDelegatedCredential → GraphDelegatedCredential}
    (hkeep : ∀ credential, (change credential).organizationId = credential.organizationId) :
    (db.changeCredential organizationId change).delegatedCredential other = db.delegatedCredential other := by
  unfold GraphConnections.changeCredential
  split
  · unfold GraphConnections.delegatedCredential
    rw [Table.find?_update (fun row => by rw [hkeep])]
    cases hfind : db.credentials.find? (·.organizationId == other) with
    | none => rfl
    | some credential =>
      have horganization : credential.organizationId = other := by simpa using List.find?_some hfind
      simp [horganization, hne]
  · unfold GraphConnections.delegatedCredential
    rw [List.find?_append]
    simp [hkeep, hne.symm]

theorem keeps_promoted (pending : GraphDelegatedOAuthPendingCredential) (credential : GraphDelegatedCredential) :
    (credential.promoted pending).organizationId = credential.organizationId := rfl

/-- A row that is confirmed leaves its values in the credential, and is gone. -/
theorem promoted_promote (hdb : Sound db) (hmem : pending ∈ db.pendings) :
    Promoted pending db ((db.changeCredential pending.organizationId (·.promoted pending)).deletePending pending) where
  installed := by
    obtain ⟨credential, hcredential⟩ :=
      credential_changeCredential db pending.organizationId (keeps_promoted pending)
    exact ⟨credential.promoted pending, hcredential, rfl, rfl, rfl, rfl, rfl, rfl, rfl⟩
  others _ hne := credential_changeCredential_of_ne db hne fun _ => rfl
  removed row := by
    have hdb' := hdb.changeCredential pending.organizationId (keeps_promoted pending)
    have h := mem_deletePending hdb' (by simpa using hmem) row
    rwa [changeCredential_pendings] at h

/-! ### What a request does -/

/-- What a request can do to the tables. -/
inductive Effect (call : GraphConnectionCall) (db : GraphConnections) : GraphConnectionResult → Prop where
  /-- An answer without a change: the row that is inspected, or a callback that brings an error. -/
  | inspected {organizationId pendingId : Nat} (reply : GraphConnectionReply) (hrequest : call.request =
    .inspect organizationId pendingId) :
      Effect call db (db, .ok reply)
  | refused {organizationId : Nat} {verified : Except Exn Unit} {code error : String} {out : UrlOutcome}
      (hrequest : call.request = .callback organizationId verified code error out) :
      Effect call db (db, .ok .settingsRedirect)
  | raised (e : Exn) : Effect call db (db, .error e)
  /-- An expired row is dropped. -/
  | dropped {pending : GraphDelegatedOAuthPendingCredential} (e : Exn) (hmem : pending ∈ db.pendings) :
      Effect call db (db.deletePending pending, .error e)
  | connected (pending : GraphDelegatedOAuthPendingCredential) {verified : Except Exn Unit} {code error : String}
      {out : UrlOutcome}
      (hrequest : call.request = .callback pending.organizationId verified code error out) (hid : pending.id = db.nextId)
      (hexpires : pending.expiresAt = call.now + pendingCredentialTtl)
      (pendings : List GraphDelegatedOAuthPendingCredential) (hsub : pendings.Sublist db.pendings)
      (hothers : ∀ row, row ∈ pendings ↔ row ∈ db.pendings ∧ row.organizationId ≠ pending.organizationId) :
      Effect call db ({ db with pendings := pendings ++ [pending], nextId := db.nextId + 1 },
        .ok (.pendingRedirect pending.id))
  | confirmed {pending : GraphDelegatedOAuthPendingCredential} (hmem : pending ∈ db.pendings)
      (hlive : call.now' < pending.expiresAt) (hrequest : call.request = .confirm pending.organizationId pending.id) :
      Effect call db
        ((db.changeCredential pending.organizationId (·.promoted pending)).deletePending pending, .ok .adminReadiness)
  | cancelled {pending : GraphDelegatedOAuthPendingCredential} (hmem : pending ∈ db.pendings)
      (hrequest : call.request = .cancel pending.organizationId pending.id) :
      Effect call db (db.deletePending pending, .ok .noContent)
  | disconnected {organizationId : Nat} (hrequest : call.request = .disconnect organizationId) :
      Effect call db ({ db with credentials := Table.delete (·.organizationId == organizationId) db.credentials },
        .ok .noContent)

/-- The row of the organization is dropped before the new one is inserted. -/
theorem dropExisting_cases (hdb : Sound db) (organizationId : Nat) :
    ∃ pendings : List GraphDelegatedOAuthPendingCredential, pendings.Sublist db.pendings ∧
      (∀ row, row ∈ pendings ↔ row ∈ db.pendings ∧ row.organizationId ≠ organizationId) ∧
      db.dropExisting organizationId = { db with pendings := pendings } := by
  unfold GraphConnections.dropExisting
  split
  · rename_i existing hfind
    have hmem : existing ∈ db.pendings := List.mem_of_find?_eq_some hfind
    have horganization : existing.organizationId = organizationId := by
      unfold GraphConnections.pendingDelegatedCredential at hfind
      simpa using List.find?_some hfind
    refine ⟨(db.deletePending existing).pendings, List.filter_sublist, fun row => ?_, rfl⟩
    rw [mem_deletePending hdb hmem]
    refine and_congr_right fun hrow => not_congr ⟨fun heq => heq ▸ horganization, fun heq => ?_⟩
    exact hdb.pendings.eq_of_mem hrow hmem (heq.trans horganization.symm)
  · rename_i hnone
    refine ⟨db.pendings, List.Sublist.refl _, fun row => ⟨fun hrow => ⟨hrow, fun heq => ?_⟩, And.left⟩, rfl⟩
    have := List.find?_eq_none.1 hnone row hrow
    simp [heq] at this

theorem sound_empty : Sound {} := ⟨List.nodup_nil, List.nodup_nil, List.nodup_nil, fun _ h => nomatch h⟩

/-- The exchange of a code replaces the row of the organization by a fresh one. -/
theorem exchange_cases {out : UrlOutcome} {db' : GraphConnections} (hdb : Sound db)
    (h : exchangeAuthorizationCodeToPending P s now organizationId out db = .ok (db', pending)) :
    pending.organizationId = organizationId ∧ pending.id = db.nextId ∧ pending.expiresAt = now + pendingCredentialTtl ∧
      ∃ pendings : List GraphDelegatedOAuthPendingCredential, pendings.Sublist db.pendings ∧
        (∀ row, row ∈ pendings ↔ row ∈ db.pendings ∧ row.organizationId ≠ organizationId) ∧
        db' = { db with pendings := pendings ++ [pending], nextId := db.nextId + 1 } := by
  obtain ⟨pendings, hsub, hothers, hdropped⟩ := dropExisting_cases hdb organizationId
  unfold exchangeAuthorizationCodeToPending at h
  rw [hdropped] at h
  obtain ⟨-, -, h⟩ := Except.bind_eq_ok_iff.1 h
  obtain ⟨response, -, h⟩ := Except.bind_eq_ok_iff.1 h
  obtain ⟨refresh, -, h⟩ := Except.bind_eq_ok_iff.1 h
  obtain ⟨access, -, h⟩ := Except.bind_eq_ok_iff.1 h
  dsimp only at h
  split at h
  · nomatch h
  · obtain ⟨filled, -, h⟩ := Except.bind_eq_ok_iff.1 h
    split at h
    · nomatch h
    · cases h
      exact ⟨rfl, rfl, rfl, pendings, hsub, hothers, rfl⟩

/-- Looking at a pending row: there is none, it has expired and is dropped, or it is given. -/
theorem live_cases (now : Int) (organizationId pendingId : Nat) (db : GraphConnections) :
    (db.pendingDelegatedCredentialById organizationId pendingId = none ∧
        ∃ e, getLiveGraphDeliveryPending now organizationId pendingId db = (db, .error e)) ∨
      ∃ pending, db.pendingDelegatedCredentialById organizationId pendingId = some pending ∧
        (pending.expiresAt ≤ now ∧ (∃ e, getLiveGraphDeliveryPending now organizationId pendingId db =
          (db.deletePending pending, .error e)) ∨
          now < pending.expiresAt ∧ getLiveGraphDeliveryPending now organizationId pendingId db = (db, .ok pending)) := by
  unfold getLiveGraphDeliveryPending pendingCredentialIsExpired
  cases hfind : db.pendingDelegatedCredentialById organizationId pendingId with
  | none => exact .inl ⟨rfl, _, rfl⟩
  | some pending =>
    refine .inr ⟨pending, rfl, ?_⟩
    rcases le_or_gt pending.expiresAt now with hexpired | hlive
    · exact .inl ⟨hexpired, .http 404 "Pending delegated Graph connection expired.", by simp [hexpired]⟩
    · exact .inr ⟨hlive, by simp [not_le.2 hlive]⟩

/-- A confirmation of a pending row: it is carried out when the row is live at the second look, and raises otherwise. -/
theorem confirm_cases (now now' : Int) (organizationId pendingId : Nat) (db : GraphConnections) (hle : now ≤ now') :
    (∃ pending, db.pendingDelegatedCredentialById organizationId pendingId = some pending ∧ now' < pending.expiresAt ∧
        confirmGraphDeliveryOauthPending now now' organizationId pendingId db =
          ((db.changeCredential organizationId (·.promoted pending)).deletePending pending, .ok .adminReadiness)) ∨
      (∀ pending, db.pendingDelegatedCredentialById organizationId pendingId = some pending → pending.expiresAt ≤ now') ∧
        ∃ e, confirmGraphDeliveryOauthPending now now' organizationId pendingId db = (db, .error e) ∨
          ∃ pending, db.pendingDelegatedCredentialById organizationId pendingId = some pending ∧
            confirmGraphDeliveryOauthPending now now' organizationId pendingId db =
            (db.deletePending pending, .error e) := by
  unfold confirmGraphDeliveryOauthPending
  rcases live_cases now organizationId pendingId db with ⟨hnone, e, hlook⟩ | ⟨pending, hsome,
    ⟨hexpired, e, hlook⟩ | ⟨-, hlook⟩⟩
  · refine .inr ⟨fun pending hsome => ?_, e, .inl (by rw [hlook])⟩
    rw [hnone] at hsome
    nomatch hsome
  · refine .inr ⟨fun row hrow => ?_, e, .inr ⟨pending, hsome, by rw [hlook]⟩⟩
    rw [hsome] at hrow
    cases hrow
    exact hexpired.trans hle
  · rw [hlook]
    unfold promotePendingDelegatedCredential pendingCredentialIsExpired
    rcases le_or_gt pending.expiresAt now' with hexpired | hlive
    · refine .inr ⟨fun row hrow => ?_, .http 404 "Pending delegated Graph connection expired.", .inl ?_⟩
      · rw [hsome] at hrow
        cases hrow
        exact hexpired
      · simp [hsome, hexpired]
    · exact .inl ⟨pending, hsome, hlive, by simp [hsome, not_le.2 hlive]⟩

/-- Every request does one of the things listed. -/
theorem effect_handle (P : Platform) {call : GraphConnectionCall} (hdb : Sound db) (hle : call.now ≤ call.now') :
    Effect call db (call.handle P db) := by
  unfold GraphConnectionCall.handle
  split
  case h_1 organizationId verified code error out hrequest =>
    unfold graphDeliveryOauthCallback
    split
    · exact .raised _
    split_ifs
    · exact .refused hrequest
    · exact .raised _
    split
    · exact .raised _
    · exact .raised _
    · exact .raised _
    · exact .raised _
    · rename_i db' pending hexchange
      obtain ⟨rfl, hid, hexpires, pendings, hsub, hothers, rfl⟩ := exchange_cases hdb hexchange
      exact .connected pending hrequest hid hexpires pendings hsub hothers
  case h_2 organizationId pendingId hrequest =>
    unfold getGraphDeliveryOauthPending
    rcases live_cases call.now organizationId pendingId db with ⟨-, e, hlook⟩ | ⟨pending, hsome,
      ⟨-, e, hlook⟩ | ⟨-, hlook⟩⟩
    · rw [hlook]
      exact .raised e
    · rw [hlook]
      exact .dropped e (mem_of_pendingById hsome).1
    · rw [hlook]
      exact .inspected _ hrequest
  case h_3 organizationId pendingId hrequest =>
    rcases confirm_cases call.now call.now' organizationId pendingId db hle with
      ⟨pending, hsome, hlive, h⟩ | ⟨-, e, h | ⟨pending, hsome, h⟩⟩
    · rw [h]
      obtain ⟨hmem, rfl, rfl⟩ := mem_of_pendingById hsome
      exact .confirmed hmem hlive hrequest
    · rw [h]
      exact .raised e
    · rw [h]
      exact .dropped e (mem_of_pendingById hsome).1
  case h_4 organizationId pendingId hrequest =>
    unfold cancelGraphDeliveryOauthPending
    cases hsome : db.pendingDelegatedCredentialById organizationId pendingId with
    | none => exact .raised _
    | some pending =>
      obtain ⟨hmem, rfl, rfl⟩ := mem_of_pendingById hsome
      exact .cancelled hmem hrequest
  case h_5 organizationId hrequest => exact .disconnected hrequest

/-! ### Runs -/

theorem Sound.effect {call : GraphConnectionCall} {r : GraphConnectionResult} (hdb : Sound db) (h : Effect call db r) :
    Sound r.1 := by
  cases h with
  | inspected | refused | raised => exact hdb
  | dropped | cancelled => exact hdb.deletePending _
  | connected pending hrequest hid hexpires pendings hsub hothers =>
    refine ⟨?_, ?_, hdb.credentials, ?_⟩
    · refine Table.uniqueOn_append (List.Nodup.sublist (hsub.map _) hdb.ids) fun row hrow => ?_
      exact hid ▸ (hdb.fresh row (hsub.subset hrow)).ne
    · exact Table.uniqueOn_append (List.Nodup.sublist (hsub.map _) hdb.pendings) fun row hrow => ((hothers row).1 hrow).2
    · intro row hrow
      rcases List.mem_append.1 hrow with hold | hnew
      · exact Nat.lt_succ_of_lt (hdb.fresh row (hsub.subset hold))
      · rw [List.mem_singleton.1 hnew, hid]
        exact Nat.lt_succ_self _
  | @confirmed pending => exact (hdb.changeCredential _ (keeps_promoted pending)).deletePending _
  | disconnected => exact ⟨hdb.ids, hdb.pendings, Table.uniqueOn_delete hdb.credentials, hdb.fresh⟩

/-- The pending rows after a request were there before, or are fresh; no id is given out twice. -/
theorem pendings_effect {call : GraphConnectionCall} {r : GraphConnectionResult} (h : Effect call db r) :
    db.nextId ≤ r.1.nextId ∧ ∀ row ∈ r.1.pendings, row ∈ db.pendings ∨ row.id = db.nextId := by
  cases h with
  | inspected | refused | raised | disconnected => exact ⟨le_refl _, fun row hrow => .inl hrow⟩
  | dropped | cancelled => exact ⟨le_refl _, fun row hrow => .inl (Table.mem_delete.1 hrow).1⟩
  | connected pending hrequest hid hexpires pendings hsub =>
    refine ⟨Nat.le_succ _, fun row hrow => ?_⟩
    rcases List.mem_append.1 hrow with hold | hnew
    · exact .inl (hsub.subset hold)
    · exact .inr (List.mem_singleton.1 hnew ▸ hid)
  | confirmed =>
    refine ⟨by simp [GraphConnections.deletePending], fun row hrow => .inl ?_⟩
    simpa using (Table.mem_delete.1 hrow).1

/-- A request that raises leaves the credentials. -/
theorem credentials_of_error {call : GraphConnectionCall} {r : GraphConnectionResult} (h : Effect call db r) {e : Exn}
    (herror : r.2 = .error e) : r.1.credentials = db.credentials := by
  cases h with
  | raised | dropped => rfl
  | inspected | refused | connected | confirmed | cancelled | disconnected => nomatch herror

/-- A step handles one request, at a time that is not over. -/
theorem step_eq_some {x x' : GraphConnectionState} {call : GraphConnectionCall} (h : x.step P call = some x') :
    x.clock ≤ call.now ∧ call.now ≤ call.now' ∧ x' = { db := (call.handle P x.db).1, clock := call.now' } := by
  unfold GraphConnectionState.step at h
  split at h
  · rename_i hclock
    cases h
    exact ⟨hclock.1, hclock.2, rfl⟩
  · nomatch h

theorem sound_of_run {x y : GraphConnectionState} {calls : List GraphConnectionCall} (hdb : Sound x.db)
    (hrun : Transition.exec (GraphConnectionState.step P) x calls = some y) : Sound y.db := by
  refine Transition.exec_invariant (I := fun x => Sound x.db) ?_ hdb hrun
  intro x call x' hdb hstep
  obtain ⟨-, hle, rfl⟩ := step_eq_some hstep
  exact hdb.effect (effect_handle P hdb hle)

/-- A retired id stays retired. -/
theorem retired_step {x x' : GraphConnectionState} {call : GraphConnectionCall} (hdb : Sound x.db)
    (hretired : x.Retired organizationId pendingId) (hstep : x.step P call = some x') :
    x'.Retired organizationId pendingId := by
  obtain ⟨hclock, hle, rfl⟩ := step_eq_some hstep
  obtain ⟨hnext, hrows⟩ := pendings_effect (effect_handle P hdb hle)
  refine ⟨hretired.1.trans_le hnext, fun row hrow hid horganization => ?_⟩
  rcases hrows row hrow with hold | hnew
  · exact (hretired.2 row hold hid horganization).trans (hclock.trans hle)
  · exact absurd (hid.symm.trans hnew) hretired.1.ne

theorem retired_of_run {x y : GraphConnectionState} {calls : List GraphConnectionCall} (hdb : Sound x.db)
    (hretired : x.Retired organizationId pendingId)
    (hrun : Transition.exec (GraphConnectionState.step P) x calls = some y) :
    y.Retired organizationId pendingId := by
  refine (Transition.exec_invariant (I := fun x => Sound x.db ∧ x.Retired organizationId pendingId) ?_ ⟨hdb,
    hretired⟩ hrun).2
  rintro x call x' ⟨hdb, hretired⟩ hstep
  exact ⟨sound_of_run hdb (Transition.exec_cons_eq_some.2 ⟨x', hstep, Transition.exec_nil _ _⟩),
    retired_step hdb hretired hstep⟩

/-- A request for a retired id leaves the credentials. -/
theorem credentials_of_retired {x x' : GraphConnectionState} {call : GraphConnectionCall} (hdb : Sound x.db)
    (hretired : x.Retired organizationId pendingId) (hnames : call.request.Names organizationId pendingId)
    (hstep : x.step P call = some x') : x'.db.credentials = x.db.credentials := by
  obtain ⟨hclock, hle, rfl⟩ := step_eq_some hstep
  have heffect := effect_handle P hdb hle
  generalize call.handle P x.db = r at heffect
  cases heffect with
  | inspected | refused | raised | dropped | connected | cancelled => rfl
  | confirmed hmem hlive hrequest =>
    rw [hrequest] at hnames
    have hexpired := hretired.2 _ hmem hnames.2 hnames.1
    omega
  | disconnected hrequest =>
    rw [hrequest] at hnames
    exact hnames.elim

end GraphConnectionAux

/-- Two callbacks, of which the second replaces the row of the first, and a confirmation of each row. -/
def connectTwice : List GraphConnectionCall :=
  [{ request := .callback 1 (.ok ()) "code" "" (.response 200 (.body [])), settings := registeredApp, now := 0,
     now' := 0 },
    { request := .callback 1 (.ok ()) "code" "" (.response 200 (.body [])), settings := registeredApp, now := 1,
      now' := 1 },
    { request := .confirm 1 1, settings := registeredApp, now := 2, now' := 3 },
    { request := .confirm 1 2, settings := registeredApp, now := 4, now' := 5 }]

end TeamsRehook
