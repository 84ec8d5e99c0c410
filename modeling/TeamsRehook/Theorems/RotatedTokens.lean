import TeamsRehook.Delivery.DelegatedLookup
import TeamsRehook.Lemmas.Targets
import TeamsRehook.Lemmas.Delivery
import TeamsRehook.Lemmas.Webhook

namespace TeamsRehook

/-! ## Refresh tokens that the token endpoint has replaced -/

/-- The refresh token that the token endpoint answers with. -/
def answeredRefreshToken (P : Platform) (out : UrlOutcome) : Option String :=
  match requestToken P out with
  | .ok (.obj members) =>
    let token := strOf P (member "refresh_token" (.str "") members)
    if token = "" then none else some token
  | _ => none

/-- The status as which a refresh is classified that gives no token. -/
def classifiedStatus (P : Platform) (out : UrlOutcome) : Option String :=
  match requestToken P out with
  | .ok (.obj members) => if strOf P (member "access_token" (.str "") members) = "" then some "token_error" else none
  | .error (.expiredRefreshToken _) => some "expired"
  | .error (.graphDelegatedAuth _) => some "token_error"
  | _ => none

/-- The row says what the token endpoint answered: it holds the new refresh token, or the status of a refresh without a
token. -/
structure Reflects (P : Platform) (s : Settings) (out : UrlOutcome) (row : GraphDelegatedCredential) : Prop where
  token : ∀ token, answeredRefreshToken P out = some token → decryptSecret P s row.encryptedRefreshToken = .ok token
  status : ∀ status, classifiedStatus P out = some status → row.lastStatus = status

/-- The credential whose refresh token is sent to the token endpoint. -/
def sentCredential (P : Platform) (s : Settings) (organizationId : Nat) (credentials : List GraphDelegatedCredential) :
    Option GraphDelegatedCredential :=
  if missingAppRegistration s ≠ [] then none
  else
    match credentials.find? (·.organizationId == organizationId) with
    | none => none
    | some credential =>
      if credential.encryptedRefreshToken = "" then none
      else
        match decryptSecret P s credential.encryptedRefreshToken with
        | .ok _ => some credential
        | .error _ => none

/-- A call of `refresh_delegated_access_token`. -/
structure TokenCall where
  organizationId : Nat
  now : Int
  out : UrlOutcome

/-- The requests that call `refresh_delegated_access_token`. -/
inductive TokenRequest where
  | delivery (V : Services) (request : WebhookRequest) (run : ProviderRun)
  | chatSearch (now : Int) (organizationId : Nat) (token : UrlOutcome) (chats : Except Exn (List DelegatedGraphChat))
  | createRoute (run : RouteRun) (graph : ChatRun) (organizationId : Nat) (payload : WebhookRouteCreate)
  | updateRoute (run : RouteRun) (graph : ChatRun) (organizationId routeId : Nat) (payload : WebhookRouteUpdate)
  | refreshMembers (now : Int) (run : MembersRun) (valueErrorText : String) (organizationId routeId : Nat)
  | statusRefresh (now : Int) (organizationId : Nat) (token : UrlOutcome) (before after : Except Exn Unit)

/-- The tables that are committed when the request has ended. -/
def TokenRequest.committed (P : Platform) (s : Settings) (db : Database) : TokenRequest → Database
  | .delivery V request run =>
    match admitWebhook P V s request db with
    | (db₁, .reserved d) => (complete P s run d db₁).1
    | (db₁, _) => db₁
  | .chatSearch now organizationId token chats => (searchServiceUserChats P s now organizationId token chats db).1
  | .createRoute run graph organizationId payload =>
    (createWebhookRouteWithChat P s run graph organizationId payload db).1
  | .updateRoute run graph organizationId routeId payload =>
    (updateWebhookRouteWithChat P s run graph organizationId routeId payload db).1
  | .refreshMembers now run valueErrorText organizationId routeId =>
    (refreshWebhookRouteMembersWithToken P s now run valueErrorText organizationId routeId db).1
  | .statusRefresh now organizationId token before after =>
    (runDeliveryAuthRefreshJob P s now organizationId token before after db).1

/-- The user id of which `_materialize_graph_user_target` asks for a chat. -/
def WebhookRoute.chatUserId (route : WebhookRoute) : String :=
  Python.strip (Python.orElse (Python.strip route.graphUserId) (Python.strip route.graphTargetId))

/-- The call that the checks of a route come to. -/
def chatCall? (P : Platform) (s : Settings) (now : Int) (graph : ChatRun) (organizationId : Nat) (route : WebhookRoute) :
    Option TokenCall :=
  match ensureDeliveryBackendFeatureEnabled (routeDeliveryBackend route) s, validateClientIpAccess P route with
  | .ok (), .ok _ =>
    if route.targetsGraphUser = true ∧ route.chatUserId ≠ "" ∧ looksLikeGraphChatId P route.chatUserId = false then
      some ⟨organizationId, now, graph.token⟩
    else none
  | _, _ => none

/-- The call of `refresh_delegated_access_token` that the request comes to. -/
def TokenRequest.call? (P : Platform) (s : Settings) (db : Database) : TokenRequest → Option TokenCall
  | .delivery V request run =>
    match (admitWebhook P V s request db).2 with
    | .reserved d =>
      match targetForRoute d.route with
      | .ok _ =>
        if routeDeliveryBackend d.route = "graph" then some ⟨d.route.organizationId, run.sentAt, run.token⟩ else none
      | .error _ => none
    | _ => none
  | .chatSearch now organizationId token _ => if s.graphLookupEnabled then some ⟨organizationId, now, token⟩ else none
  | .createRoute run graph organizationId payload =>
    chatCall? P s run.now graph organizationId (payload.route P run organizationId db.nextId)
  | .updateRoute run graph organizationId routeId payload =>
    match getOrgRoute organizationId routeId db with
    | .error _ => none
    | .ok route =>
      match ensureDeliveryBackendFeatureEnabled
          ((payload.deliveryBackend.map (·.value)).getD (routeDeliveryBackend route)) s with
      | .error _ => none
      | .ok () => chatCall? P s run.now graph organizationId (payload.apply route)
  | .refreshMembers now run _ organizationId routeId =>
    match getOrgRoute organizationId routeId db with
    | .error _ => none
    | .ok route =>
      if route.targetsGraphChat = true ∧ Python.strip route.graphTargetId ≠ "" then
        some ⟨route.organizationId, now, run.token⟩ else none
  | .statusRefresh now organizationId token before _ =>
    match before with
    | .error _ => none
    | .ok () =>
      if s.graphDeliveryEnabled = true ∧ s.graphLookupEnabled = true then some ⟨organizationId, now, token⟩ else none

/-- What the token endpoint answers to the request is in the committed row when the request has ended. -/
def AnswerKept (P : Platform) (s : Settings) (request : TokenRequest) (db : Database) : Prop :=
  ∀ call credential, request.call? P s db = some call → sentCredential P s call.organizationId db.credentials =
    some credential → ∃ row, (request.committed P s db).credentials.find? (·.organizationId == call.organizationId) =
      some row ∧ Reflects P s call.out row

/-! ## When the answer is kept -/

/-- The token endpoint grants an access token, with claims, a lifetime and a refresh token that can be applied to the
credential, and the filled row can be flushed. -/
def TokenGranted (P : Platform) (s : Settings) (call : TokenCall) (credential : GraphDelegatedCredential) : Prop :=
  ∃ members, requestToken P call.out = .ok (.obj members) ∧ strOf P (member "access_token" (.str "") members) ≠ "" ∧
    GraphTokenApplies P call.now members ∧
    ∀ row, filledCredential P s call.now members credential = .ok row → credential.flushes P row = true

/-- A new refresh token comes with an access token that is granted, or is the one stored already. -/
def Storable (P : Platform) (s : Settings) (call : TokenCall) (credential : GraphDelegatedCredential) : Prop :=
  ∀ token, answeredRefreshToken P call.out = some token →
    TokenGranted P s call credential ∨ decryptSecret P s credential.encryptedRefreshToken = .ok token

/-- The run of a request whose one-on-one chats are those that the rest of `create_or_get_one_on_one_chat` gives with a
token of the credential. -/
def RouteRun.withToken (P : Platform) (run : RouteRun) (graph : ChatRun) (credential : GraphDelegatedCredential) :
    RouteRun :=
  { run with oneOnOneChat := fun userId userDisplayName userPrincipalName =>
      chatWithToken P graph credential (Python.strip userId) userDisplayName userPrincipalName }

/-- The request commits what the refresh left in its session: a search does not; a route is created or edited only when,
after the token is granted, its chat is found, its other checks pass and its texts are taken; every other request does
unless it raises what it does not expect, or writes a text that is not taken. -/
def TokenRequest.Commits (P : Platform) (s : Settings) (db : Database) (call : TokenCall)
    (credential : GraphDelegatedCredential) : TokenRequest → Prop
  | .delivery V request run =>
    ∀ d target, (admitWebhook P V s request db).2 = .reserved d → targetForRoute d.route = .ok target →
      TokenGranted P s call credential →
        GraphPostsHandled P ((d.writeRules P).graphError P target
          (refreshCredential P s call.now call.out credential).1) d.message
          run.send run.retry
  | .chatSearch .. => False
  | .createRoute run graph organizationId payload =>
    TokenGranted P s call credential ∧ ∃ row db',
      checkedRoute P s (run.withToken P graph (refreshCredential P s call.now call.out credential).1) id
        (payload.route P run organizationId db.nextId) = .ok row ∧
      ensureRouteNameAvailable organizationId row.name (routeDeliveryBackend row) none db = .ok () ∧
      insertRoute run.now row db = .ok db' ∧ row.inserts P = true
  | .updateRoute run graph organizationId routeId payload =>
    TokenGranted P s call credential ∧ ∃ route admitted row, getOrgRoute organizationId routeId db = .ok route ∧
      validateClientIpAccess P (payload.apply route) = .ok admitted ∧
      checkedRoute P s (run.withToken P graph (refreshCredential P s call.now call.out credential).1)
        (settleMembers route) (payload.apply route) = .ok row ∧
      ensureRouteNameAvailable organizationId row.name (routeDeliveryBackend row) (some row.id) db = .ok () ∧
      route.flushes P admitted = true ∧ admitted.flushes P row = true
  | .refreshMembers now run valueErrorText organizationId routeId =>
    ∀ route, getOrgRoute organizationId routeId db = .ok route → TokenGranted P s call credential →
      (∀ e, graphChatMembers P run.members = .error e → (membersErrorText valueErrorText e).isSome = true) ∧
        membersFlush P now (graphChatMembers P run.members) valueErrorText route = true
  | .statusRefresh _ _ _ _ after => after = .ok ()

namespace RotatedTokensAux

variable {P : Platform} {s : Settings} {call : TokenCall} {credential : GraphDelegatedCredential} {db : Database}

/-! ### The refresh -/

theorem sentCredential_eq_some {organizationId : Nat} {credentials : List GraphDelegatedCredential}
    (h : sentCredential P s organizationId credentials = some credential) :
    missingAppRegistration s = [] ∧ credentials.find? (·.organizationId == organizationId) = some credential ∧
      credential.encryptedRefreshToken ≠ "" ∧ ∃ secret, decryptSecret P s credential.encryptedRefreshToken =
      .ok secret := by
  unfold sentCredential at h
  split at h
  · nomatch h
  · rename_i hregistered
    split at h
    · nomatch h
    · rename_i row hfind
      split at h
      · nomatch h
      · rename_i hnonempty
        split at h
        · rename_i secret hsecret
          cases h
          exact ⟨not_not.1 hregistered, hfind, hnonempty, secret, hsecret⟩
        · nomatch h

/-- A secret that was decrypted with a key can be encrypted with it. -/
theorem fernet_of_decrypted {value secret : String} (h : decryptSecret P s value = .ok secret) :
    fernet s = .ok (Python.strip s.settingsEncKey) := by
  obtain ⟨key, hkey, -⟩ := Except.bind_eq_ok_iff.1 h
  unfold fernet at hkey ⊢
  dsimp only at hkey ⊢
  split at hkey
  · nomatch hkey
  · rename_i hne
    rw [if_neg hne]

/-- A token response that can be applied fills the credential. -/
theorem filled_of_applies {key : String} (hkey : fernet s = .ok key) {now : Int} {members : List (String × Json)}
    (happlies : GraphTokenApplies P now members) (credential : GraphDelegatedCredential) :
    ∃ row, filledCredential P s now members credential = .ok row := by
  obtain ⟨⟨claims, hclaims⟩, hencodable, seconds, hseconds, hle⟩ := happlies
  have hexpires : addSeconds now (max seconds 1) = .ok (now + max seconds 1 * 1000000) := by
    unfold addSeconds
    rw [if_neg (by omega)]
  have hencrypt : encryptSecret P s now (strOf P (member "refresh_token" (.str "") members)) =
      .ok (P.fernetEncrypt now key (strOf P (member "refresh_token" (.str "") members))) := by
    unfold encryptSecret
    rw [hkey]
    simp only [bind, Except.bind, hencodable, if_true]
    rfl
  unfold member at hclaims hseconds
  unfold filledCredential applySuccessfulTokenResponse
  by_cases hblank : strOf P (member "refresh_token" (.str "") members) = ""
  · simp only [hblank, if_true, getItem, bind, Except.bind, hclaims, hseconds, hexpires, pure, Except.pure]
    exact ⟨_, rfl⟩
  · simp only [hblank, if_false, getItem, bind, Except.bind, hclaims, hseconds, hexpires, hencrypt, pure, Except.pure]
    exact ⟨_, rfl⟩

/-- Only a token response that can be applied fills the credential; its refresh token is what the row then holds. -/
theorem filled_eq_ok {now : Int} {members : List (String × Json)} {credential row : GraphDelegatedCredential}
    (h : filledCredential P s now members credential = .ok row) :
    GraphTokenApplies P now members ∧ row.organizationId = credential.organizationId ∧
      (strOf P (member "refresh_token" (.str "") members) ≠ "" →
        encryptSecret P s now (strOf P (member "refresh_token" (.str "") members)) = .ok row.encryptedRefreshToken) := by
  have happlies : ∀ {seconds expiresAt : Int}, addSeconds now (max seconds 1) = .ok expiresAt →
      now + max seconds 1 * 1000000 ≤ maxDatetime := by
    intro seconds expiresAt h
    unfold addSeconds at h
    split at h
    · nomatch h
    · omega
  unfold filledCredential at h
  dsimp only at h
  obtain ⟨access, haccess, h⟩ := Except.bind_eq_ok_iff.1 h
  cases haccess
  obtain ⟨claims, hclaims, h⟩ := Except.bind_eq_ok_iff.1 h
  obtain ⟨expires, hexpires, h⟩ := Except.bind_eq_ok_iff.1 h
  cases hexpires
  obtain ⟨seconds, hseconds, h⟩ := Except.bind_eq_ok_iff.1 h
  obtain ⟨scope, -, h⟩ := Except.bind_eq_ok_iff.1 h
  dsimp only at h
  by_cases hblank : strOf P (member "refresh_token" (.str "") members) = ""
  · rw [if_pos hblank] at h
    obtain ⟨encrypted, -, h⟩ := Except.bind_eq_ok_iff.1 h
    obtain ⟨expiresAt, hat, h⟩ := Except.bind_eq_ok_iff.1 h
    cases h
    exact ⟨⟨⟨claims, hclaims⟩, by rw [hblank]; rfl, seconds, hseconds, happlies hat⟩, rfl, fun hne => absurd hblank hne⟩
  · rw [if_neg hblank] at h
    obtain ⟨encrypted, hencrypted, h⟩ := Except.bind_eq_ok_iff.1 h
    obtain ⟨expiresAt, hat, h⟩ := Except.bind_eq_ok_iff.1 h
    obtain ⟨-, -, hencodable, -⟩ := encryptSecret_eq_ok hencrypted
    cases h
    exact ⟨⟨⟨claims, hclaims⟩, hencodable, seconds, hseconds, happlies hat⟩, rfl, fun _ => hencrypted⟩

/-- What the refresh of a credential can do: grant a token and store the answer, mark the row with the status of the
failure, or raise something else and leave the row. -/
inductive RefreshView (P : Platform) (s : Settings) (call : TokenCall) (credential : GraphDelegatedCredential) :
    GraphDelegatedCredential × Except Exn String → Prop where
  | granted (row : GraphDelegatedCredential) (accessToken : String) (hgranted : TokenGranted P s call credential)
      (hclassified : classifiedStatus P call.out = none) (horganization : row.organizationId = credential.organizationId)
      (hstored : ∀ token, answeredRefreshToken P call.out = some token → encryptSecret P s call.now token =
        .ok row.encryptedRefreshToken) :
    RefreshView P s call credential (row, .ok accessToken)
  | classified (status message : String) (hgranted : ¬TokenGranted P s call credential)
      (hclassified : classifiedStatus P call.out = some status) :
    RefreshView P s call credential (markCredentialStatus call.now status message credential,
      .error (.graphDelegatedAuth message))
  | raised (e : Exn) (hgranted : ¬TokenGranted P s call credential) (hclassified : classifiedStatus P call.out = none) :
    RefreshView P s call credential (credential, .error e)

theorem refreshCredential_view {secret : String}
    (hsecret : decryptSecret P s credential.encryptedRefreshToken = .ok secret) (call : TokenCall) :
    RefreshView P s call credential (refreshCredential P s call.now call.out credential) := by
  have hrequest : (decryptSecret P s credential.encryptedRefreshToken >>= fun _ => requestToken P call.out) =
      requestToken P call.out := by
    rw [hsecret]
    rfl
  unfold refreshCredential
  rw [hrequest]
  cases hanswer : requestToken P call.out with
  | error e =>
    have hnot : ¬TokenGranted P s call credential := by
      rintro ⟨members, hok, -⟩
      rw [hanswer] at hok
      cases hok
    cases e with
    | expiredRefreshToken message => exact .classified _ _ hnot (by simp [classifiedStatus, hanswer])
    | graphDelegatedAuth message => exact .classified _ _ hnot (by simp [classifiedStatus, hanswer])
    | _ => exact .raised _ hnot (by simp [classifiedStatus, hanswer])
  | ok response =>
    cases response with
    | obj members =>
      have hgranted : TokenGranted P s call credential ↔ strOf P (member "access_token" (.str "") members) ≠ "" ∧
          GraphTokenApplies P call.now members ∧
          ∀ row, filledCredential P s call.now members credential = .ok row → credential.flushes P row = true := by
        unfold TokenGranted
        rw [hanswer]
        constructor
        · rintro ⟨_, ⟨⟩, h⟩
          exact h
        · exact fun h => ⟨members, rfl, h⟩
      simp only [getItem]
      split
      · rename_i hblank
        exact .classified _ _ (fun h => (hgranted.1 h).1 hblank) (by simp [classifiedStatus, hanswer, member, hblank])
      · rename_i haccess
        have hclassified : classifiedStatus P call.out = none := by simp [classifiedStatus, hanswer, member, haccess]
        have hrefresh : ∀ token, answeredRefreshToken P call.out = some token →
            token = strOf P (member "refresh_token" (.str "") members) ∧ token ≠ "" := by
          intro token htoken
          simp only [answeredRefreshToken, hanswer, Option.ite_none_left_eq_some, Option.some.injEq] at htoken
          exact ⟨htoken.2.symm, htoken.2 ▸ htoken.1⟩
        cases hfilled : filledCredential P s call.now members credential with
        | error e =>
          have hfilled' := hfilled
          unfold filledCredential member at hfilled'
          dsimp only at hfilled'
          simp only [bind, Except.bind, hfilled']
          refine .raised e (fun h => ?_) hclassified
          obtain ⟨row, hrow⟩ := filled_of_applies (fernet_of_decrypted hsecret) (hgranted.1 h).2.1 credential
          cases hfilled.symm.trans hrow
        | ok row =>
          obtain ⟨happlies, horganization, hstored⟩ := filled_eq_ok hfilled
          have hfilled' := hfilled
          unfold filledCredential member at hfilled'
          dsimp only at hfilled'
          simp only [bind, Except.bind, hfilled']
          split
          · next hflushes =>
            refine .granted row _ (hgranted.2 ⟨haccess, happlies, fun row' hrow => ?_⟩) hclassified horganization
              fun token htoken => ?_
            · rwa [← Except.ok.inj (hfilled.symm.trans hrow)]
            · obtain ⟨rfl, hne⟩ := hrefresh token htoken
              exact hstored hne
          · next hrefused => exact .raised _ (fun h => hrefused ((hgranted.1 h).2.2 row hfilled)) hclassified
    | _ => exact .raised _ (by rintro ⟨_, hok, -⟩; rw [hanswer] at hok; cases hok) (by simp [classifiedStatus, hanswer])

/-- The credentials that a call leaves in its session. -/
def session (P : Platform) (s : Settings) (call : TokenCall) (credentials : List GraphDelegatedCredential) :
    List GraphDelegatedCredential :=
  (refreshDelegatedAccessToken P s call.now call.organizationId call.out credentials).1

/-- A call that sends the token of a credential refreshes that credential. -/
theorem refresh_of_sent {credentials : List GraphDelegatedCredential} (call : TokenCall)
    (hsent : sentCredential P s call.organizationId credentials = some credential) :
    refreshDelegatedAccessToken P s call.now call.organizationId call.out credentials =
      (Table.update (·.organizationId == call.organizationId)
          (fun _ => (refreshCredential P s call.now call.out credential).1) credentials,
        (refreshCredential P s call.now call.out credential).2.map fun token =>
          (token, (refreshCredential P s call.now call.out credential).1)) := by
  obtain ⟨hregistered, hfind, hnonempty, -⟩ := sentCredential_eq_some hsent
  unfold refreshDelegatedAccessToken requireAppRegistration
  simp [hregistered, hfind, hnonempty]

theorem refreshed_view {credentials : List GraphDelegatedCredential} (call : TokenCall)
    (hsent : sentCredential P s call.organizationId credentials = some credential) :
    RefreshView P s call credential (refreshCredential P s call.now call.out credential) := by
  obtain ⟨-, -, -, secret, hsecret⟩ := sentCredential_eq_some hsent
  exact refreshCredential_view hsecret call

/-- The refreshed row is the one found for the organization in the session. -/
theorem find?_session {credentials : List GraphDelegatedCredential} (call : TokenCall)
    (hsent : sentCredential P s call.organizationId credentials = some credential) :
    (session P s call credentials).find? (·.organizationId == call.organizationId) =
      some (refreshCredential P s call.now call.out credential).1 := by
  obtain ⟨-, hfind, -⟩ := sentCredential_eq_some hsent
  have horganization : credential.organizationId = call.organizationId := by simpa using List.find?_some hfind
  have hrow : (refreshCredential P s call.now call.out credential).1.organizationId = call.organizationId := by
    have hview := refreshed_view call hsent
    generalize refreshCredential P s call.now call.out credential = r at hview
    cases hview with
    | granted row _ _ _ hsame => exact hsame.trans horganization
    | classified | raised => exact horganization
  obtain ⟨_, hrow'⟩ :=
    Table.exists_find?_update (f := fun _ => (refreshCredential P s call.now call.out credential).1) hfind
    (p := (·.organizationId == call.organizationId)) (by simpa using horganization) (fun _ => by simpa using hrow)
  unfold session
  rw [refresh_of_sent call hsent]
  exact hrow'

/-- What a request does with the credentials in its session: they are committed when the request commits, and lost
otherwise; when the token endpoint gave no answer to store it does not matter which. -/
structure Follows (P : Platform) (s : Settings) (call : TokenCall) (credential : GraphDelegatedCredential)
    (commits : Prop) (before after : List GraphDelegatedCredential) : Prop where
  committed : TokenGranted P s call credential ∨ (∃ status, classifiedStatus P call.out = some status) → commits →
  after = session P s call before
  lost : TokenGranted P s call credential ∨ (∃ status, classifiedStatus P call.out = some status) → ¬commits →
    after = before
  either : after = session P s call before ∨ after = before

/-- The answer is kept when the row says it already, or the request commits it and it could be stored. -/
theorem kept_iff_of_follows (hfernet : P.FernetRoundTrip) {commits : Prop}
    {before after : List GraphDelegatedCredential} (h : Follows P s call credential commits before after)
    (hsent : sentCredential P s call.organizationId before = some credential) :
    (∃ row, after.find? (·.organizationId == call.organizationId) = some row ∧ Reflects P s call.out row) ↔
      Reflects P s call.out credential ∨ commits ∧ Storable P s call credential := by
  have hfind := (sentCredential_eq_some hsent).2.1
  have hsession := find?_session call hsent
  have hview := refreshed_view call hsent
  have hbefore : after = before →
      ((∃ row, after.find? (·.organizationId == call.organizationId) = some row ∧ Reflects P s call.out row) ↔
        Reflects P s call.out credential) := by
    rintro rfl
    rw [hfind]
    simp
  generalize refreshCredential P s call.now call.out credential = r at hsession hview
  have hafter : after = session P s call before →
      ((∃ row, after.find? (·.organizationId == call.organizationId) = some row ∧ Reflects P s call.out row) ↔
        Reflects P s call.out r.1) := by
    rintro rfl
    rw [hsession]
    simp
  cases hview with
  | granted row accessToken hgranted hclassified _ hstored =>
    by_cases hcommits : commits
    · rw [hafter (h.committed (.inl hgranted) hcommits)]
      refine iff_of_true ⟨fun token htoken => decryptSecret_of_encryptSecret hfernet (hstored token htoken),
        fun status hstatus => ?_⟩
        (.inr ⟨hcommits, fun _ _ => .inl hgranted⟩)
      rw [hclassified] at hstatus
      nomatch hstatus
    · rw [hbefore (h.lost (.inl hgranted) hcommits)]
      simp [hcommits]
  | classified status message hgranted hclassified =>
    by_cases hcommits : commits
    · rw [hafter (h.committed (.inr ⟨status, hclassified⟩) hcommits)]
      constructor
      · intro hreflects
        exact .inr ⟨hcommits, fun token htoken => .inr (hreflects.token token htoken)⟩
      · intro hcases
        refine ⟨fun token htoken => ?_, fun status' hstatus => ?_⟩
        · rcases hcases with hreflects | ⟨-, hstorable⟩
          · exact hreflects.token token htoken
          · exact (hstorable token htoken).resolve_left hgranted
        · rw [hclassified] at hstatus
          exact Option.some.inj hstatus
    · rw [hbefore (h.lost (.inr ⟨status, hclassified⟩) hcommits)]
      simp [hcommits]
  | raised e hgranted hclassified =>
    have hsame : (∃ row, after.find? (·.organizationId == call.organizationId) = some row ∧ Reflects P s call.out row) ↔
        Reflects P s call.out credential := h.either.elim hafter hbefore
    rw [hsame]
    refine ⟨.inl, fun hcases => hcases.elim id fun ⟨_, hstorable⟩ => ⟨fun token htoken => ?_, fun status hstatus => ?_⟩⟩
    · exact (hstorable token htoken).resolve_left hgranted
    · rw [hclassified] at hstatus
      nomatch hstatus

/-! ### The lookups -/

/-- The token endpoint gave an answer that is to be stored. -/
def Answered (P : Platform) (s : Settings) (call : TokenCall) (credential : GraphDelegatedCredential) : Prop :=
  TokenGranted P s call credential ∨ ∃ status, classifiedStatus P call.out = some status

/-- How the token of a lookup ends. -/
theorem lookupToken_cases {credentials : List GraphDelegatedCredential} (call : TokenCall)
    (hsent : sentCredential P s call.organizationId credentials = some credential) :
    (TokenGranted P s call credential ∧ ∃ token, (lookupToken P s call.now call.organizationId call.out credentials).2 =
        .ok (token, (refreshCredential P s call.now call.out credential).1)) ∨
      ¬TokenGranted P s call credential ∧ ∃ e, (lookupToken P s call.now call.organizationId call.out credentials).2 =
        .error e ∧ (Answered P s call credential → e = .graphDelegatedLookup lookupNotConnected) := by
  have hview := refreshed_view call hsent
  unfold lookupToken
  rw [refresh_of_sent call hsent]
  generalize refreshCredential P s call.now call.out credential = r at hview
  cases hview with
  | granted row accessToken hgranted => exact .inl ⟨hgranted, accessToken, rfl⟩
  | classified status message hgranted => exact .inr ⟨hgranted, _, rfl, fun _ => rfl⟩
  | raised e hgranted hclassified =>
    have hnot : ¬Answered P s call credential := by
      rintro (h | ⟨status, hstatus⟩)
      · exact hgranted h
      · rw [hclassified] at hstatus
        nomatch hstatus
    refine .inr ⟨hgranted, ?_⟩
    dsimp only [Except.map]
    split
    · exact ⟨_, rfl, fun h => absurd h hnot⟩
    · exact ⟨_, rfl, fun h => absurd h hnot⟩
    · exact ⟨_, rfl, fun h => absurd h hnot⟩

/-- What a request keeps of the credentials, from how its end does. -/
theorem follows_of_commit {commits : Prop} (committed : Prop) [Decidable committed]
    {before after : List GraphDelegatedCredential} (hafter : after = if committed then session P s call before
      else before) (h : Answered P s call credential → (commits ↔ committed)) :
    Follows P s call credential commits before after where
  committed hanswered hcommits := by
    rw [hafter, if_pos ((h hanswered).1 hcommits)]
  lost hanswered hcommits := by
    rw [hafter, if_neg fun hc => hcommits ((h hanswered).2 hc)]
  either := by
    rw [hafter]
    split
    · exact .inl rfl
    · exact .inr rfl

theorem follows_chatSearch {now : Int} {organizationId : Nat} {token : UrlOutcome}
    {chats : Except Exn (List DelegatedGraphChat)} : Follows P s call credential False db.credentials
      ((TokenRequest.chatSearch now organizationId token chats).committed P s db).credentials := by
  refine follows_of_commit False ?_ fun _ => Iff.rfl
  rw [if_neg id]
  unfold TokenRequest.committed searchServiceUserChats
  dsimp only
  split <;> rfl

/-- How a request that makes changes and commits ends. -/
theorem credentials_commitWith (credentials : List GraphDelegatedCredential) (flushes : Bool) (db : Database)
    (r : Except Exn Database) :
    (commitWith credentials flushes db r).1.credentials =
      open Classical in if (∃ db', r = .ok db') ∧ flushes = true then credentials else db.credentials := by
  cases r with
  | ok db' => cases flushes <;> simp [commitWith]
  | error e => simp [commitWith]

/-- The error of a lookup without a token can be written. -/
theorem membersFlush_notConnected {now : Int} {valueErrorText : String} {route : WebhookRoute}
    (htarget : route.targetsGraphChat = true) :
    membersFlush P now (.error (.graphDelegatedLookup lookupNotConnected)) valueErrorText route = true := by
  have hhas : route.hasMembers = true := by
    unfold WebhookRoute.targetsGraphChat at htarget
    unfold WebhookRoute.hasMembers
    rw [htarget]
    rfl
  have htext : takesText P none (Python.clip lookupNotConnected 1000) = true :=
    takesText_of_plain (isPlainText_clip (isPlainText_ofList (by decide)) 1000)
  simp [membersFlush, refreshRouteMembers, hhas, membersErrorText, WebhookRoute.membersFailed, WebhookRoute.flushes,
    WebhookRoute.texts, flushesText, htext]

/-- The refresh of the members of a Graph chat ends well when the members are fetched, or an error is caught. -/
theorem refreshWebhookRouteMembers_ok_iff {now : Int} {fetched : Except Exn ConversationMembers} {valueErrorText : String}
    {organizationId routeId : Nat} {route : WebhookRoute} (hroute : getOrgRoute organizationId routeId db = .ok route)
    (htarget : route.targetsGraphChat = true) :
    (∃ db', refreshWebhookRouteMembers now fetched valueErrorText organizationId routeId db = .ok db') ↔
      ∀ e, fetched = .error e → (membersErrorText valueErrorText e).isSome = true := by
  have hhas : route.hasMembers = true := by
    unfold WebhookRoute.targetsGraphChat at htarget
    unfold WebhookRoute.hasMembers
    rw [htarget]
    rfl
  unfold refreshWebhookRouteMembers refreshRouteMembers
  rw [hroute]
  simp only [bind, Except.bind, hhas, if_true]
  cases fetched with
  | ok members => simp [pure, Except.pure]
  | error e => cases htext : membersErrorText valueErrorText e <;> simp [htext, pure, Except.pure]

open Classical in
theorem follows_refreshMembers {now : Int} {run : MembersRun} {valueErrorText : String} {organizationId routeId : Nat}
    (hcall : (TokenRequest.refreshMembers now run valueErrorText organizationId routeId).call? P s db = some call)
    (hsent : sentCredential P s call.organizationId db.credentials = some credential) :
    Follows P s call credential
      ((TokenRequest.refreshMembers now run valueErrorText organizationId routeId).Commits P s db call credential)
      db.credentials
      ((TokenRequest.refreshMembers now run valueErrorText organizationId routeId).committed P s db).credentials := by
  unfold TokenRequest.call? at hcall
  dsimp only at hcall
  split at hcall
  · nomatch hcall
  rename_i route hroute
  split at hcall
  next htarget =>
    cases hcall
    have hfetch : fetchServiceUserChatMembers P s now route.organizationId run.token run.members route.graphTargetId
      db.credentials =
        (session P s ⟨route.organizationId, now, run.token⟩ db.credentials,
          (lookupToken P s now route.organizationId run.token db.credentials).2.bind fun _ =>
            graphChatMembers P run.members) := by
      unfold fetchServiceUserChatMembers
      rw [if_neg htarget.2]
      rfl
    refine follows_of_commit ((∃ db', refreshWebhookRouteMembers now
      ((lookupToken P s now route.organizationId run.token db.credentials).2.bind fun _ =>
        graphChatMembers P run.members) valueErrorText organizationId routeId
      db = .ok db') ∧ membersFlush P now ((lookupToken P s now route.organizationId run.token db.credentials).2.bind
        fun _ => graphChatMembers P run.members)
        valueErrorText route = true) ?_ fun hanswered => ?_
    · unfold TokenRequest.committed refreshWebhookRouteMembersWithToken
      simp only [hroute, htarget.1, if_true, hfetch]
      exact credentials_commitWith _ _ _ _
    · rw [refreshWebhookRouteMembers_ok_iff hroute htarget.1]
      unfold TokenRequest.Commits
      simp only [hroute, Except.ok.injEq, forall_eq']
      rcases lookupToken_cases ⟨route.organizationId, now, run.token⟩ hsent with ⟨hgranted, accessToken,
        htoken⟩ | ⟨hnot, e, htoken, he⟩
      · dsimp only at htoken
        rw [htoken]
        exact ⟨fun h => h hgranted, fun h _ => h⟩
      · dsimp only at htoken
        rw [htoken, he hanswered]
        refine iff_of_true (fun h => absurd h hnot) ⟨?_, membersFlush_notConnected htarget.1⟩
        rintro _ ⟨⟩
        rfl
  next => nomatch hcall

/-- The job, once its refresh is reached: the refresh is committed unless it, or what comes after it, raises. -/
theorem refreshGraphDeliveryToken_of_sent (hdelivery : s.graphDeliveryEnabled = true)
    (hlookup : s.graphLookupEnabled = true)
    (hsent : sentCredential P s call.organizationId db.credentials = some credential) :
    ∃ outcome, refreshGraphDeliveryToken P s call.now call.organizationId call.out db.credentials =
        (session P s call db.credentials, outcome) ∧ (Answered P s call credential → ∃ status, outcome = .ok status) := by
  obtain ⟨-, hfind, hnonempty, -⟩ := sentCredential_eq_some hsent
  have hview := refreshed_view call hsent
  unfold refreshGraphDeliveryToken session
  simp only [hdelivery, hlookup, Bool.true_eq_false, or_self, if_false, hfind, hnonempty]
  refine ⟨_, rfl, fun hanswered => ?_⟩
  rw [refresh_of_sent call hsent]
  generalize refreshCredential P s call.now call.out credential = r at hview
  cases hview with
  | granted => exact ⟨_, rfl⟩
  | classified => exact ⟨_, rfl⟩
  | raised e hgranted hclassified =>
    rcases hanswered with h | ⟨status, hstatus⟩
    · exact absurd h hgranted
    · rw [hclassified] at hstatus
      nomatch hstatus

theorem follows_statusRefresh {now : Int} {organizationId : Nat} {token : UrlOutcome} {before after : Except Exn Unit}
    (hcall : (TokenRequest.statusRefresh now organizationId token before after).call? P s db = some call)
    (hsent : sentCredential P s call.organizationId db.credentials = some credential) :
    Follows P s call credential
      ((TokenRequest.statusRefresh now organizationId token before after).Commits P s db call credential) db.credentials
      ((TokenRequest.statusRefresh now organizationId token before after).committed P s db).credentials := by
  unfold TokenRequest.call? at hcall
  dsimp only at hcall
  split at hcall
  · cases hcall
  split at hcall
  next henabled =>
    cases hcall
    obtain ⟨outcome, hrefresh, houtcome⟩ := refreshGraphDeliveryToken_of_sent henabled.1 henabled.2 hsent
    unfold TokenRequest.committed TokenRequest.Commits runDeliveryAuthRefreshJob
    simp only [hrefresh]
    cases outcome with
    | error e =>
      have hnot : ¬Answered P s ⟨organizationId, now, token⟩ credential := by
        intro h
        obtain ⟨status, hstatus⟩ := houtcome h
        cases hstatus
      exact follows_of_commit False (by rw [if_neg id]) fun h => absurd h hnot
    | ok status =>
      cases after with
      | error e => exact follows_of_commit False (by rw [if_neg id]) fun _ => by simp
      | ok => exact follows_of_commit True (by rw [if_pos trivial]) fun _ => by simp
  next => cases hcall

/-! ### Routes with a chat -/

/-- What a call that the checks of a route come to says of the route. -/
theorem chatCall_eq_some {now : Int} {graph : ChatRun} {organizationId : Nat} {route : WebhookRoute}
    (h : chatCall? P s now graph organizationId route = some call) :
    call = ⟨organizationId, now, graph.token⟩ ∧ route.targetsGraphUser = true ∧ route.chatUserId ≠ "" ∧
      looksLikeGraphChatId P route.chatUserId = false := by
  unfold chatCall? at h
  split at h
  · split at h
    next htarget =>
      cases h
      exact ⟨rfl, htarget⟩
    next => nomatch h
  · nomatch h

/-- The chat of the route's user, once the token is asked for. -/
theorem createOrGetOneOnOneChat_eq {now : Int} {graph : ChatRun} {organizationId : Nat} {route : WebhookRoute}
    (displayName : String) (credentials : List GraphDelegatedCredential) (hid : route.chatUserId ≠ "")
    (hlook : looksLikeGraphChatId P route.chatUserId = false) :
    createOrGetOneOnOneChat P s now organizationId graph credentials
        (Python.orElse (Python.strip route.graphUserId) (Python.strip route.graphTargetId)) displayName
        route.graphUserPrincipalName =
      (session P s ⟨organizationId, now, graph.token⟩ credentials,
        (lookupToken P s now organizationId graph.token credentials).2.bind fun token =>
          chatWithToken P graph token.2 route.chatUserId displayName route.graphUserPrincipalName) := by
  unfold createOrGetOneOnOneChat
  unfold WebhookRoute.chatUserId at hid hlook ⊢
  dsimp only
  rw [if_neg hid, if_neg (by rw [hlook]; exact Bool.false_ne_true)]
  rfl

/-- With a granted token, the user of a route becomes the chat that the rest of the lookup gives. -/
theorem materialize_of_granted {run : RouteRun} {graph : ChatRun} {organizationId : Nat} {route : WebhookRoute}
    (hsent : sentCredential P s organizationId db.credentials = some credential)
    (hgranted : TokenGranted P s ⟨organizationId, run.now, graph.token⟩ credential) (hid : route.chatUserId ≠ "")
    (hlook : looksLikeGraphChatId P route.chatUserId = false) :
    materializeGraphUserTarget (run.withChats P s organizationId graph db.credentials) route =
      materializeGraphUserTarget (run.withToken P graph (refreshCredential P s run.now graph.token credential).1)
        route := by
  rcases lookupToken_cases ⟨organizationId, run.now, graph.token⟩ hsent with ⟨-, accessToken, htoken⟩ | ⟨hnot, -⟩
  · unfold materializeGraphUserTarget RouteRun.withChats RouteRun.withToken
    dsimp only at htoken ⊢
    rw [createOrGetOneOnOneChat_eq _ _ hid hlook, htoken]
    simp only [Except.bind, WebhookRoute.chatUserId]
  · exact absurd hgranted hnot

/-- Without a token, no route to a user gets past its checks. -/
theorem materialize_of_not_granted {run : RouteRun} {graph : ChatRun} {organizationId : Nat} {route row : WebhookRoute}
    (hsent : sentCredential P s organizationId db.credentials = some credential)
    (hnot : ¬TokenGranted P s ⟨organizationId, run.now, graph.token⟩ credential) (huser : route.targetsGraphUser = true)
    (hid : route.chatUserId ≠ "") (hlook : looksLikeGraphChatId P route.chatUserId = false) :
    materializeGraphUserTarget (run.withChats P s organizationId graph db.credentials) route ≠ .ok row := by
  rcases lookupToken_cases ⟨organizationId, run.now, graph.token⟩ hsent with ⟨hgranted, -⟩ | ⟨-, e, htoken, -⟩
  · exact absurd hgranted hnot
  · unfold materializeGraphUserTarget RouteRun.withChats
    dsimp only at htoken ⊢
    rw [createOrGetOneOnOneChat_eq _ _ hid hlook, htoken]
    intro h
    split at h
    next hother =>
      rw [huser] at hother
      nomatch hother
    next =>
      split at h
      · nomatch h
      · dsimp only [Except.bind] at h
        split at h
        · nomatch h
        · nomatch h
        next hchat => nomatch hchat

/-- The checks of a route depend on how its user becomes a chat, and on the names that are looked up. -/
theorem checkedRoute_congr {run run' : RouteRun} {settled : WebhookRoute → WebhookRoute} {route : WebhookRoute}
    (hnames : run.names = run'.names) (h : ∀ mode allowlist, materializeGraphUserTarget run
      { route with clientIpAccessMode := mode, clientIpAllowlist := allowlist } =
      materializeGraphUserTarget run' { route with clientIpAccessMode := mode, clientIpAllowlist := allowlist }) :
    checkedRoute P s run settled route = checkedRoute P s run' settled route := by
  unfold checkedRoute
  rw [hnames]
  cases hadmitted : validateClientIpAccess P route with
  | error e => simp only [bind, Except.bind]
  | ok admitted =>
    obtain ⟨mode, allowlist, -, rfl⟩ := validateClientIpAccess_eq hadmitted
    simp only [bind, Except.bind, h mode allowlist]

/-- The checks of a route to a user pass when a token is granted and they pass with it. -/
theorem checkedRoute_withChats_iff {run : RouteRun} {graph : ChatRun} {organizationId : Nat} {route row : WebhookRoute}
    {settled : WebhookRoute → WebhookRoute} (hcall : chatCall? P s run.now graph organizationId route = some call)
    (hsent : sentCredential P s call.organizationId db.credentials = some credential) :
    checkedRoute P s (run.withChats P s organizationId graph db.credentials) settled route = .ok row ↔
      TokenGranted P s call credential ∧
        checkedRoute P s (run.withToken P graph (refreshCredential P s call.now call.out credential).1) settled route =
        .ok row := by
  obtain ⟨rfl, huser, hid, hlook⟩ := chatCall_eq_some hcall
  by_cases hgranted : TokenGranted P s ⟨organizationId, run.now, graph.token⟩ credential
  · have hsame : checkedRoute P s (run.withChats P s organizationId graph db.credentials) settled route =
        checkedRoute P s (run.withToken P graph (refreshCredential P s run.now graph.token credential).1)
        settled route := by
      refine checkedRoute_congr rfl fun mode allowlist => ?_
      exact materialize_of_granted hsent hgranted hid hlook
    rw [hsame]
    exact ⟨fun h => ⟨hgranted, h⟩, And.right⟩
  · refine iff_of_false (fun h => ?_) fun h => hgranted h.1
    obtain ⟨mode, allowlist, chat, -, hchat, -⟩ := checkedRoute_eq_ok h
    exact absurd hchat (materialize_of_not_granted hsent hgranted huser hid hlook)

/-- The credentials that such a request has in its session. -/
theorem materializedCredentials_of_call {now : Int} {graph : ChatRun} {organizationId : Nat} {route : WebhookRoute}
    (hcall : chatCall? P s now graph organizationId route = some call) (credentials : List GraphDelegatedCredential) :
    materializedCredentials P s now organizationId graph route credentials = session P s call credentials := by
  obtain ⟨rfl, huser, hid, hlook⟩ := chatCall_eq_some hcall
  unfold materializedCredentials
  rw [if_pos huser, createOrGetOneOnOneChat_eq _ _ hid hlook]

/-- A route is created when its checks pass, its name is free and it can be inserted. -/
theorem createWebhookRoute_ok_iff {run : RouteRun} {organizationId : Nat} {payload : WebhookRouteCreate} :
    (∃ db', createWebhookRoute P s run organizationId payload db = .ok db') ↔
      ∃ row db', checkedRoute P s run id (payload.route P run organizationId db.nextId) = .ok row ∧
        ensureRouteNameAvailable organizationId row.name (routeDeliveryBackend row) none db = .ok () ∧
        insertRoute run.now row db = .ok db' := by
  unfold createWebhookRoute
  constructor
  · rintro ⟨db', h⟩
    obtain ⟨row, hrow, h⟩ := Except.bind_eq_ok_iff.1 h
    obtain ⟨⟨⟩, hname, h⟩ := Except.bind_eq_ok_iff.1 h
    refine ⟨row, db', hrow, hname, ?_⟩
    split at h
    · nomatch h
    · exact h
  · rintro ⟨row, db', hrow, hname, hinsert⟩
    refine ⟨db', ?_⟩
    rw [hrow]
    simp only [bind, Except.bind, hname, hinsert]

/-- A route is edited when it is there, its backend is enabled, its checks pass and its name is free. -/
theorem updateWebhookRoute_ok_iff {run : RouteRun} {organizationId routeId : Nat} {payload : WebhookRouteUpdate}
    {route : WebhookRoute} (hroute : getOrgRoute organizationId routeId db = .ok route)
    (henabled : ensureDeliveryBackendFeatureEnabled
      ((payload.deliveryBackend.map (·.value)).getD (routeDeliveryBackend route)) s =
      .ok ()) :
    (∃ db', updateWebhookRoute P s run organizationId routeId payload db = .ok db') ↔
      ∃ row, checkedRoute P s run (settleMembers route) (payload.apply route) = .ok row ∧
        ensureRouteNameAvailable organizationId row.name (routeDeliveryBackend row) (some row.id) db = .ok () := by
  unfold updateWebhookRoute
  constructor
  · rintro ⟨db', h⟩
    obtain ⟨route', hroute', h⟩ := Except.bind_eq_ok_iff.1 h
    cases hroute.symm.trans hroute'
    obtain ⟨_, -, h⟩ := Except.bind_eq_ok_iff.1 h
    obtain ⟨row, hrow, h⟩ := Except.bind_eq_ok_iff.1 h
    obtain ⟨_, hname, -⟩ := Except.bind_eq_ok_iff.1 h
    exact ⟨row, hrow, hname⟩
  · rintro ⟨row, hrow, hname⟩
    refine ⟨storeRoute run.now row db, ?_⟩
    simp only [bind, Except.bind, hroute, henabled, hrow, hname, pure, Except.pure]

/-- A checked route has passed the check of its access rule. -/
theorem exists_admitted {run : RouteRun} {settled : WebhookRoute → WebhookRoute} {edited row : WebhookRoute}
    (h : checkedRoute P s run settled edited = .ok row) : ∃ admitted, validateClientIpAccess P edited = .ok admitted := by
  obtain ⟨_, -, h⟩ := Except.bind_eq_ok_iff.1 h
  obtain ⟨admitted, hadmitted, -⟩ := Except.bind_eq_ok_iff.1 h
  exact ⟨admitted, hadmitted⟩

/-- The flushes of an edit that calls for a token: one before the chat is known, and one of the row. -/
theorem editedFlushes_iff {now : Int} {run : RouteRun} {graph : ChatRun} {organizationId : Nat}
    {route edited admitted row : WebhookRoute} (hcall : chatCall? P s now graph organizationId edited = some call)
    (hadmitted : validateClientIpAccess P edited = .ok admitted)
    (hrow : checkedRoute P s run (settleMembers route) edited = .ok row) :
    editedFlushes P s run route edited = true ↔ route.flushes P admitted = true ∧ admitted.flushes P row = true := by
  obtain ⟨-, huser, -⟩ := chatCall_eq_some hcall
  obtain ⟨mode, allowlist, -, rfl⟩ := validateClientIpAccess_eq hadmitted
  simp only [editedFlushes, hadmitted, hrow]
  rw [if_pos (show WebhookRoute.targetsGraphUser
    { edited with clientIpAccessMode := mode, clientIpAllowlist := allowlist } = true from huser),
    Bool.and_eq_true]

open Classical in
theorem follows_createRoute {run : RouteRun} {graph : ChatRun} {organizationId : Nat} {payload : WebhookRouteCreate}
    (hcall : (TokenRequest.createRoute run graph organizationId payload).call? P s db = some call)
    (hsent : sentCredential P s call.organizationId db.credentials = some credential) :
    Follows P s call credential ((TokenRequest.createRoute run graph organizationId payload).Commits P s db call
      credential) db.credentials
      ((TokenRequest.createRoute run graph organizationId payload).committed P s db).credentials := by
  unfold TokenRequest.call? at hcall
  dsimp only at hcall
  refine follows_of_commit ((∃ db', createWebhookRoute P s (run.withChats P s organizationId graph db.credentials)
    organizationId payload
    db = .ok db') ∧ createdFlushes P s (run.withChats P s organizationId graph db.credentials)
      (payload.route P run organizationId db.nextId) = true) ?_ fun _ => ?_
  · unfold TokenRequest.committed createWebhookRouteWithChat
    dsimp only
    rw [materializedCredentials_of_call hcall]
    exact credentials_commitWith _ _ _ _
  · rw [createWebhookRoute_ok_iff]
    unfold TokenRequest.Commits
    constructor
    · rintro ⟨hgranted, row, db', hrow, hname, hinsert, htexts⟩
      have hchecked := (checkedRoute_withChats_iff hcall hsent).2 ⟨hgranted, hrow⟩
      refine ⟨⟨row, db', hchecked, hname, hinsert⟩, ?_⟩
      simp only [createdFlushes, hchecked, htexts]
    · rintro ⟨⟨row, db', hchecked, hname, hinsert⟩, htexts⟩
      obtain ⟨hgranted, hrow⟩ := (checkedRoute_withChats_iff hcall hsent).1 hchecked
      have hchecked : checkedRoute P s (run.withChats P s organizationId graph db.credentials) id
          (payload.route P run organizationId db.nextId) = .ok row := hchecked
      simp only [createdFlushes, hchecked] at htexts
      exact ⟨hgranted, row, db', hrow, hname, hinsert, htexts⟩

open Classical in
theorem follows_updateRoute {run : RouteRun} {graph : ChatRun} {organizationId routeId : Nat}
    {payload : WebhookRouteUpdate}
    (hcall : (TokenRequest.updateRoute run graph organizationId routeId payload).call? P s db = some call)
    (hsent : sentCredential P s call.organizationId db.credentials = some credential) :
    Follows P s call credential ((TokenRequest.updateRoute run graph organizationId routeId payload).Commits P s db call
      credential) db.credentials
      ((TokenRequest.updateRoute run graph organizationId routeId payload).committed P s db).credentials := by
  unfold TokenRequest.call? at hcall
  dsimp only at hcall
  split at hcall
  · nomatch hcall
  rename_i route hroute
  split at hcall
  · nomatch hcall
  rename_i henabled
  refine follows_of_commit ((∃ db', updateWebhookRoute P s (run.withChats P s organizationId graph db.credentials)
    organizationId routeId
    payload db = .ok db') ∧ editedFlushes P s (run.withChats P s organizationId graph db.credentials) route
      (payload.apply route) = true)
    ?_ fun _ => ?_
  · unfold TokenRequest.committed updateWebhookRouteWithChat
    simp only [hroute]
    rw [materializedCredentials_of_call hcall]
    exact credentials_commitWith _ _ _ _
  · rw [updateWebhookRoute_ok_iff hroute henabled]
    unfold TokenRequest.Commits
    constructor
    · rintro ⟨hgranted, route', admitted, row, hroute', hadmitted, hrow, hname, hflushes⟩
      obtain rfl := Except.ok.inj (hroute.symm.trans hroute')
      have hchecked := (checkedRoute_withChats_iff hcall hsent).2 ⟨hgranted, hrow⟩
      exact ⟨⟨row, hchecked, hname⟩, (editedFlushes_iff hcall hadmitted hchecked).2 hflushes⟩
    · rintro ⟨⟨row, hchecked, hname⟩, hflushes⟩
      obtain ⟨hgranted, hrow⟩ := (checkedRoute_withChats_iff hcall hsent).1 hchecked
      obtain ⟨admitted, hadmitted⟩ := exists_admitted hchecked
      exact ⟨hgranted, route, admitted, row, hroute, hadmitted, hrow, hname,
        (editedFlushes_iff hcall hadmitted hchecked).1 hflushes⟩

/-! ### Deliveries -/

/-- When the token endpoint gave an answer to store, a delivery is handled when, with a granted token, its posts are. -/
theorem tokenHandled_iff {credentials : List GraphDelegatedCredential} {Q : GraphDelegatedCredential → Prop}
    (hsent : sentCredential P s call.organizationId credentials = some credential)
    (hanswered : Answered P s call credential) :
    GraphTokenHandled P s call.now credential False Q call.out ↔
      (TokenGranted P s call credential → Q (refreshCredential P s call.now call.out credential).1) := by
  obtain ⟨-, -, -, secret, hsecret⟩ := sentCredential_eq_some hsent
  have hkey := (@ends_decryptSecret P s (fun _ => True) False _ True).1 (by rw [hsecret]; exact trivial)
  have hends := @ends_refreshCredential P s (fun _ => True) False call.now call.out credential Q
  rw [and_iff_right hkey.1] at hends
  rw [← hends]
  unfold refreshedCredential
  have hview := refreshed_view call hsent
  generalize refreshCredential P s call.now call.out credential = r at hview
  cases hview with
  | granted row accessToken hgranted => exact ⟨fun h _ => h, fun h => h hgranted⟩
  | classified status message hgranted => exact iff_of_true (.inl ⟨message, rfl⟩) fun h => absurd h hgranted
  | raised e hgranted hclassified =>
    rcases hanswered with h | ⟨status, hstatus⟩
    · exact absurd h hgranted
    · rw [hclassified] at hstatus
      nomatch hstatus

/-- Once the token of a stored credential is sent, a delivery through Graph is handled when its requests end well. -/
theorem graphHandled_iff {W : WriteRules} {route : WebhookRoute} {message : NormalizedMessage} {run : ProviderRun}
    {target : GraphTarget} {credentials : List GraphDelegatedCredential} (htarget : targetForRoute route = .ok target)
    (hsent : sentCredential P s route.organizationId credentials = some credential) :
    GraphHandled P s W route message run credentials ↔
      GraphTokenHandled P s run.sentAt credential W.refused
        (fun row => GraphPostsHandled P (W.graphError P target row) message run.send run.retry) run.token := by
  obtain ⟨hregistered, hfind, hnonempty, secret, hsecret⟩ := sentCredential_eq_some hsent
  have hkey := (@ends_decryptSecret P s (fun _ => True) False _ True).1 (by rw [hsecret]; exact trivial)
  unfold GraphHandled
  simp only [htarget, Except.ok.injEq, forall_eq', hregistered, true_and, hfind, hnonempty, false_or,
    and_iff_right hkey.1]

/-- A delivery through Graph calls for a token once its target is known. -/
theorem credentials_deliverToRoute {route : WebhookRoute} {message : NormalizedMessage} {run : ProviderRun}
    {target : GraphTarget} (hgraph : routeDeliveryBackend route = "graph") (htarget : targetForRoute route = .ok target)
    (credentials : List GraphDelegatedCredential) :
    (deliverToRoute P s route message run credentials).1 =
      session P s ⟨route.organizationId, run.sentAt, run.token⟩ credentials := by
  unfold deliverToRoute sendGraphMessage delegatedToken session
  simp only [hgraph, if_true, htarget]
  split
  next h =>
    obtain ⟨rfl, -⟩ := Prod.mk.inj h
    rfl
  next h =>
    obtain ⟨rfl, -⟩ := Prod.mk.inj h
    split <;> rfl

/-- The credentials of a delivery are committed when what became of it is recorded in a text that its event takes. -/
theorem credentials_complete {run : ProviderRun} {d : Reserved} (hroute : d.route ∈ db.routes)
    (hevent : d.event ∈ db.events) : (complete P s run d db).1.credentials = open Classical in
      if ∃ sent, (deliverToRoute P s d.route d.message run db.credentials).2 = .ok sent ∧
        d.takesError P sent.error = true then
        (deliverToRoute P s d.route d.message run db.credentials).1
      else db.credentials := by
  unfold complete
  dsimp only
  cases hsent : (deliverToRoute P s d.route d.message run db.credentials).2 with
  | error e => simp
  | ok sent =>
    have hflushed := @flushDelivery_of_mem P d db (deliverToRoute P s d.route d.message run db.credentials).1 run.sentAt
      sent hroute hevent
    cases hflush : flushDelivery P run.sentAt d sent
        { db with credentials := (deliverToRoute P s d.route d.message run db.credentials).1 } with
    | ok db' =>
      simp only [hflush, flushDelivery_ok hflush]
      simp [hflushed.1 ⟨db', hflush⟩]
    | error e =>
      have hrefused : ¬d.takesError P sent.error = true := fun htakes => by
        obtain ⟨db', hok⟩ := hflushed.2 htakes
        nomatch hflush.symm.trans hok
      simp only [hflush]
      simp [hrefused]

open Classical in
theorem follows_delivery {V : Services} {request : WebhookRequest} {run : ProviderRun}
    (hcall : (TokenRequest.delivery V request run).call? P s db = some call)
    (hsent : sentCredential P s call.organizationId db.credentials = some credential) :
    Follows P s call credential ((TokenRequest.delivery V request run).Commits P s db call credential) db.credentials
      ((TokenRequest.delivery V request run).committed P s db).credentials := by
  unfold TokenRequest.call? at hcall
  dsimp only at hcall
  unfold TokenRequest.committed TokenRequest.Commits
  dsimp only
  generalize hadmit : admitWebhook P V s request db = admitted at hcall ⊢
  obtain ⟨db₁, admission⟩ := admitted
  dsimp only at hcall ⊢
  split at hcall
  next d =>
    split at hcall
    next target htarget =>
      split at hcall
      next hgraph =>
        cases hcall
        obtain ⟨hroute, hevent, hcredentials⟩ := reserved_mem hadmit
        refine follows_of_commit (∃ sent, (deliverToRoute P s d.route d.message run db₁.credentials).2 = .ok sent ∧
          d.takesError P sent.error = true) ?_ fun hanswered => ?_
        · rw [credentials_complete hroute hevent, credentials_deliverToRoute hgraph htarget, hcredentials]
        · rw [deliverToRoute_written_iff, hcredentials]
          unfold DeliveryHandled
          rw [if_pos hgraph, graphHandled_iff htarget hsent]
          refine Iff.trans ?_ (tokenHandled_iff hsent hanswered).symm
          constructor
          · exact fun h => h d target rfl htarget
          · rintro h d' target' ⟨⟩ htarget'
            obtain rfl := Except.ok.inj (htarget.symm.trans htarget')
            exact h
      next => nomatch hcall
    next => nomatch hcall
  next => nomatch hcall

/-- Every request that calls for a token follows its commit. -/
theorem follows_committed {request : TokenRequest} (hcall : request.call? P s db = some call)
    (hsent : sentCredential P s call.organizationId db.credentials = some credential) :
    Follows P s call credential (request.Commits P s db call credential) db.credentials
      (request.committed P s db).credentials := by
  cases request with
  | delivery => exact follows_delivery hcall hsent
  | chatSearch => exact follows_chatSearch
  | createRoute => exact follows_createRoute hcall hsent
  | updateRoute => exact follows_updateRoute hcall hsent
  | refreshMembers => exact follows_refreshMembers hcall hsent
  | statusRefresh => exact follows_statusRefresh hcall hsent

end RotatedTokensAux

/-- Tables with a connected service user. -/
def connectedDatabase : Database where
  organizations := [{ id := 1, slug := "default", name := "Default Organization" }]
  credentials := [{ organizationId := 1, encryptedRefreshToken := "old", lastStatus := "ready" }]
  nextId := 2

/-- The job refreshes the status of the connection, and is answered with a new refresh token. -/
def rotatingJob : TokenRequest := .statusRefresh 1 1 (.response 200 (.body [])) (.ok ()) (.ok ())

/-- A search for chats is answered with a new refresh token, and finds its chats. -/
def rotatingSearch : TokenRequest := .chatSearch 1 1 (.response 200 (.body [])) (.ok [])

end TeamsRehook
