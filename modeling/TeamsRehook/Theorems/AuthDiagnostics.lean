import TeamsRehook.Delivery.AuthDiagnostics
import TeamsRehook.Delivery.GraphAuth
import TeamsRehook.Lib.Except
import TeamsRehook.Lib.Splitting

/-!
# Whose readiness is shown

The readiness of the bot and of the Graph lookup is told from the last refresh, and only when it was made with the
credentials in force.
-/

namespace TeamsRehook

/-- No value of the credentials has a NUL, which ends a value in the text that is signed. -/
def AppCredentials.Plain (c : AppCredentials) : Prop := ∀ value ∈ c.values, '\x00' ∉ value.toList

instance (c : AppCredentials) : Decidable c.Plain := inferInstanceAs (Decidable (∀ value ∈ c.values, _))

/-- The last token request of a component of an organization whose outcome is stored. -/
def AuthHistory.lastCheck (x : AuthHistory) (organizationId : Nat) (component : AuthComponent) : Option AuthCheck :=
  x.checks.find? (·.of organizationId component)

/-- The request got a token. -/
def AuthCheck.Succeeded (P : Platform) (check : AuthCheck) : Prop :=
  ∃ response, fetchOauthToken P check.credentials check.reply = .ok response

/-- The roles in the token that a request got. -/
def AuthCheck.roles (P : Platform) (check : AuthCheck) : List String :=
  match fetchOauthToken P check.credentials check.reply with
  | .ok response => (memberList "roles" response.claims).map (strOf P)
  | .error _ => []

/-- No other credentials of a stored request have the hash of these, and none of them has a NUL. -/
structure Distinguished (P : Platform) (x : AuthHistory) (c : AppCredentials) : Prop where
  hash : ∀ check ∈ x.checks, P.sha256Hex (signatureText check.credentials.values) = P.sha256Hex (signatureText c.values) →
    signatureText check.credentials.values = signatureText c.values
  checks : ∀ check ∈ x.checks, check.credentials.Plain
  plain : c.Plain

instance (x : AuthHistory) (c : AppCredentials) : Decidable (Distinguished P x c) :=
  decidable_of_iff ((∀ check ∈ x.checks, P.sha256Hex (signatureText check.credentials.values) =
    P.sha256Hex (signatureText c.values) → signatureText check.credentials.values = signatureText c.values) ∧
      (∀ check ∈ x.checks, check.credentials.Plain) ∧ c.Plain)
    ⟨fun ⟨h₁, h₂, h₃⟩ => ⟨h₁, h₂, h₃⟩, fun ⟨h₁, h₂, h₃⟩ => ⟨h₁, h₂, h₃⟩⟩

namespace AuthDiagnosticsAux

variable {P : Platform}

/-! ## Signatures -/

/-- The text of the values begins with the first one and a NUL. -/
theorem signatureText_cons (value : String) (values : List String) :
    (signatureText (value :: values)).toList = value.toList ++ '\x00' :: (signatureText values).toList := by
  simp [signatureText]

/-- Values without a NUL can be read back from the text that is signed. -/
theorem signatureText_inj {values values' : List String} (hplain : ∀ value ∈ values, '\x00' ∉ value.toList)
    (hplain' : ∀ value ∈ values', '\x00' ∉ value.toList) (h : signatureText values = signatureText values') :
    values = values' := by
  induction values generalizing values' with
  | nil =>
    cases values' with
    | nil => rfl
    | cons value' values' =>
      have hchars := congrArg String.toList h
      rw [signatureText_cons] at hchars
      simp [signatureText] at hchars
  | cons value values ih =>
    cases values' with
    | nil =>
      have hchars := congrArg String.toList h
      rw [signatureText_cons] at hchars
      simp [signatureText] at hchars
    | cons value' values' =>
      have hchars := congrArg (fun text => Python.partitionChars ['\x00'] text.toList) h
      simp only [signatureText_cons] at hchars
      rw [Python.partitionChars_append (hplain value List.mem_cons_self),
        Python.partitionChars_append (hplain' value' List.mem_cons_self)] at hchars
      obtain ⟨hvalue, hrest⟩ := Prod.mk.inj (Option.some.inj hchars)
      rw [String.toList_injective hvalue, ih (fun v hv => hplain v (List.mem_cons_of_mem _ hv))
        (fun v hv => hplain' v (List.mem_cons_of_mem _ hv)) (String.toList_injective hrest)]

/-- Plain credentials can be read back from the text that is signed. -/
theorem credentials_of_signatureText {c c' : AppCredentials} (hplain : c.Plain) (hplain' : c'.Plain)
    (h : signatureText c.values = signatureText c'.values) : c = c' := by
  have hvalues := signatureText_inj hplain hplain' h
  cases c
  cases c'
  simpa [AppCredentials.values] using hvalues

/-! ## What is stored -/

/-- The snapshot tells the outcome of the request. -/
structure Taken (P : Platform) (snapshot : AuthDiagnosticSnapshot) (check : AuthCheck) : Prop where
  organization : snapshot.organizationId = check.organizationId
  component : snapshot.component = check.component
  signature : snapshot.credentialSignature = appOnlyCredentialSignature P check.credentials
  succeeded : snapshot.tokenRequestSucceeded = true ↔ check.Succeeded P
  ready : snapshot.component = .botDelivery → snapshot.tokenRequestSucceeded = true → snapshot.status = "ready"
  roles : snapshot.diagnostics.token.roles = check.roles P

/-- What the diagnostics of a token tell. -/
theorem tokenDiagnostics_eq_ok {checkedAt : Int} {response : OAuthTokenResponse} {token : OAuthTokenDiagnostics}
    (h : tokenDiagnostics P checkedAt response = .ok token) :
    token.succeeded = true ∧ token.roles = (memberList "roles" response.claims).map (strOf P) := by
  obtain ⟨expiresAt, -, h⟩ := Except.bind_eq_ok_iff.1 h
  cases h
  exact ⟨rfl, rfl⟩

variable {job : AuthJob} {replies : AuthReplies} {snapshot : AuthDiagnosticSnapshot} {component : RefreshComponent}

/-- A refresh of real delivery takes a snapshot of its token request. -/
theorem taken_bot (h : refreshBotDeliveryToken P job.settings job.organizationId replies =
    .ok (some snapshot, component)) : Taken P snapshot (job.check replies .botDelivery) := by
  simp only [refreshBotDeliveryToken] at h
  split at h
  · cases h
  split at h
  · cases h
  split at h
  · cases h
  · next failure _ hfetch =>
    cases h
    refine ⟨rfl, rfl, rfl, ?_, fun _ hsucceeded => (by cases hsucceeded), ?_⟩
    · simp [AuthCheck.Succeeded, AuthJob.check, AuthReplies.token, hfetch, oauthSnapshot, oauthDiagnostics, failedToken]
    · simp [AuthCheck.roles, AuthJob.check, AuthReplies.token, hfetch, oauthSnapshot, oauthDiagnostics, failedToken]
  · next response hfetch =>
    obtain ⟨token, htoken, h⟩ := Except.bind_eq_ok_iff.1 h
    cases h
    obtain ⟨hsucceeded, hroles⟩ := tokenDiagnostics_eq_ok htoken
    refine ⟨rfl, rfl, rfl, ?_, fun _ _ => rfl, ?_⟩
    · simp [AuthCheck.Succeeded, AuthJob.check, AuthReplies.token, hfetch, oauthSnapshot, oauthDiagnostics, hsucceeded]
    · simp [AuthCheck.roles, AuthJob.check, AuthReplies.token, hfetch, oauthSnapshot, oauthDiagnostics, hroles]

/-- A refresh of the Graph lookup takes a snapshot of its token request. -/
theorem taken_graph (h : refreshGraphLookupToken P job.settings job.organizationId replies =
    .ok (some snapshot, component)) : Taken P snapshot (job.check replies .graphLookup) := by
  simp only [refreshGraphLookupToken] at h
  split at h
  · cases h
  split at h
  · cases h
  · cases h
  · next message hfetch =>
    cases h
    refine ⟨rfl, rfl, rfl, ?_, fun h => (by cases h), ?_⟩
    · simp [AuthCheck.Succeeded, AuthJob.check, AuthReplies.token, hfetch, oauthSnapshot, oauthDiagnostics, failedToken]
    · simp [AuthCheck.roles, AuthJob.check, AuthReplies.token, hfetch, oauthSnapshot, oauthDiagnostics, failedToken]
  · next response hfetch =>
    obtain ⟨token, htoken, h⟩ := Except.bind_eq_ok_iff.1 h
    obtain ⟨app, -, h⟩ := Except.bind_eq_ok_iff.1 h
    obtain ⟨tenant, -, h⟩ := Except.bind_eq_ok_iff.1 h
    cases h
    obtain ⟨hsucceeded, hroles⟩ := tokenDiagnostics_eq_ok htoken
    refine ⟨rfl, rfl, rfl, ?_, fun h => (by cases h), ?_⟩
    · simp [AuthCheck.Succeeded, AuthJob.check, AuthReplies.token, hfetch, oauthSnapshot, oauthDiagnostics, hsucceeded]
    · simp [AuthCheck.roles, AuthJob.check, AuthReplies.token, hfetch, oauthSnapshot, oauthDiagnostics, hroles]

/-- A job stores snapshots of its own token requests. -/
theorem taken_of_stored {stored : List AuthDiagnosticSnapshot} (h : job.stored P replies = .ok stored) :
    ∀ snapshot ∈ stored, Taken P snapshot (job.check replies snapshot.component) := by
  obtain ⟨⟨botSnapshot, botComponent⟩, hbot, h⟩ := Except.bind_eq_ok_iff.1 h
  obtain ⟨⟨graphSnapshot, graphComponent⟩, hgraph, h⟩ := Except.bind_eq_ok_iff.1 h
  cases h
  intro snapshot hsnapshot
  rcases List.mem_append.1 hsnapshot with hmem | hmem
  · obtain rfl := Option.mem_toList.1 hmem
    have htaken := taken_bot hbot
    rwa [htaken.component]
  · obtain rfl := Option.mem_toList.1 hmem
    have htaken := taken_graph hgraph
    rwa [htaken.component]

/-- A snapshot is that of an organization and a component. -/
theorem of_iff {organizationId : Nat} {component : AuthComponent} :
    snapshot.of organizationId component = true ↔ snapshot.organizationId = organizationId ∧
    snapshot.component = component := by
  simp [AuthDiagnosticSnapshot.of]

/-- A lookup finds a snapshot that was stored, and what it found before for another component or organization. -/
theorem find?_storeOauthSnapshot (snapshot : AuthDiagnosticSnapshot) (snapshots : List AuthDiagnosticSnapshot)
    (organizationId : Nat) (component : AuthComponent) :
    (storeOauthSnapshot snapshot snapshots).find? (·.of organizationId component) =
      if snapshot.of organizationId component then some snapshot
      else snapshots.find? (·.of organizationId component) := by
  have hself : snapshot.of snapshot.organizationId snapshot.component = true := of_iff.2 ⟨rfl, rfl⟩
  unfold storeOauthSnapshot
  split
  · next hany =>
    by_cases hof : snapshot.of organizationId component = true
    · obtain ⟨rfl, rfl⟩ := of_iff.1 hof
      obtain ⟨row, hrow⟩ := Option.isSome_iff_exists.1 (List.find?_isSome.2 (List.any_eq_true.1 hany))
      obtain ⟨-, hfound⟩ := Table.exists_find?_update (f := fun _ => snapshot) hrow (List.find?_some hrow) fun _ => hself
      rw [if_pos hof, hfound]
    · rw [if_neg hof, ← List.head?_filter, Table.filter_update, List.head?_filter]
      intro row hrow
      rw [Bool.not_eq_true] at hof
      refine ⟨?_, hof⟩
      obtain ⟨horganization, hcomponent⟩ := of_iff.1 hrow
      rw [← hof, AuthDiagnosticSnapshot.of, AuthDiagnosticSnapshot.of, horganization, hcomponent]
  · next hnone =>
    rw [List.find?_append, List.find?_singleton]
    by_cases hof : snapshot.of organizationId component = true
    · obtain ⟨rfl, rfl⟩ := of_iff.1 hof
      rw [List.any_eq_true, not_exists] at hnone
      rw [List.find?_eq_none.2 fun row hrow hthis => hnone row ⟨hrow, hthis⟩, if_pos hof]
      rfl
    · rw [if_neg hof, Option.or_none, if_neg hof]

/-- Each snapshot tells the outcome of the last request of its component and organization, and there is none where none
was made. -/
def Inv (P : Platform) (x : AuthHistory) : Prop :=
  ∀ organizationId component,
    Option.Rel (Taken P) (x.snapshots.find? (·.of organizationId component)) (x.lastCheck organizationId component)

/-- A snapshot that is stored keeps the invariant. -/
theorem inv_store {x : AuthHistory} (hI : Inv P x) (htaken : Taken P snapshot (job.check replies snapshot.component)) :
    Inv P (x.store job replies snapshot) := by
  intro organizationId component
  have hof : (job.check replies snapshot.component).of organizationId component =
      snapshot.of organizationId component := by
    simp only [AuthCheck.of, AuthDiagnosticSnapshot.of, ← htaken.organization]
    rfl
  simp only [AuthHistory.store, AuthHistory.lastCheck, find?_storeOauthSnapshot, List.find?_cons, hof]
  cases snapshot.of organizationId component with
  | true => exact .some htaken
  | false => exact hI organizationId component

/-- The snapshots of a refresh keep the invariant. -/
theorem inv_stored {stored : List AuthDiagnosticSnapshot} {x : AuthHistory} (hI : Inv P x)
    (htaken : ∀ snapshot ∈ stored, Taken P snapshot (job.check replies snapshot.component)) :
    Inv P (stored.foldl (AuthHistory.store job replies) x) := by
  induction stored generalizing x with
  | nil => exact hI
  | cons snapshot stored ih =>
    exact ih (inv_store hI (htaken snapshot List.mem_cons_self)) fun other hother =>
      htaken other (List.mem_cons_of_mem _ hother)

/-- Every step keeps the invariant. -/
theorem inv_step (x : AuthHistory) (a : AuthStep) (x' : AuthHistory) (hI : Inv P x) (h : authStep P x a = some x') :
    Inv P x' := by
  cases a with
  | configure s =>
    obtain rfl := Option.some.inj h
    exact hI
  | start organizationId =>
    obtain rfl := Option.some.inj h
    exact hI
  | finish job replies raises =>
    obtain ⟨found, -, rfl⟩ := Option.map_eq_some_iff.1 h
    dsimp only
    split
    · next hstored => exact inv_stored hI (taken_of_stored hstored)
    · exact hI

/-- What the readiness of the credentials is told from: the last request, when it was made with them. -/
theorem shown_check {x : AuthHistory} (organizationId : Nat) (component : AuthComponent) {c : AppCredentials}
    (hI : Inv P x) (hdistinguished : Distinguished P x c) :
    Option.Rel (Taken P) (getOauthSnapshot organizationId component (appOnlyCredentialSignature P c) x.snapshots)
      ((x.lastCheck organizationId component).filter fun check => decide (check.credentials = c)) := by
  have hlast := hI organizationId component
  unfold getOauthSnapshot
  cases hcheck : x.lastCheck organizationId component with
  | none =>
    rw [hcheck] at hlast
    cases hsnapshot : x.snapshots.find? (·.of organizationId component) with
    | none => exact .none
    | some snapshot =>
      rw [hsnapshot] at hlast
      cases hlast
  | some check =>
    rw [hcheck] at hlast
    cases hsnapshot : x.snapshots.find? (·.of organizationId component) with
    | none =>
      rw [hsnapshot] at hlast
      cases hlast
    | some snapshot =>
      rw [hsnapshot] at hlast
      obtain ⟨htaken⟩ := hlast
      have hmem : check ∈ x.checks := List.mem_of_find?_eq_some hcheck
      have hsame : snapshot.credentialSignature = appOnlyCredentialSignature P c ↔ check.credentials = c := by
        rw [htaken.signature]
        exact ⟨fun h => credentials_of_signatureText (hdistinguished.checks check hmem) hdistinguished.plain
          (hdistinguished.hash check hmem h), fun h => h ▸ rfl⟩
      by_cases h : check.credentials = c
      · rw [Option.filter_some_pos (by simpa using hsame.2 h), Option.filter_some_pos (by simpa using h)]
        exact .some htaken
      · rw [Option.filter_some_neg (by simpa using fun h' => h (hsame.1 h')), Option.filter_some_neg (by simpa using h)]
        exact .none

/-- What holds of the snapshot that is shown, when it is what holds of the request behind it. -/
theorem exists_shown_iff {x : AuthHistory} (organizationId : Nat) (component : AuthComponent) {c : AppCredentials}
    (hI : Inv P x) (hdistinguished : Distinguished P x c) {Q : AuthDiagnosticSnapshot → Prop} {R : AuthCheck → Prop}
    (hQR : ∀ snapshot check, Taken P snapshot check → snapshot.component = component → (Q snapshot ↔ R check)) :
    (∃ snapshot, getOauthSnapshot organizationId component (appOnlyCredentialSignature P c) x.snapshots =
      some snapshot ∧ Q snapshot) ↔
      ∃ check, x.lastCheck organizationId component = some check ∧ check.credentials = c ∧ R check := by
  have hshown := shown_check organizationId component hI hdistinguished
  have hcomponent : ∀ snapshot, getOauthSnapshot organizationId component (appOnlyCredentialSignature P c) x.snapshots =
      some snapshot → snapshot.component = component := fun snapshot hsnapshot =>
    (of_iff.1 (List.find?_some (Option.filter_eq_some_iff.1 hsnapshot).1)).2
  cases hcheck : (x.lastCheck organizationId component).filter fun check => decide (check.credentials = c) with
  | none =>
    rw [hcheck] at hshown
    cases hsnapshot : getOauthSnapshot organizationId component (appOnlyCredentialSignature P c) x.snapshots with
    | none =>
      refine ⟨fun ⟨_, h, _⟩ => (by cases h), fun ⟨check, hlast, hc, _⟩ => ?_⟩
      have hsome := (Option.filter_eq_some_iff (p := fun check => decide (check.credentials = c))).2 ⟨hlast,
        decide_eq_true hc⟩
      rw [hcheck] at hsome
      cases hsome
    | some snapshot =>
      rw [hsnapshot] at hshown
      cases hshown
  | some check =>
    rw [hcheck] at hshown
    obtain ⟨hlast, hc⟩ := Option.filter_eq_some_iff.1 hcheck
    cases hsnapshot : getOauthSnapshot organizationId component (appOnlyCredentialSignature P c) x.snapshots with
    | none =>
      rw [hsnapshot] at hshown
      cases hshown
    | some snapshot =>
      rw [hsnapshot] at hshown
      obtain ⟨htaken⟩ := hshown
      have hiff := hQR snapshot check htaken (hcomponent snapshot hsnapshot)
      refine ⟨fun ⟨_, h, hQ⟩ => ⟨check, hlast, of_decide_eq_true hc, ?_⟩, fun ⟨_, h, _, hR⟩ => ⟨snapshot, rfl, ?_⟩⟩
      · obtain rfl := Option.some.inj h
        exact hiff.1 hQ
      · obtain rfl := Option.some.inj (hlast.symm.trans h)
        exact hiff.2 hR

/-- Real delivery is ready when it is configured and there is a snapshot for the credentials that says so. -/
theorem botReadiness_ready_iff {s : AuthSettings} {organizationId : Nat} {snapshots : List AuthDiagnosticSnapshot}
    (hreal : s.realBotDelivery P = true) :
    (botReadiness P s organizationId snapshots).ready = true ↔
      (s.credentials .botDelivery).configured = true ∧
        ∃ snapshot, getOauthSnapshot organizationId .botDelivery
          (appOnlyCredentialSignature P (s.credentials .botDelivery)) snapshots =
          some snapshot ∧ snapshot.tokenRequestSucceeded = true ∧ snapshot.status = "ready" := by
  simp only [botReadiness]
  rw [if_neg (by simp [hreal])]
  split
  · next h =>
    have hmissing : (s.credentials .botDelivery).configured = false := by simpa using h
    simp [hmissing]
  · next h =>
    have hconfigured : (s.credentials .botDelivery).configured = true := by simpa using h
    split
    · next hnone => simp [hnone]
    · next snapshot hsome => simp [hsome, hconfigured, and_comm]

/-- The Graph lookup is ready when it is configured and there is a snapshot for the credentials that says so. -/
theorem graphLookupReadiness_ready_iff {s : AuthSettings} {organizationId : Nat}
    {snapshots : List AuthDiagnosticSnapshot} :
    (graphLookupReadiness P s organizationId snapshots).ready = true ↔
      (s.credentials .graphLookup).configured = true ∧
        ∃ snapshot, getOauthSnapshot organizationId .graphLookup
          (appOnlyCredentialSignature P (s.credentials .graphLookup)) snapshots =
          some snapshot ∧ snapshot.tokenRequestSucceeded = true := by
  simp only [graphLookupReadiness]
  split
  · next h =>
    have hmissing : (s.credentials .graphLookup).configured = false := by simpa using h
    simp [hmissing]
  · next h =>
    have hconfigured : (s.credentials .graphLookup).configured = true := by simpa using h
    cases getOauthSnapshot organizationId .graphLookup (appOnlyCredentialSignature P (s.credentials .graphLookup))
        snapshots with
    | none => simp
    | some snapshot => simp [hconfigured]

/-- Groups can be looked up when the snapshot has one of the roles. -/
theorem graphLookupReadiness_groups_iff {s : AuthSettings} {organizationId : Nat}
    {snapshots : List AuthDiagnosticSnapshot} :
    (graphLookupReadiness P s organizationId snapshots).groupMembershipLookupReady = true ↔
      (s.credentials .graphLookup).configured = true ∧
        ∃ snapshot, getOauthSnapshot organizationId .graphLookup
          (appOnlyCredentialSignature P (s.credentials .graphLookup)) snapshots =
          some snapshot ∧ (graphGroupMembershipReadiness P snapshot.diagnostics.token.roles).ready = true := by
  simp only [graphLookupReadiness]
  split
  · next h =>
    have hmissing : (s.credentials .graphLookup).configured = false := by simpa using h
    simp [hmissing]
  · next h =>
    have hconfigured : (s.credentials .graphLookup).configured = true := by simpa using h
    cases getOauthSnapshot organizationId .graphLookup (appOnlyCredentialSignature P (s.credentials .graphLookup))
        snapshots with
    | none => simp [graphGroupMembershipReadiness]
    | some snapshot => simp [hconfigured]

/-- The invariant holds in every state that can be reached. -/
theorem inv_of_run {s₀ : AuthSettings} {steps : List AuthStep} {x : AuthHistory}
    (hrun : Transition.exec (authStep P) { settings := s₀ } steps = some x) : Inv P x :=
  Transition.exec_invariant inv_step (fun _ _ => .none) hrun

end AuthDiagnosticsAux

open AuthDiagnosticsAux in
/-- However refreshes and changes of the settings are interleaved, real delivery is shown as ready exactly when the last
refresh of the organization that was stored got a token with the very credentials that are in force: a refresh that
began before they were changed does not count for the new ones. -/
theorem bot_readiness_current {P : Platform} {s₀ : AuthSettings} {steps : List AuthStep} {x : AuthHistory}
    (hrun : Transition.exec (authStep P) { settings := s₀ } steps = some x) (hreal : x.settings.realBotDelivery P = true)
    (hdistinguished : Distinguished P x (x.settings.credentials .botDelivery)) (organizationId : Nat) :
    (botReadiness P x.settings organizationId x.snapshots).ready = true ↔
      (x.settings.credentials .botDelivery).configured = true ∧
        ∃ check, x.lastCheck organizationId .botDelivery = some check ∧
        check.credentials = x.settings.credentials .botDelivery ∧
          check.Succeeded P := by
  have hiff := exists_shown_iff organizationId .botDelivery (inv_of_run hrun) hdistinguished
    (Q := fun snapshot => snapshot.tokenRequestSucceeded = true ∧ snapshot.status = "ready") (R := fun check =>
      check.Succeeded P)
    fun snapshot check htaken hcomponent =>
      ⟨fun h => htaken.succeeded.1 h.1, fun h => ⟨htaken.succeeded.2 h, htaken.ready hcomponent (htaken.succeeded.2 h)⟩⟩
  rw [← hiff]
  exact botReadiness_ready_iff hreal

/-- A token with the role to read the members of groups. -/
def roleToken : String := "e30.eyJyb2xlcyI6WyJHcm91cE1lbWJlci5SZWFkLkFsbCJdfQ.c2ln"

/-- The answer of a token endpoint that gives this token. -/
def roleAnswer : String := "\x7b\"access_token\":\"e30.eyJyb2xlcyI6WyJHcm91cE1lbWJlci5SZWFkLkFsbCJdfQ.c2ln\"\x7d"

/-- The token endpoint gives the token, and nothing is told about the app and the tenant. -/
def roleReplies : AuthReplies where
  botToken := .response 200 (.body (roleAnswer.toList.map fun c => c.toNat.toUInt8))
  botCheckedAt := 0
  graphToken := .response 200 (.body (roleAnswer.toList.map fun c => c.toNat.toUInt8))
  servicePrincipal := .urlError
  organization := .urlError
  graphCheckedAt := 0

/-- A platform that reads these replies. -/
def rolePlatform : Platform :=
  { Platform.plain with
    base64UrlDecode := fun text => Base64.urlsafeDecode text.toList
    lower := fun text => String.ofList (text.toList.map Char.toLower)
    jsonLoads := fun text =>
      if text = roleAnswer then .ok (.obj [("access_token", .str roleToken)])
      else if text = "\x7b\"roles\":[\"GroupMember.Read.All\"]\x7d" then
        .ok (.obj [("roles", .arr [.str "GroupMember.Read.All"])])
      else .error .jsonDecodeError }

/-- The settings of an app registration, and those with another client secret. -/
def registeredAuth : AuthSettings := { toSettings := registeredApp }

/-- The client secret is changed while a job is at work. -/
def changedDuringRefresh : List AuthStep :=
  [.start 1, .configure { registeredAuth with msAppClientSecret := "rotated" }, .finish 0 roleReplies false]

/-- What the job stored does not count for the new secret. -/
theorem bot_readiness_current_changed :
    ∃ x, Transition.exec (authStep rolePlatform) { settings := registeredAuth } changedDuringRefresh = some x ∧
      (botReadiness rolePlatform x.settings 1 x.snapshots).authStatus = "unchecked" ∧
      ((botReadiness rolePlatform x.settings 1 x.snapshots).ready = true ↔
        (x.settings.credentials .botDelivery).configured = true ∧
          ∃ check, x.lastCheck 1 .botDelivery = some check ∧ check.credentials = x.settings.credentials .botDelivery ∧
            check.Succeeded rolePlatform) := by
  have hvalue : (Transition.exec (authStep rolePlatform) { settings := registeredAuth } changedDuringRefresh).map
      (fun x =>
      ((botReadiness rolePlatform x.settings 1 x.snapshots).authStatus, x.settings.realBotDelivery rolePlatform,
        decide (Distinguished rolePlatform x (x.settings.credentials .botDelivery)))) =
        some ("unchecked", true, true) := by
    decide +kernel
  obtain ⟨x, hrun, hreached⟩ := Option.map_eq_some_iff.1 hvalue
  obtain ⟨hstatus, hrest⟩ := Prod.mk.inj hreached
  obtain ⟨hreal, hdistinguished⟩ := Prod.mk.inj hrest
  exact ⟨x, hrun, hstatus, bot_readiness_current hrun hreal (of_decide_eq_true hdistinguished) 1⟩

open AuthDiagnosticsAux in
/-- The Graph lookup is shown as ready exactly when the last refresh of the organization that was stored got a token
with the credentials in force, and the groups can be looked up when the token has one of the roles for it. -/
theorem graph_readiness_current {P : Platform} {s₀ : AuthSettings} {steps : List AuthStep} {x : AuthHistory}
    (hrun : Transition.exec (authStep P) { settings := s₀ } steps = some x)
    (hdistinguished : Distinguished P x (x.settings.credentials .graphLookup)) (organizationId : Nat) :
    ((graphLookupReadiness P x.settings organizationId x.snapshots).ready = true ↔
        (x.settings.credentials .graphLookup).configured = true ∧
          ∃ check, x.lastCheck organizationId .graphLookup = some check ∧
            check.credentials = x.settings.credentials .graphLookup ∧ check.Succeeded P) ∧
      ((graphLookupReadiness P x.settings organizationId x.snapshots).groupMembershipLookupReady = true ↔
        (x.settings.credentials .graphLookup).configured = true ∧
          ∃ check, x.lastCheck organizationId .graphLookup = some check ∧
            check.credentials = x.settings.credentials .graphLookup ∧
              (graphGroupMembershipReadiness P (check.roles P)).ready = true) := by
  have hI := inv_of_run hrun
  constructor
  · rw [graphLookupReadiness_ready_iff, exists_shown_iff organizationId .graphLookup hI hdistinguished]
    exact fun snapshot check htaken _ => htaken.succeeded
  · rw [graphLookupReadiness_groups_iff, exists_shown_iff organizationId .graphLookup hI hdistinguished]
    exact fun snapshot check htaken _ => htaken.roles ▸ Iff.rfl

/-- Nothing is told about the app, and the token has a role for the groups. -/
theorem graph_readiness_current_refreshed :
    ∃ x, Transition.exec (authStep rolePlatform) { settings := registeredAuth } [.start 1,
      .finish 0 roleReplies false] = some x ∧
      (graphLookupReadiness rolePlatform x.settings 1 x.snapshots).authStatus = "permission_warning" ∧
      ((graphLookupReadiness rolePlatform x.settings 1 x.snapshots).ready = true ↔
        (x.settings.credentials .graphLookup).configured = true ∧
          ∃ check, x.lastCheck 1 .graphLookup = some check ∧ check.credentials = x.settings.credentials .graphLookup ∧
            check.Succeeded rolePlatform) ∧
      ((graphLookupReadiness rolePlatform x.settings 1 x.snapshots).groupMembershipLookupReady = true ↔
        (x.settings.credentials .graphLookup).configured = true ∧
          ∃ check, x.lastCheck 1 .graphLookup = some check ∧ check.credentials = x.settings.credentials .graphLookup ∧
            (graphGroupMembershipReadiness rolePlatform (check.roles rolePlatform)).ready = true) := by
  have hvalue : (Transition.exec (authStep rolePlatform) { settings := registeredAuth } [.start 1,
    .finish 0 roleReplies false]).map
      (fun x => ((graphLookupReadiness rolePlatform x.settings 1 x.snapshots).authStatus,
        decide (Distinguished rolePlatform x (x.settings.credentials .graphLookup)))) =
        some ("permission_warning", true) := by
    decide +kernel
  obtain ⟨x, hrun, hreached⟩ := Option.map_eq_some_iff.1 hvalue
  obtain ⟨hstatus, hdistinguished⟩ := Prod.mk.inj hreached
  exact ⟨x, hrun, hstatus, graph_readiness_current hrun (of_decide_eq_true hdistinguished) 1⟩

end TeamsRehook
