import TeamsRehook.Delivery.GraphReadiness

namespace TeamsRehook

/-! ## Monitoring and the readiness view agree -/

/-- The two views tell the same of a stored credential: without a refresh token its status is that of a missing one;
with one, its status is one that the readiness view tells as it is, which is `incomplete` alone where the app
registration is not complete. -/
def SameReadiness (s : Settings) (credential : GraphDelegatedCredential) : Prop :=
  if credential.encryptedRefreshToken = "" then credential.lastStatus ∈ ["", "missing"]
  else if missingAppRegistration s = [] then credential.lastStatus ∈ ["ready", "expired", "token_error", "unchecked"]
  else credential.lastStatus = "incomplete"

namespace GraphReadinessAux

variable {P : Platform} {s : Settings} {db : Database} {organizationId : Nat} {diagnostics : GraphDelegatedDiagnostics}

theorem missingAppRegistration_eq_nil_iff :
    missingAppRegistration s = [] ↔ ¬(s.msAppTenantId = "" ∨ s.msAppClientId = "" ∨ s.msAppClientSecret = "") := by
  unfold missingAppRegistration
  by_cases htenant : s.msAppTenantId = "" <;> by_cases hclient : s.msAppClientId = "" <;>
    by_cases hsecret : s.msAppClientSecret = "" <;> simp [htenant, hclient, hsecret]

/-- The status under which monitoring tells a diagnosis. -/
def monitoringStatus (P : Platform) (diagnostics : GraphDelegatedDiagnostics) : String :=
  if diagnostics.configured = true ∧ diagnostics.status = "ready" ∧
      missingRequiredScopes P diagnostics.grantedScopes defaultDelegatedGraphScopes ≠ [] then "permission_warning"
  else diagnostics.status

/-- The views agree on a diagnosis: on its status, and on whether it is ready. -/
def Agree (P : Platform) (s : Settings) (diagnostics : GraphDelegatedDiagnostics) : Prop :=
  (diagnostics.configured && monitoringStatus P diagnostics == "ready") = (graphDeliveryVerdict P s diagnostics).ready ∧
    monitoringStatus P diagnostics = (graphDeliveryVerdict P s diagnostics).authStatus

/-- Without a refresh token only a missing status is told by both. -/
theorem agree_unconfigured (hconfigured : diagnostics.configured = false) :
    Agree P s diagnostics ↔ diagnostics.status = "missing" := by
  have hstatus : monitoringStatus P diagnostics = diagnostics.status := by simp [monitoringStatus, hconfigured]
  simp [Agree, hstatus, graphDeliveryVerdict, hconfigured]

/-- The readiness view looks at the app registration before the status, which monitoring does not. -/
theorem agree_unregistered (hconfigured : diagnostics.configured = true) (hregistered : missingAppRegistration s ≠ []) :
    Agree P s diagnostics ↔ diagnostics.status = "incomplete" := by
  have hmissing := Decidable.not_not.1 (mt missingAppRegistration_eq_nil_iff.2 hregistered)
  have hverdict : graphDeliveryVerdict P s diagnostics =
      { authStatus := "incomplete"
        message := "Delegated Graph delivery requires MS_APP_TENANT_ID, MS_APP_CLIENT_ID and MS_APP_CLIENT_SECRET." } := by
    simp [graphDeliveryVerdict, hconfigured, hmissing]
  unfold Agree
  rw [hverdict]
  constructor
  · rintro ⟨-, hstatus⟩
    unfold monitoringStatus at hstatus
    split at hstatus
    · exact absurd hstatus (by decide)
    · exact hstatus
  · intro hstatus
    simp [monitoringStatus, hstatus]

/-- With an app registration the readiness view tells every other status as one that was not checked. -/
theorem agree_registered (hconfigured : diagnostics.configured = true) (hregistered : missingAppRegistration s = []) :
    Agree P s diagnostics ↔ diagnostics.status ∈ ["ready", "expired", "token_error", "unchecked"] := by
  have hmissing := missingAppRegistration_eq_nil_iff.1 hregistered
  by_cases hready : diagnostics.status = "ready"
  · -- the one status at which both look at the scopes
    by_cases hscopes : missingRequiredScopes P diagnostics.grantedScopes defaultDelegatedGraphScopes = [] <;>
      simp [Agree, monitoringStatus, graphDeliveryVerdict, hconfigured, hmissing, hready, hscopes]
  · have hstatus : monitoringStatus P diagnostics = diagnostics.status := by simp [monitoringStatus, hready]
    by_cases hexpired : diagnostics.status = "expired"
    · simp [Agree, hstatus, graphDeliveryVerdict, hconfigured, hmissing, hexpired]
    · by_cases herror : diagnostics.status = "token_error"
      · simp [Agree, hstatus, graphDeliveryVerdict, hconfigured, hmissing, herror]
      · simp [Agree, hstatus, graphDeliveryVerdict, hconfigured, hmissing, hready, hexpired, herror]

theorem status_diagnosticsForCredential (credential : GraphDelegatedCredential) :
    (diagnosticsForCredential credential).status = if credential.lastStatus = "" then "missing"
    else credential.lastStatus := rfl

/-- What the views say of a stored credential. -/
theorem agree_credential_iff (credential : GraphDelegatedCredential) :
    Agree P s (diagnosticsForCredential credential) ↔ SameReadiness s credential := by
  unfold SameReadiness
  have hstatus := status_diagnosticsForCredential credential
  by_cases htoken : credential.encryptedRefreshToken = ""
  · have hconfigured : (diagnosticsForCredential credential).configured = false :=
      by simp [diagnosticsForCredential, htoken]
    rw [agree_unconfigured hconfigured, if_pos htoken, hstatus]
    by_cases hempty : credential.lastStatus = "" <;> simp [hempty]
  · have hconfigured : (diagnosticsForCredential credential).configured = true :=
      by simp [diagnosticsForCredential, htoken]
    rw [if_neg htoken]
    by_cases hregistered : missingAppRegistration s = []
    · rw [agree_registered hconfigured hregistered, if_pos hregistered, hstatus]
      by_cases hempty : credential.lastStatus = "" <;> simp [hempty]
    · rw [agree_unregistered hconfigured hregistered, if_neg hregistered, hstatus]
      by_cases hempty : credential.lastStatus = "" <;> simp [hempty]

/-- The two components of the answers, which are the verdicts on the stored diagnosis. -/
theorem components_agree_iff (hlookup : s.graphLookupEnabled = true) (hdelivery : s.graphDeliveryEnabled = true)
    {organization : Organization} (hfirst : db.organizations.head? = some organization) :
    ((monitoringStatusGraphDelivery P s db).ready = (adminReadinessGraphDelivery P s organization.id db).ready ∧
      (monitoringStatusGraphDelivery P s db).authStatus =
        (adminReadinessGraphDelivery P s organization.id db).authStatus) ↔
      Agree P s (diagnosticsForOrganization organization.id db) := by
  have hstatus : Python.orElse (diagnosticsForOrganization organization.id db).status "missing" =
      (diagnosticsForOrganization organization.id db).status := by
    unfold diagnosticsForOrganization diagnosticsForCredential
    split
    · rfl
    · simp only [Python.orElse]
      split <;> simp_all
  have hmonitoring : ∀ diagnostics : GraphDelegatedDiagnostics,
      (if diagnostics.configured && diagnostics.status == "ready" &&
          !(missingRequiredScopes P diagnostics.grantedScopes defaultDelegatedGraphScopes).isEmpty then
          "permission_warning"
        else diagnostics.status) = monitoringStatus P diagnostics := by
    intro diagnostics
    simp [monitoringStatus, and_assoc]
  simp only [monitoringStatusGraphDelivery, adminReadinessGraphDelivery, hlookup, hdelivery, Bool.and_self, if_true,
    monitoringGraphDeliveryReadiness, hfirst, hstatus, hmonitoring, adminGraphDeliveryReadiness,
      graphDeliveryReadinessOut, Agree]

end GraphReadinessAux

open GraphReadinessAux in
/-- With Graph lookup and delivery enabled, the monitoring status and the readiness view of the organization tell the
same ready flag and the same status exactly when no credential is stored for it, or one on which they agree. -/
theorem monitoring_agrees_iff (P : Platform) (s : Settings) (db : Database) (organization : Organization)
    (hlookup : s.graphLookupEnabled = true) (hdelivery : s.graphDeliveryEnabled = true)
    (hfirst : db.organizations.head? = some organization) :
    ((monitoringStatusGraphDelivery P s db).ready = (adminReadinessGraphDelivery P s organization.id db).ready ∧
      (monitoringStatusGraphDelivery P s db).authStatus =
        (adminReadinessGraphDelivery P s organization.id db).authStatus) ↔
      ∀ credential, db.credentials.find? (·.organizationId == organization.id) = some credential →
      SameReadiness s credential := by
  rw [components_agree_iff hlookup hdelivery hfirst]
  cases hfind : db.credentials.find? (·.organizationId == organization.id) with
  | none =>
    have hdiagnostics : (diagnosticsForOrganization organization.id db).configured = false ∧
        (diagnosticsForOrganization organization.id db).status = "missing" := by simp [diagnosticsForOrganization, hfind]
    simp [agree_unconfigured hdiagnostics.1, hdiagnostics.2]
  | some credential =>
    have hdiagnostics : diagnosticsForOrganization organization.id db = diagnosticsForCredential credential := by
      simp [diagnosticsForOrganization, hfind]
    rw [hdiagnostics, agree_credential_iff]
    simp

/-! ## Fixed inputs -/

/-- An organization with a connected service user. -/
def connectedOrganization : Database :=
  { organizations := [{ id := 1, slug := "default", name := "Default Organization" }]
    credentials := [{
      organizationId := 1
      scopes := "offline_access ChannelMessage.Send ChatMessage.Send Chat.ReadBasic Chat.Create User.Read"
      encryptedRefreshToken := "encrypted"
      lastStatus := "ready" }] }

theorem monitoring_agrees_registered :
    (monitoringStatusGraphDelivery Platform.plain registeredApp connectedOrganization).ready =
        (adminReadinessGraphDelivery Platform.plain registeredApp 1 connectedOrganization).ready ∧
      (monitoringStatusGraphDelivery Platform.plain registeredApp connectedOrganization).authStatus =
        (adminReadinessGraphDelivery Platform.plain registeredApp 1 connectedOrganization).authStatus :=
  (monitoring_agrees_iff Platform.plain registeredApp connectedOrganization
    { id := 1, slug := "default", name := "Default Organization" }
    rfl rfl rfl).2 (by
      intro credential hfind
      obtain rfl := Option.some.inj hfind
      unfold SameReadiness
      decide)

/-- Without an app registration no delivery can work, which the readiness view tells and the monitoring status does not.
-/
theorem monitoring_ready_unregistered :
    ¬∀ (P : Platform) (s : Settings) (db : Database) (organization : Organization), s.graphLookupEnabled = true →
      s.graphDeliveryEnabled = true → db.organizations = [organization] →
      (monitoringStatusGraphDelivery P s db).ready = (adminReadinessGraphDelivery P s organization.id db).ready ∧
        (monitoringStatusGraphDelivery P s db).authStatus =
        (adminReadinessGraphDelivery P s organization.id db).authStatus := by
  intro hall
  have hready : (monitoringStatusGraphDelivery Platform.plain {} connectedOrganization).ready = true := by decide +kernel
  have hview : (adminReadinessGraphDelivery Platform.plain {} 1 connectedOrganization).ready = false := by decide +kernel
  have hsame :=
    (hall Platform.plain {} connectedOrganization { id := 1, slug := "default", name := "Default Organization" } rfl rfl
    rfl).1
  rw [hready, hview] at hsame
  exact absurd hsame (by decide)

end TeamsRehook
