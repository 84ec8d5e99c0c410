import TeamsRehook.Delivery.OAuthState
import TeamsRehook.Lib.Except
import TeamsRehook.Lib.Splitting

namespace TeamsRehook

/-! ## A state is accepted from the user it was issued to -/

/-- A state that was issued: to whom, with which nonce and when. -/
structure IssuedState where
  admin : StateAdmin
  nonce : String
  issuedAt : Int
  deriving DecidableEq, Repr

/-- What is encoded in it. -/
def IssuedState.payload (i : IssuedState) : StatePayload := statePayload i.issuedAt i.nonce i.admin

/-- Its text. -/
def IssuedState.text (P : Platform) (s : Settings) (i : IssuedState) : String :=
  issueGraphOauthState P s i.issuedAt i.nonce i.admin

/-- What the runtime does with the parts of the states that were issued: base64 as Python decodes it, UTF-8 and JSON
that read what was written, and signatures in ASCII. -/
structure ReadsStates (P : Platform) (issued : IssuedState → Prop) : Prop where
  base64 : ∀ text, P.base64UrlDecode text = Base64.urlsafeDecode text.toList
  utf8 : ∀ i, issued i → P.decodeUtf8 (encodeUtf8 i.payload.text) = some i.payload.text
  json : ∀ i, issued i → P.jsonLoads i.payload.text = .ok i.payload.json
  hex : ∀ key message, isAscii (P.hmacSha256Hex key message) = true

/-- A state with the signature of what it encodes was issued. -/
def Unforged (P : Platform) (s : Settings) (issued : IssuedState → Prop) (state : String) : Prop :=
  ∀ encoded, '.' ∉ encoded.toList → state = encoded ++ "." ++ P.hmacSha256Hex s.sessionSecret encoded → ∃ i, issued i ∧
    state = i.text P s

/-- What is to become of a state: one that was issued is accepted from its user, in the seconds of its lifetime, and
every other one is answered with a `400`. -/
structure StateLaw (P : Platform) (s : Settings) (issued : IssuedState → Prop) (now : Int) (admin : StateAdmin)
    (state : String) : Prop where
  accepted : ∀ i, issued i → state = i.text P s → (verifyGraphOauthState P s now admin state = .ok () ↔
    i.admin = admin ∧ wholeSeconds now ≤ wholeSeconds i.issuedAt + graphOauthStateTtlSeconds)
  others : (∀ i, issued i → state ≠ i.text P s) → verifyGraphOauthState P s now admin state ≠ .ok ()
  rejected : verifyGraphOauthState P s now admin state ≠ .ok () →
    ∃ detail, verifyGraphOauthState P s now admin state = .error (.http 400 detail)

/-- What is to be the signature, behind the first dot, is ASCII. -/
def SignatureAscii (state : String) : Prop :=
  ∀ encoded signature, Python.splitFirst state "." = some (encoded, signature) → isAscii signature = true

namespace OAuthStateAux

variable {P : Platform} {s : Settings} {issued : IssuedState → Prop} {now : Int} {admin : StateAdmin} {state : String}
    {i : IssuedState}

/-! ## States that were issued -/

/-- The padding is dropped from what is encoded, and nothing else. -/
theorem b64urlJson_eq (payload : StatePayload) :
    (b64urlJson payload).toList = Base64.encode (encodeUtf8 payload.text) := by
  have hkept : (Base64.encode (encodeUtf8 payload.text)).reverse.dropWhile (· == '=') =
      (Base64.encode (encodeUtf8 payload.text)).reverse := by
    refine List.dropWhile_eq_self_iff.2 fun hpos heq => ?_
    have hmem := Base64.encode_subset _ (List.mem_reverse.1 (List.getElem_mem hpos))
    rw [beq_iff_eq.1 heq] at hmem
    exact absurd hmem (by decide)
  unfold b64urlJson Python.rstripChar Base64.urlsafeEncode Base64.padding
  rw [String.toList_ofList, String.toList_ofList, List.reverse_append, List.reverse_replicate,
    List.dropWhile_append_of_pos fun c hc => by simp [List.eq_of_mem_replicate hc], hkept, List.reverse_reverse]

/-- What is encoded is decoded. -/
theorem decodeState_b64urlJson (h : ReadsStates P issued) (hi : issued i) :
    decodeState P (b64urlJson i.payload) = .ok i.payload.json := by
  have hdecoded : P.base64UrlDecode (b64urlJson i.payload ++
    String.ofList (Base64.padding (b64urlJson i.payload).toList)) =
      some (encodeUtf8 i.payload.text) := by
    rw [h.base64, String.toList_append, String.toList_ofList, b64urlJson_eq, Base64.decode_padded]
  unfold decodeState
  simp only [hdecoded, decodeUtf8, h.utf8 i hi, jsonLoads, h.json i hi, bind, Except.bind]

/-- What is checked of a payload. -/
theorem checkStatePayload_json (P : Platform) (payload : StatePayload) : checkStatePayload P now admin payload.json =
    if payload.userId ≠ admin.id ∨ payload.organizationId ≠ admin.organizationId then
      .error (.http 400 "Microsoft Graph OAuth state does not match the current admin")
    else if payload.expiresAt < wholeSeconds now then .error (.http 400 "Microsoft Graph OAuth state expired")
    else .ok () := by
  have huser : getItem "user_id" payload.json = .ok (.str payload.userId) := rfl
  have horganization : getItem "organization_id" payload.json = .ok (.str payload.organizationId) := rfl
  have hexpires : getItem "expires_at" payload.json = .ok (.int payload.expiresAt) := rfl
  have hseconds : intOf P (orElse (.int payload.expiresAt) (.int 0)) = .ok payload.expiresAt := by
    unfold orElse
    by_cases hzero : payload.expiresAt = 0
    · simp [hzero, Json.truthy, intOf]
    · simp [hzero, Json.truthy, intOf]
  unfold checkStatePayload
  simp only [huser, horganization, hexpires, hseconds, isText, bind, Except.bind]
  by_cases hsame : payload.userId ≠ admin.id ∨ payload.organizationId ≠ admin.organizationId
  · have hbad : (!(payload.userId == admin.id) || !(payload.organizationId == admin.organizationId)) = true :=
      by simpa using hsame
    rw [if_pos hsame, if_pos hbad]
    rfl
  · have hgood : ¬(!(payload.userId == admin.id) || !(payload.organizationId == admin.organizationId)) = true :=
      by simpa using hsame
    rw [if_neg hsame, if_neg hgood]
    rfl

theorem splitFirst_dot {before : String} (h : '.' ∉ before.toList) (after : String) :
    Python.splitFirst (before ++ "." ++ after) "." = some (before, after) :=
    Python.splitFirst_append String.toList_ofList h after

theorem dot_not_mem_b64urlJson (payload : StatePayload) : '.' ∉ (b64urlJson payload).toList := by
  rw [b64urlJson_eq]
  exact fun h => absurd (Base64.encode_subset _ h) (by decide)

/-- The verification of a state that was issued. -/
theorem verify_issued (h : ReadsStates P issued) (hi : issued i) : verifyGraphOauthState P s now admin (i.text P s) =
    if i.admin.id ≠ admin.id ∨ i.admin.organizationId ≠ admin.organizationId then
      .error (.http 400 "Microsoft Graph OAuth state does not match the current admin")
    else if wholeSeconds i.issuedAt + graphOauthStateTtlSeconds < wholeSeconds now then
      .error (.http 400 "Microsoft Graph OAuth state expired")
    else .ok () := by
  have hdecoded : decodeState P (b64urlJson (statePayload i.issuedAt i.nonce i.admin)) = .ok i.payload.json :=
    decodeState_b64urlJson h hi
  unfold verifyGraphOauthState IssuedState.text issueGraphOauthState
  dsimp only
  rw [splitFirst_dot (dot_not_mem_b64urlJson _)]
  simp only [compareDigest, h.hex, hdecoded, bind, Except.bind, Bool.and_self, if_true, beq_self_eq_true, Bool.not_true,
    Bool.false_eq_true, if_false]
  exact checkStatePayload_json P i.payload

theorem verify_issued_iff (h : ReadsStates P issued) (hi : issued i) :
    verifyGraphOauthState P s now admin (i.text P s) = .ok () ↔
    i.admin = admin ∧ wholeSeconds now ≤ wholeSeconds i.issuedAt + graphOauthStateTtlSeconds := by
  have hsame : i.admin = admin ↔ ¬(i.admin.id ≠ admin.id ∨ i.admin.organizationId ≠ admin.organizationId) := by
    cases i.admin
    cases admin
    simp
  rw [verify_issued h hi, hsame, ← Int.not_lt]
  split
  next hother => exact iff_of_false nofun fun hboth => hboth.1 hother
  next hadmin =>
    split
    next hexpired => exact iff_of_false nofun fun hboth => hboth.2 hexpired
    next hlive => exact iff_of_true rfl ⟨hadmin, hlive⟩

theorem verify_issued_rejected (h : ReadsStates P issued) (hi : issued i)
    (hne : verifyGraphOauthState P s now admin (i.text P s) ≠ .ok ()) :
    ∃ detail, verifyGraphOauthState P s now admin (i.text P s) = .error (.http 400 detail) := by
  rw [verify_issued h hi] at hne ⊢
  split
  · exact ⟨_, rfl⟩
  next hadmin =>
    rw [if_neg hadmin] at hne
    split
    · exact ⟨_, rfl⟩
    next hlive =>
      rw [if_neg hlive] at hne
      exact (hne rfl).elim

/-- The signature of a state that was issued is ASCII. -/
theorem signatureAscii_issued (h : ReadsStates P issued) (i : IssuedState) : SignatureAscii (i.text P s) := by
  intro encoded signature hsplit
  unfold IssuedState.text issueGraphOauthState at hsplit
  dsimp only at hsplit
  rw [splitFirst_dot (dot_not_mem_b64urlJson _)] at hsplit
  obtain ⟨-, hsignature⟩ := Prod.mk.inj (Option.some.inj hsplit)
  rw [← hsignature]
  exact h.hex _ _

/-! ## Other states -/

/-- A state that was not issued is invalid, or its signature cannot be compared. -/
theorem verify_of_not_issued (h : ReadsStates P issued) (hunforged : Unforged P s issued state)
    (hnot : ∀ i, issued i → state ≠ i.text P s) :
    (SignatureAscii state ∧ verifyGraphOauthState P s now admin state = .error invalidGraphOauthState) ∨
      (¬SignatureAscii state ∧ verifyGraphOauthState P s now admin state = .error .typeError) := by
  by_cases hdot : '.' ∈ state.toList
  · obtain ⟨encoded, signature, rfl, hencoded⟩ : ∃ encoded signature : String, state = encoded ++ "." ++ signature ∧
        '.' ∉ encoded.toList :=
      Python.exists_first String.toList_ofList hdot
    have hsplit : Python.splitFirst (encoded ++ "." ++ signature) "." = some (encoded, signature) :=
      splitFirst_dot hencoded signature
    have hdiffers : signature ≠ P.hmacSha256Hex s.sessionSecret encoded := by
      rintro rfl
      obtain ⟨i, hi, htext⟩ := hunforged encoded hencoded rfl
      exact hnot i hi htext
    have hascii : SignatureAscii (encoded ++ "." ++ signature) ↔ isAscii signature = true := by
      constructor
      · exact fun h => h encoded signature hsplit
      · intro hsignature encoded' signature' hsplit'
        cases hsplit.symm.trans hsplit'
        exact hsignature
    unfold verifyGraphOauthState
    rw [hascii, hsplit]
    cases hsignature : isAscii signature with
    | true =>
      refine Or.inl ⟨rfl, ?_⟩
      simp only [compareDigest, hsignature, h.hex, Bool.and_self, if_true, beq_false_of_ne hdiffers, bind, Except.bind,
        Bool.not_false]
      rfl
    | false =>
      refine Or.inr ⟨Bool.false_ne_true, ?_⟩
      simp only [compareDigest, hsignature, Bool.false_and, Bool.false_eq_true, if_false, bind, Except.bind]
  · have hnone : Python.splitFirst state "." = none := Python.splitFirst_of_not_mem String.toList_ofList hdot
    refine Or.inl ⟨fun encoded signature hsplit => ?_, ?_⟩
    · rw [hnone] at hsplit
      nomatch hsplit
    · unfold verifyGraphOauthState
      rw [hnone]

end OAuthStateAux

open OAuthStateAux in
/-- Whatever states were issued: each of them is accepted from its user in its lifetime and rejected otherwise, and
every other state that is not forged is answered with a `400`, exactly when what is to be the signature is ASCII. -/
theorem oauth_state_iff {P : Platform} {issued : IssuedState → Prop} (h : ReadsStates P issued) (s : Settings) (now : Int)
    (admin : StateAdmin) {state : String} (hunforged : Unforged P s issued state) :
    StateLaw P s issued now admin state ↔ SignatureAscii state := by
  by_cases hissued : ∃ i, issued i ∧ state = i.text P s
  · obtain ⟨i, hi, rfl⟩ := hissued
    refine iff_of_true ⟨fun j hj heq => ?_, fun hnot => (hnot i hi rfl).elim, verify_issued_rejected h hi⟩
      (signatureAscii_issued h i)
    rw [heq]
    exact verify_issued_iff h hj
  · have hnot : ∀ i, issued i → state ≠ i.text P s := fun i hi heq => hissued ⟨i, hi, heq⟩
    rcases @verify_of_not_issued P s issued now admin state h hunforged hnot with ⟨hascii, hresult⟩ | ⟨hascii, hresult⟩
    · refine iff_of_true ⟨fun i hi heq => (hnot i hi heq).elim, fun _ => ?_, fun _ => ⟨_, hresult⟩⟩ hascii
      rw [hresult]
      nofun
    · refine iff_of_false (fun hlaw => ?_) hascii
      obtain ⟨detail, hdetail⟩ := hlaw.rejected (by rw [hresult]; nofun)
      nomatch hresult.symm.trans hdetail

/-! ## Fixed inputs -/

/-- The session secret of the examples. -/
def signInSettings : Settings := { sessionSecret := "session-secret" }

/-- A state that was issued at the start of the year 2026. -/
def signIn : IssuedState where
  admin := { id := "u-1", organizationId := "org-1" }
  nonce := "Zm9vYmFyYmF6"
  issuedAt := 1767225600000000

/-- A platform that signs and reads this state. -/
def Platform.signsIn : Platform :=
  { Platform.plain with
    base64UrlDecode := fun text => Base64.urlsafeDecode text.toList
    hmacSha256Hex := fun _ _ => "baf97451c113606efa1db9e564afa76319551fa0ca96342fe670229209714d96"
    jsonLoads := fun text => if text = signIn.payload.text then .ok signIn.payload.json else .error .jsonDecodeError }

/-- It reads what was issued. -/
theorem readsStates_signIn : ReadsStates .signsIn (· = signIn) where
  base64 _ := rfl
  utf8 := by
    rintro _ rfl
    decide +kernel
  json := by
    rintro _ rfl
    simp [Platform.signsIn]
  hex _ _ := by
    change isAscii "baf97451c113606efa1db9e564afa76319551fa0ca96342fe670229209714d96" = true
    rw [isAscii, String.toList_ofList]
    decide

/-- The state as it was issued. -/
theorem oauth_state_signIn :
    StateLaw .signsIn signInSettings (· = signIn) signIn.issuedAt signIn.admin (signIn.text .signsIn signInSettings) ↔
      SignatureAscii (signIn.text .signsIn signInSettings) :=
  oauth_state_iff readsStates_signIn signInSettings signIn.issuedAt signIn.admin fun _ _ _ => ⟨signIn, rfl, rfl⟩

/-- A state whose signature is not ASCII raises a `TypeError`. -/
theorem oauth_state_typeError : Unforged .signsIn signInSettings (fun _ => False) "state.é" ∧
    verifyGraphOauthState .signsIn signInSettings signIn.issuedAt signIn.admin "state.é" = .error .typeError ∧
    ¬StateLaw .signsIn signInSettings (fun _ => False) signIn.issuedAt signIn.admin "state.é" := by
  have hresult : verifyGraphOauthState .signsIn signInSettings signIn.issuedAt signIn.admin "state.é" =
    .error .typeError := rfl
  refine ⟨fun encoded _ heq => ?_, hresult, fun hlaw => ?_⟩
  · have hlength := congrArg String.length heq
    have hstate : "state.é".length = 7 := String.length_ofList
    have hdigest : ∀ key message, (Platform.signsIn.hmacSha256Hex key message).length = 64 := fun _ _ => by
      change "baf97451c113606efa1db9e564afa76319551fa0ca96342fe670229209714d96".length = 64
      exact String.length_ofList
    rw [String.length_append, hdigest, hstate] at hlength
    omega
  · obtain ⟨detail, hdetail⟩ := hlaw.rejected (by rw [hresult]; nofun)
    nomatch hresult.symm.trans hdetail

end TeamsRehook
