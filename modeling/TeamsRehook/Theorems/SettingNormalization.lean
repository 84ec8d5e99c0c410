import TeamsRehook.Lemmas.SettingValues
import TeamsRehook.Lib.Except

namespace TeamsRehook

/-! ## What is stored is what was validated -/

/-- The value that was validated is accepted again as it is, and is what `load_overrides` reads of the row it is stored
in. -/
structure StoredAsValidated (P : Platform) (s : Settings) (key normalized : String) : Prop where
  again : validateAndNormalize P key normalized = .ok normalized
  readBack : ∀ now stored, serializeForStorage P s now key normalized = .ok stored → ∀ loaded updatedById updatedAt,
    loadRow P s loaded ⟨key, stored, (settingDefinition? key).any (·.isSecret), updatedById, updatedAt⟩ =
      .ok (Function.update loaded key (some normalized))

/-- No whitespace comes to the end of a URL or of an origin when the slashes behind it are dropped. -/
structure NoBlankUncovered (P : Platform) (key value : String) : Prop where
  url : (settingDefinition? key).any (·.type == .url) = true →
    ¬Python.EndsBlank (Python.rstripChar (Python.strip value) '/')
  origins : key = "cors_origins" → ∀ part ∈ Python.splitChar (Python.strip value) ',', ∀ url,
    P.urlparse (Python.strip part) = some url → ¬Python.EndsBlank url.netloc

namespace SettingNormalizationAux

open SettingValuesAux

variable {P : Platform} {s : Settings} {checks : Url.HostChecks} {key value normalized : String}

/-- No setting is of the type `enum`. -/
theorem type_ne_enum {definition : SettingDefinition} (h : settingDefinition? key = some definition) :
    definition.type ≠ .enum := by
  have hall : ∀ d ∈ settingDefinitions, d.type ≠ .enum := by decide
  exact hall definition (List.mem_of_find?_eq_some h)

/-- The CORS origins are a text. -/
theorem ne_corsOrigins {definition : SettingDefinition} (h : settingDefinition? key = some definition)
    (htype : definition.type ≠ .string) : key ≠ "cors_origins" := by
  rintro rfl
  cases h
  exact htype rfl

/-- Nothing is dropped from a value that is neither a URL nor the CORS origins. -/
theorem noBlankUncovered_of_other {definition : SettingDefinition} (h : settingDefinition? key = some definition)
    (htype : definition.type ≠ .url) (hkey : key ≠ "cors_origins") : NoBlankUncovered P key value where
  url htype' := by
    rw [h, Option.any_some, beq_iff_eq] at htype'
    exact (htype htype').elim
  origins hkey' := (hkey hkey').elim

/-- An accepted value is accepted again as it is exactly when no whitespace is uncovered. -/
theorem validate_again_iff (hurl : P.urlparse = cpythonUrlparse checks) (hlower : KeepsLowercase P)
    (hint : ∀ text n, P.intOfText text = some n → P.intOfText (toString n) = some n)
    (h : validateAndNormalize P key value = .ok normalized) :
    validateAndNormalize P key normalized = .ok normalized ↔ NoBlankUncovered P key value := by
  cases hdefinition : settingDefinition? key with
  | none =>
    simp only [validateAndNormalize, hdefinition] at h
    nomatch h
  | some definition =>
    have hraw := Python.strip_strip value
    simp only [validateAndNormalize, hdefinition] at h ⊢
    cases htype : definition.type with
    | url =>
      rw [htype] at h
      have hkey := ne_corsOrigins hdefinition (by simp [htype])
      rw [normalizeUrl_strip_iff hurl hraw h]
      exact ⟨fun hends => ⟨fun _ => hends, fun hkey' => (hkey hkey').elim⟩, fun hcond =>
        hcond.url (by simp [hdefinition, htype])⟩
    | string =>
      rw [htype] at h
      dsimp only at h ⊢
      by_cases hkey : key = "cors_origins"
      · rw [if_pos hkey] at h ⊢
        rw [normalizeCorsOrigins_strip_iff hurl hlower h]
        exact ⟨fun hends => ⟨fun hurl => by simp [hdefinition, htype] at hurl, fun _ => hends⟩, fun hcond =>
          hcond.origins hkey⟩
      · rw [if_neg hkey] at h ⊢
        cases h
        exact iff_of_true (congrArg Except.ok hraw) (noBlankUncovered_of_other hdefinition (by simp [htype]) hkey)
    | enum => exact (type_ne_enum hdefinition htype).elim
    | secret =>
      rw [htype] at h
      dsimp only at h ⊢
      split at h
      · nomatch h
      next hne =>
        cases h
        refine iff_of_true ?_ (noBlankUncovered_of_other hdefinition (by simp [htype])
          (ne_corsOrigins hdefinition (by simp [htype])))
        rw [hraw, if_neg hne]
    | int =>
      rw [htype] at h
      exact iff_of_true (normalizeInt_strip hint h)
        (noBlankUncovered_of_other hdefinition (by simp [htype]) (ne_corsOrigins hdefinition (by simp [htype])))
    | bool =>
      rw [htype] at h
      exact iff_of_true (normalizeBool_strip hlower h)
        (noBlankUncovered_of_other hdefinition (by simp [htype]) (ne_corsOrigins hdefinition (by simp [htype])))

/-- What is stored of a value that is accepted as it is, is read back. -/
theorem loadRow_serialized (hfernet : P.FernetRoundTrip)
    (h : validateAndNormalize P key normalized = .ok normalized) {now : Int} {stored : String}
    (hstored : serializeForStorage P s now key normalized = .ok stored) (loaded : Overrides) (updatedById : Option Nat)
    (updatedAt : Int) :
    loadRow P s loaded ⟨key, stored, (settingDefinition? key).any (·.isSecret), updatedById, updatedAt⟩ =
      .ok (Function.update loaded key (some normalized)) := by
  have hknown : ¬(settingDefinition? key).isNone = true := by
    intro hnone
    rw [Option.isNone_iff_eq_none] at hnone
    simp only [validateAndNormalize, hnone] at h
    nomatch h
  have hread : storedValue P s ⟨key, stored, (settingDefinition? key).any (·.isSecret), updatedById, updatedAt⟩ =
      .ok normalized := by
    unfold serializeForStorage at hstored
    rw [h] at hstored
    unfold storedValue
    change (if _ then encryptSecret P s now normalized else Except.ok normalized) = _ at hstored
    dsimp only
    split at hstored
    next hsecret =>
      rw [if_pos hsecret]
      unfold decryptOverride
      rw [decryptSecret_of_encryptSecret hfernet hstored]
    next hsecret =>
      rw [if_neg hsecret]
      cases hstored
      rfl
  unfold loadRow
  rw [if_neg hknown]
  change (storedValue P s _ >>= _) = _
  rw [hread]
  rfl

end SettingNormalizationAux

open SettingNormalizationAux in
/-- An accepted value is stored and read back as it was validated exactly when the slashes that are dropped from it do
not follow whitespace. -/
theorem stored_as_validated_iff {P : Platform} {checks : Url.HostChecks} (s : Settings)
    (hurl : P.urlparse = cpythonUrlparse checks) (hlower : KeepsLowercase P)
    (hint : ∀ text n, P.intOfText text = some n → P.intOfText (toString n) = some n) (hfernet : P.FernetRoundTrip)
    {key value normalized : String} (h : validateAndNormalize P key value = .ok normalized) :
    StoredAsValidated P s key normalized ↔ NoBlankUncovered P key value := by
  have hiff := validate_again_iff hurl hlower hint h
  constructor
  · exact fun hstored => hiff.1 hstored.again
  · intro hcond
    have hagain := hiff.2 hcond
    exact ⟨hagain, fun now stored hstored => loadRow_serialized hfernet hagain hstored⟩

/-! ## Fixed inputs -/

/-- A platform that parses URLs with hosts of ASCII without brackets. -/
def Platform.parsesUrls : Platform :=
  { Platform.plain with urlparse := cpythonUrlparse ⟨fun _ => false, fun _ => true⟩ }

theorem stored_as_validated_opsUrl :
    validateAndNormalize .parsesUrls "frontend_base_url" "https://ops.example.com/" = .ok "https://ops.example.com" ∧
      (StoredAsValidated .parsesUrls {} "frontend_base_url" "https://ops.example.com" ↔
        NoBlankUncovered .parsesUrls "frontend_base_url" "https://ops.example.com/") := by
  have haccepted : validateAndNormalize .parsesUrls "frontend_base_url" "https://ops.example.com/" =
      .ok "https://ops.example.com" :=
    Except.toOption_eq_some_iff.1 (by decide +kernel)
  exact ⟨haccepted, stored_as_validated_iff {} rfl (fun _ _ => rfl) (fun _ _ (h : none = some _) => nomatch h)
    (fun _ _ _ => rfl) haccepted⟩

/-- A URL with a blank before its slash is validated with the blank, and stored without it. -/
theorem not_stored_as_validated_blank :
    validateAndNormalize .parsesUrls "frontend_base_url" "http://x /" = .ok "http://x " ∧
      serializeForStorage .parsesUrls {} 0 "frontend_base_url" "http://x " = .ok "http://x" ∧
      ¬StoredAsValidated .parsesUrls {} "frontend_base_url" "http://x " := by
  have hagain : validateAndNormalize .parsesUrls "frontend_base_url" "http://x " = .ok "http://x" :=
    Except.toOption_eq_some_iff.1 (by decide +kernel)
  refine ⟨Except.toOption_eq_some_iff.1 (by decide +kernel), Except.toOption_eq_some_iff.1 (by decide +kernel), fun h =>
    ?_⟩
  exact absurd (Except.ok.inj (hagain.symm.trans h.again)) (by decide)

end TeamsRehook
