import TeamsRehook.Lemmas.Settings
import TeamsRehook.Lemmas.SettingValues
import TeamsRehook.Theorems.SettingNormalization
import TeamsRehook.Theorems.SettingsInForce

namespace TeamsRehook

/-! ## The CORS origins follow the frontend URL -/

/-- The value is a URL of a web server that has a host and nothing behind it. -/
structure BareUrl (P : Platform) (value : String) (url : ParsedUrl) : Prop where
  parsed : P.urlparse (Python.strip value) = some url
  http : url.isHttp = true
  path : url.path = ""
  params : url.params = ""
  query : url.query = ""
  fragment : url.fragment = ""

/-- An accepted change of the frontend URL: the value, what it is parsed into, and the state the request has left. -/
structure FrontendChange where
  value : String
  url : ParsedUrl
  after : SettingsProcess

/-- Accepted changes of the frontend URL to bare URLs, one after the other. -/
inductive FrontendRun (P : Platform) (s : Settings) : SettingsProcess → List FrontendChange → Prop
  | nil (x : SettingsProcess) : FrontendRun P s x []
  | cons {x : SettingsProcess} {r : SettingRequest} {change : FrontendChange} {changes : List FrontendChange}
      (hrequest : r.change = .set "frontend_base_url" change.value)
      (haccepted : handleSetting P s r x = (change.after, .ok ())) (hurl : BareUrl P change.value change.url)
      (hrest : FrontendRun P s change.after changes) : FrontendRun P s x (change :: changes)

/-- The CORS origins can follow from a change to the next one: it is written as its origin is, or the next one has the
same origin. -/
def FrontendChange.LeadsTo (change next : FrontendChange) : Prop :=
  Python.strip change.value = change.url.origin ∨ next.url.origin = change.url.origin

namespace CorsOriginsAux

open SettingValuesAux SettingsInForceAux

variable {P : Platform} {s : Settings} {checks : Url.HostChecks} {x x' : SettingsProcess} {r : SettingRequest}
    {value : String}
  {url : ParsedUrl}

/-! ## Bare URLs -/

theorem isBare (hurl : P.urlparse = cpythonUrlparse checks) (h : BareUrl P value url) :
    ∃ p, Url.IsBare checks (Python.strip value).toList p ∧ p.netloc = url.netloc.toList := by
  have hparsed := h.parsed
  rw [hurl] at hparsed
  obtain ⟨p, hp, hscheme, hnetloc, hpath, hparams, hquery, hfragment⟩ := of_cpythonUrlparse hparsed
  obtain ⟨hschemes, hne⟩ := isHttp_iff.1 h.http
  refine ⟨p, ⟨hp, ?_, ?_, ?_, ?_, ?_, ?_⟩, hnetloc.symm⟩
  · rw [← hscheme]
    rcases hschemes with h | h <;> rw [h] <;> decide
  · rw [← hnetloc]
    simpa using hne
  · rw [← hpath, h.path]
    rfl
  · rw [← hparams, h.params]
    rfl
  · rw [← hquery, h.query]
    rfl
  · rw [← hfragment, h.fragment]
    rfl

/-- A bare URL is stored as it is, without the whitespace around it. -/
theorem normalizeUrl_bare (hurl : P.urlparse = cpythonUrlparse checks) (h : BareUrl P value url) :
    Python.rstripChar (Python.strip value) '/' = Python.strip value := by
  obtain ⟨p, hp, -⟩ := isBare hurl h
  exact Python.rstripChar_eq_self hp.getLast?

/-- A comma in a bare URL stands in its host. -/
theorem comma_not_mem_of_bare (hurl : P.urlparse = cpythonUrlparse checks) (h : BareUrl P value url)
    (hcomma : ',' ∉ url.netloc.toList) : ',' ∉ (Python.strip value).toList := by
  obtain ⟨p, hp, hnetloc⟩ := isBare hurl h
  intro hmem
  exact hcomma (hnetloc ▸ hp.mem_netloc hmem (by decide) (by decide) (by decide) (by decide))

theorem strip_ne_empty_of_bare (hurl : P.urlparse = cpythonUrlparse checks) (h : BareUrl P value url) :
    Python.strip value ≠ "" := by
  intro hempty
  have hparsed := h.parsed
  rw [hurl] at hparsed
  have hsubset := (netloc_of_cpythonUrlparse hparsed).2
  rw [hempty] at hsubset
  exact (isHttp_iff.1 h.http).2 (by simpa using List.subset_nil.1 hsubset)

theorem slash_mem_of_spelled {o : String} (h : Spelled o) : '/' ∈ o.toList := by
  obtain ⟨scheme, netloc, -, -, -, ho⟩ := h
  rw [ho]
  simp

/-- Behind a comma in the host of an origin stands no origin. -/
theorem splitChar_origin_ne (hurl : P.urlparse = cpythonUrlparse checks) (h : BareUrl P value url)
    (hcomma : ',' ∈ url.netloc.toList) : ∃ part ∈ Python.splitChar url.origin ',', ¬Spelled part := by
  have hparsed := h.parsed
  rw [hurl] at hparsed
  have hnetloc := (netloc_of_cpythonUrlparse hparsed).1
  obtain ⟨before, after, hsplit⟩ := List.append_of_mem hcomma
  have horigin : url.origin = (url.scheme ++ "://" ++ String.ofList before) ++ String.singleton ',' ++
      String.ofList after := by
    refine String.toList_inj.1 ?_
    rw [toList_origin, hsplit]
    simp
  obtain ⟨part, hpart⟩ := List.exists_mem_of_ne_nil _ (List.splitOn_ne_nil ',' after)
  have hmem : String.ofList part ∈ Python.splitChar (String.ofList after) ',' :=
    List.mem_map.2 ⟨part, by rw [String.toList_ofList]; exact hpart, rfl⟩
  refine ⟨String.ofList part, ?_, fun hspelled => ?_⟩
  · rw [horigin, Python.splitChar_append]
    exact List.mem_append_right _ hmem
  · have hslash := Python.subset_of_mem_splitChar hmem (slash_mem_of_spelled hspelled)
    rw [String.toList_ofList] at hslash
    refine absurd (List.all_eq_true.1 hnetloc '/' ?_) (by decide)
    rw [hsplit]
    simp [hslash]

/-- The CORS origins that are made of a bare URL are its origin exactly when its host has no comma. -/
theorem corsOrigins_eq_origin_iff (hurl : P.urlparse = cpythonUrlparse checks) (hlower : KeepsLowercase P)
    (h : BareUrl P value url) {origins : String} (horigins : normalizeCorsOrigins P (Python.strip value) = .ok origins) :
    origins = url.origin ↔ ',' ∉ url.netloc.toList := by
  obtain ⟨found, hfold, hne, rfl⟩ := normalizeCorsOrigins_eq_ok_iff.1 horigins
  have hspelled := spelled_of_mem_corsOrigins hurl hlower hfold
  constructor
  · intro heq hcomma
    obtain ⟨part, hpart, hnot⟩ := splitChar_origin_ne hurl h hcomma
    rw [← heq, splitChar_origins hspelled hne] at hpart
    exact hnot (hspelled part hpart)
  · intro hcomma
    have hsplit : Python.splitChar (Python.strip value) ',' = [Python.strip value] := by
      unfold Python.splitChar
      rw [List.splitOn_eq_singleton (comma_not_mem_of_bare hurl h hcomma)]
      simp
    have hpart : partOrigin P (Python.strip value) = some url.origin := by
      rw [partOrigin_eq_some_iff, Python.strip_strip]
      exact ⟨strip_ne_empty_of_bare hurl h, url, h.parsed, rfl⟩
    rw [hsplit] at hfold
    have hfound := ((corsOrigins_eq_ok_iff hlower).1 hfold).2
    rw [List.filterMap_cons_some hpart, List.filterMap_nil, List.foldl_cons, List.foldl_nil, if_neg List.not_mem_nil,
      List.nil_append] at hfound
    rw [hfound, String.intercalate_singleton]

/-! ## One change -/

theorem of_faulty {α : Type} {fails : Prop} [Decidable fails] {result : Except Exn α} {a : α}
    (h : faulty fails result = .ok a) : result = .ok a := by
  unfold faulty at h
  split at h
  · nomatch h
  · exact h

/-- What an accepted request has written: rows with unique keys that are in force, its writes and no other. -/
theorem of_accepted (hkeys : Table.UniqueOn (·.key) x.rows) (h : handleSetting P s r x = (x', .ok ())) : ∃ change writes,
    checkChange P s r.now x.cache r.change = .ok change ∧
      changeWrites P s r.now r.updatedById x.rows change = .ok writes ∧ Table.UniqueOn (·.key) x'.rows ∧
      x'.InForce P s ∧ (∀ w ∈ writes, getSetting w.key x'.rows = w.row) ∧ ∀ key, (∀ w ∈ writes, w.key ≠ key) →
      getSetting key x'.rows = getSetting key x.rows := by
  unfold handleSetting at h
  dsimp only at h
  split at h
  next e he => nomatch (Prod.ext_iff.1 h).2
  next rows cache hwritten =>
    split at h
    next => nomatch (Prod.ext_iff.1 h).2
    next =>
      obtain ⟨change, hcheck, hwritten⟩ := Except.bind_eq_ok_iff.1 hwritten
      obtain ⟨writes, hwrites, hwritten⟩ := Except.bind_eq_ok_iff.1 hwritten
      obtain ⟨rows', hflush, hwritten⟩ := Except.bind_eq_ok_iff.1 hwritten
      obtain ⟨cache', hload, hwritten⟩ := Except.bind_eq_ok_iff.1 hwritten
      cases hwritten
      cases h
      obtain ⟨hcurrent, hdistinct⟩ := changeWrites_current hwrites
      obtain ⟨rows', hflush', hkeys', hrows, hothers⟩ := flushWrites_current hkeys hcurrent hdistinct
      obtain rfl : rows' = rows := Except.ok.inj (hflush'.symm.trans (of_faulty hflush))
      exact ⟨change, writes, hcheck, hwrites, hkeys', of_faulty hload, hrows, hothers⟩

/-- The override of a row that is in force and no secret. -/
theorem cache_of_row (hkeys : Table.UniqueOn (·.key) x.rows) (hin : x.InForce P s) {key : String} {row : AppSetting}
    (hrow : getSetting key x.rows = some row) (hsecret : row.isSecret = false)
    (hknown : (settingDefinition? key).isSome = true) : x.cache key = some row.value := by
  have hkey := key_of_getSetting hrow
  have hload := (loadOverrides_eq_ok_iff hkeys).1 hin key
  have hsome : ¬(settingDefinition? row.key).isNone = true := by
    rw [hkey]
    simpa [Option.isSome_iff_ne_none] using hknown
  simp only [hrow, decodedRow, if_neg hsome, storedValue, hsecret, Bool.false_eq_true, if_false, Except.map] at hload
  exact (Except.ok.inj hload).symm

/-- The frontend URL in force. -/
theorem frontendBaseUrl_of_effective {overrides : Overrides} {effective : Settings}
    (h : getEffectiveSettings P s overrides = .ok effective) :
    effective.frontendBaseUrl = (overrides "frontend_base_url").getD s.frontendBaseUrl := by
  obtain ⟨_, -, h⟩ := Except.bind_eq_ok_iff.1 h
  obtain ⟨_, -, h⟩ := Except.bind_eq_ok_iff.1 h
  obtain ⟨_, -, h⟩ := Except.bind_eq_ok_iff.1 h
  obtain ⟨_, -, h⟩ := Except.bind_eq_ok_iff.1 h
  obtain ⟨_, -, h⟩ := Except.bind_eq_ok_iff.1 h
  obtain ⟨_, -, h⟩ := Except.bind_eq_ok_iff.1 h
  cases h
  rfl

/-- What an accepted change of the frontend URL to a bare URL is checked to: the URL as it is. -/
theorem checkChange_frontend (hurl : P.urlparse = cpythonUrlparse checks) (h : BareUrl P value url)
    {overrides : Overrides} {now : Int} {change : CheckedChange}
    (hcheck : checkChange P s now overrides (.set "frontend_base_url" value) = .ok change) :
    change.key = "frontend_base_url" ∧ change.override = some (Python.strip value, Python.strip value) ∧
      change.previousFrontendUrl = Python.rstripChar ((overrides "frontend_base_url").getD s.frontendBaseUrl) '/' := by
  have hdefinition : settingDefinition? "frontend_base_url" = some { key := "frontend_base_url", type := .url } := rfl
  have hvalue : ∀ v normalized, Python.strip v = Python.strip value → validateAndNormalize P "frontend_base_url" v =
      .ok normalized → normalized = Python.strip value := by
    intro v normalized hv hnormalized
    simp only [validateAndNormalize, hdefinition, hv] at hnormalized
    exact (normalizeUrl_eq_ok_iff.1 hnormalized).1.trans (normalizeUrl_bare hurl h)
  obtain ⟨-, -, hcheck⟩ := Except.bind_eq_ok_iff.1 hcheck
  obtain ⟨previous, hprevious, hcheck⟩ := Except.bind_eq_ok_iff.1 hcheck
  obtain ⟨normalized, hnormalized, hcheck⟩ := Except.bind_eq_ok_iff.1 hcheck
  obtain ⟨stored, hstored, hcheck⟩ := Except.bind_eq_ok_iff.1 hcheck
  obtain ⟨-, -, hcheck⟩ := Except.bind_eq_ok_iff.1 hcheck
  cases hcheck
  obtain rfl := hvalue value normalized rfl hnormalized
  obtain ⟨again, hagain, hstored⟩ := Except.bind_eq_ok_iff.1 hstored
  obtain rfl := hvalue _ again (Python.strip_strip value) hagain
  cases hstored
  refine ⟨rfl, rfl, ?_⟩
  unfold previousFrontendUrl at hprevious
  rw [if_pos rfl, Except.map_eq_ok_iff] at hprevious
  obtain ⟨effective, heffective, rfl⟩ := hprevious
  rw [frontendBaseUrl_of_effective heffective]

/-- The CORS origins that are stored for a bare URL. -/
theorem serialize_corsOrigins {now : Int} {origins : String}
    (h : serializeForStorage P s now "cors_origins" (Python.strip value) = .ok origins) :
    normalizeCorsOrigins P (Python.strip value) = .ok origins := by
  obtain ⟨normalized, hnormalized, hstored⟩ := Except.bind_eq_ok_iff.1 h
  cases hstored
  have hdefinition : settingDefinition? "cors_origins" = some { key := "cors_origins", type := .string } := rfl
  simpa only [validateAndNormalize, hdefinition, Python.strip_strip, if_true] using hnormalized

/-- The row of the CORS origins after a change of the frontend URL: they are made of the new URL when there were none,
or when they were the previous URL, and left as they are otherwise. -/
structure CorsAfter (P : Platform) (rows rows' : List AppSetting) (previous value : String) (row' : AppSetting) :
    Prop where
  found : getSetting "cors_origins" rows' = some row'
  visible : row'.isSecret = false
  made : (∀ row ∈ getSetting "cors_origins" rows, row.value = previous) → normalizeCorsOrigins P (Python.strip value) =
    .ok row'.value
  kept : ∀ row ∈ getSetting "cors_origins" rows, row.value ≠ previous → row' = row

/-- An accepted change of the frontend URL to a bare URL. -/
theorem frontend_step (hurl : P.urlparse = cpythonUrlparse checks) (hkeys : Table.UniqueOn (·.key) x.rows)
    (hvisible : ∀ row ∈ getSetting "cors_origins" x.rows, row.isSecret = false)
    (hrequest : r.change = .set "frontend_base_url" value) (haccepted : handleSetting P s r x = (x', .ok ()))
    (h : BareUrl P value url) :
    Table.UniqueOn (·.key) x'.rows ∧ x'.InForce P s ∧ x'.cache "frontend_base_url" = some (Python.strip value) ∧
      ∃ row', CorsAfter P x.rows x'.rows (Python.rstripChar ((x.cache "frontend_base_url").getD s.frontendBaseUrl) '/')
        value row' := by
  obtain ⟨change, writes, hcheck, hwrites, hkeys', hin', hwritten, hothers⟩ := of_accepted hkeys haccepted
  rw [hrequest] at hcheck
  obtain ⟨hkey, hoverride, hprevious⟩ := checkChange_frontend hurl h hcheck
  unfold changeWrites at hwrites
  rw [hoverride, hkey, hprevious] at hwrites
  dsimp only at hwrites
  rw [if_pos rfl] at hwrites
  obtain ⟨cors, hcors, hwrites⟩ := Except.bind_eq_ok_iff.1 hwrites
  cases hwrites
  obtain ⟨hfrontend, hwritten⟩ := List.forall_mem_cons.1 hwritten
  refine ⟨hkeys', hin', cache_of_row hkeys' hin' hfrontend rfl rfl, ?_⟩
  unfold corsWrites at hcors
  split at hcors
  next hnone =>
    obtain ⟨origins, horigins, hcors⟩ := Except.bind_eq_ok_iff.1 hcors
    cases hcors
    refine ⟨_, hwritten _ (List.mem_singleton.2 rfl), rfl, fun _ => serialize_corsOrigins horigins, fun row hrow => ?_⟩
    rw [hnone] at hrow
    nomatch hrow
  next row hrow =>
    have hrowKey := key_of_getSetting hrow
    have hrowVisible := hvisible row hrow
    have honly : ∀ other ∈ getSetting "cors_origins" x.rows, other = row := fun other hother =>
      Option.some.inj (hother.symm.trans hrow)
    obtain ⟨corsStored, hstored, hcors⟩ := Except.bind_eq_ok_iff.1 hcors
    simp only [storedValue, hrowVisible, Bool.false_eq_true, if_false] at hstored
    cases hstored
    split at hcors
    next hsame =>
      obtain ⟨origins, horigins, hcors⟩ := Except.bind_eq_ok_iff.1 hcors
      cases hcors
      have hfound := hwritten _ (List.mem_singleton.2 rfl)
      rw [SettingWrite.key, hrowKey] at hfound
      refine ⟨_, hfound, hrowVisible, fun _ => serialize_corsOrigins horigins, fun other hother hne => ?_⟩
      exact (hne (honly other hother ▸ hsame)).elim
    next hdiffers =>
      cases hcors
      have hkept := hothers "cors_origins" fun w hw => by
        rw [List.mem_singleton.1 hw]
        exact (by decide : "frontend_base_url" ≠ "cors_origins")
      refine ⟨row, hkept.trans hrow, hrowVisible, fun hsame => (hdiffers (hsame row hrow)).elim, fun other hother _ => ?_⟩
      exact (honly other hother).symm

/-! ## Runs -/

/-- A change is in force, and the CORS origins are its origin. -/
structure Follows (P : Platform) (s : Settings) (x : SettingsProcess) (last : FrontendChange) : Prop where
  keys : Table.UniqueOn (·.key) x.rows
  frontend : x.cache "frontend_base_url" = some (Python.strip last.value)
  cors : ∃ row, getSetting "cors_origins" x.rows = some row ∧ row.isSecret = false ∧ row.value = last.url.origin
  bare : BareUrl P last.value last.url
  comma : ',' ∉ last.url.netloc.toList

variable {change last : FrontendChange} {changes : List FrontendChange}

theorem comma_mem_origin_iff (h : url.isHttp = true) : ',' ∈ url.origin.toList ↔ ',' ∈ url.netloc.toList := by
  rw [toList_origin]
  simp [comma_not_mem_scheme (isScheme_of_isHttp h)]

/-- After a change, the CORS origins are its origin exactly when the previous one lets them follow and no host has a
comma. -/
theorem follows_next (hurl : P.urlparse = cpythonUrlparse checks) (hlower : KeepsLowercase P) (hx : Follows P s x last)
    (hrequest : r.change = .set "frontend_base_url" change.value)
    (haccepted : handleSetting P s r x = (change.after, .ok ())) (h : BareUrl P change.value change.url) :
    (change.after.cache "cors_origins" = some change.url.origin ↔ ',' ∉ change.url.netloc.toList ∧ last.LeadsTo change) ∧
      (change.after.cache "cors_origins" = some change.url.origin → Follows P s change.after change) := by
  obtain ⟨row, hrow, hvisible, hvalue⟩ := hx.cors
  have honly : ∀ other ∈ getSetting "cors_origins" x.rows, other = row :=
    fun other hother => Option.some.inj (hother.symm.trans hrow)
  obtain ⟨hkeys', hin', hfrontend, row', hafter⟩ :=
    frontend_step hurl hx.keys (fun other hother => honly other hother ▸ hvisible) hrequest haccepted h
  rw [hx.frontend, Option.getD_some, normalizeUrl_bare hurl hx.bare] at hafter
  have hcache := cache_of_row hkeys' hin' hafter.found hafter.visible rfl
  have hiff : row'.value = change.url.origin ↔ ',' ∉ change.url.netloc.toList ∧ last.LeadsTo change := by
    by_cases hspelled : Python.strip last.value = last.url.origin
    · have hmade := hafter.made fun other hother => (honly other hother ▸ hvalue).trans hspelled.symm
      rw [corsOrigins_eq_origin_iff hurl hlower h hmade]
      exact ⟨fun hcomma => ⟨hcomma, Or.inl hspelled⟩, And.left⟩
    · rw [hafter.kept row hrow (fun hsame => hspelled (hsame.symm.trans hvalue)), hvalue]
      constructor
      · intro heq
        refine ⟨fun hcomma => hx.comma ?_, Or.inr heq.symm⟩
        rw [← comma_mem_origin_iff hx.bare.http, heq, comma_mem_origin_iff h.http]
        exact hcomma
      · rintro ⟨-, hlets⟩
        exact (hlets.resolve_left hspelled).symm
  rw [hcache, Option.some.injEq]
  exact ⟨hiff, fun heq => ⟨hkeys', hfrontend, ⟨row', hafter.found, hafter.visible, heq⟩, h, (hiff.1 heq).1⟩⟩

/-- Along a run the CORS origins follow exactly when each change lets them follow to the next one and no host has a
comma. -/
theorem follows_run (hurl : P.urlparse = cpythonUrlparse checks) (hlower : KeepsLowercase P) (hx : Follows P s x last)
    (hrun : FrontendRun P s x changes) :
    (∀ change ∈ changes, change.after.cache "cors_origins" = some change.url.origin) ↔
      (∀ change ∈ changes, ',' ∉ change.url.netloc.toList) ∧ (last :: changes).IsChain FrontendChange.LeadsTo := by
  induction hrun generalizing last with
  | nil x => simp
  | cons hrequest haccepted hbare hrest ih =>
    obtain ⟨hiff, hnext⟩ := follows_next hurl hlower hx hrequest haccepted hbare
    rw [List.forall_mem_cons, List.forall_mem_cons, List.isChain_cons_cons]
    constructor
    · rintro ⟨hhead, hrest⟩
      obtain ⟨hcomma, hlets⟩ := hiff.1 hhead
      obtain ⟨hcommas, hchain⟩ := (ih (hnext hhead)).1 hrest
      exact ⟨⟨hcomma, hcommas⟩, hlets, hchain⟩
    · rintro ⟨⟨hcomma, hcommas⟩, hlets, hchain⟩
      have hhead := hiff.2 ⟨hcomma, hlets⟩
      exact ⟨hhead, (ih (hnext hhead)).2 ⟨hcommas, hchain⟩⟩

end CorsOriginsAux

open CorsOriginsAux in
/-- Along accepted changes of the frontend URL to bare URLs, from a state without CORS origins of its own, the CORS
origins are the origin of the new URL after each change exactly when no host has a comma and each URL but the last is
written as its origin is or followed by one with the same origin. -/
theorem cors_follows_frontend_iff {P : Platform} {checks : Url.HostChecks} (s : Settings)
    (hurl : P.urlparse = cpythonUrlparse checks) (hlower : KeepsLowercase P) {x : SettingsProcess}
    (hkeys : Table.UniqueOn (·.key) x.rows) (hcors : getSetting "cors_origins" x.rows = none)
    {changes : List FrontendChange} (hrun : FrontendRun P s x changes) :
    (∀ change ∈ changes, change.after.cache "cors_origins" = some change.url.origin) ↔
      (∀ change ∈ changes, ',' ∉ change.url.netloc.toList) ∧ changes.IsChain FrontendChange.LeadsTo := by
  have hnone : ∀ row, row ∉ getSetting "cors_origins" x.rows := by simp [hcors]
  cases hrun with
  | nil => simp
  | @cons _ r change changes hrequest haccepted hbare hrest =>
    obtain ⟨hkeys', hin', hfrontend, row', hafter⟩ :=
      frontend_step hurl hkeys (fun row hrow => (hnone row hrow).elim) hrequest haccepted hbare
    have hcache := cache_of_row hkeys' hin' hafter.found hafter.visible rfl
    have hiff := corsOrigins_eq_origin_iff hurl hlower hbare (hafter.made fun row hrow => (hnone row hrow).elim)
    have hfollows : row'.value = change.url.origin → Follows P s change.after change := fun heq =>
      ⟨hkeys', hfrontend, ⟨row', hafter.found, hafter.visible, heq⟩, hbare, hiff.1 heq⟩
    rw [List.forall_mem_cons, List.forall_mem_cons, hcache, Option.some.injEq]
    constructor
    · rintro ⟨hhead, hrest'⟩
      obtain ⟨hcommas, hchain⟩ := (follows_run hurl hlower (hfollows hhead) hrest).1 hrest'
      exact ⟨⟨hiff.1 hhead, hcommas⟩, hchain⟩
    · rintro ⟨⟨hcomma, hcommas⟩, hchain⟩
      have hhead := hiff.2 hcomma
      exact ⟨hhead, (follows_run hurl hlower (hfollows hhead) hrest).2 ⟨hcommas, hchain⟩⟩

/-! ## Fixed inputs -/

/-- A request to change the frontend URL. -/
def frontendRequest (value : String) : SettingRequest := { change := .set "frontend_base_url" value }

/-- A change of the frontend URL to a server that is reached over HTTPS. -/
def frontendChange (x : SettingsProcess) (value netloc : String) : FrontendChange where
  value := value
  url := { scheme := "https", netloc := netloc }
  after := (handleSetting .parsesUrls {} (frontendRequest value) x).1

/-- A change to the portal, after one to the operations server, which is given as `value`. -/
def portalAfter (value : String) : List FrontendChange :=
  let ops := frontendChange noOverrides value "ops.example.com"
  [ops, frontendChange ops.after "https://portal.example.com" "portal.example.com"]

theorem frontendRun_cons {x : SettingsProcess} {value netloc : String} {changes : List FrontendChange}
    (hparsed : Platform.parsesUrls.urlparse (Python.strip value) = some { scheme := "https", netloc := netloc })
    (hnetloc : netloc ≠ "") (haccepted : (handleSetting .parsesUrls {} (frontendRequest value) x).2.toOption = some ())
    (hrest : FrontendRun .parsesUrls {} (frontendChange x value netloc).after changes) :
    FrontendRun .parsesUrls {} x (frontendChange x value netloc :: changes) :=
  .cons rfl (Prod.ext rfl (Except.toOption_eq_some_iff.1 haccepted))
    ⟨hparsed, SettingValuesAux.isHttp_iff.2 ⟨Or.inr rfl, hnetloc⟩, rfl, rfl, rfl, rfl⟩ hrest

theorem cors_follows_frontend_lowercase :
    (portalAfter "https://ops.example.com").map (·.url.origin) =
      ["https://ops.example.com", "https://portal.example.com"] ∧ ∀ change ∈ portalAfter "https://ops.example.com",
      change.after.cache "cors_origins" = some change.url.origin :=
  ⟨by decide +kernel, (cors_follows_frontend_iff (x := noOverrides) {} rfl (fun _ _ => rfl) List.nodup_nil rfl
    (frontendRun_cons (by decide +kernel) (by decide) (by decide +kernel)
      (frontendRun_cons (by decide +kernel) (by decide) (by decide +kernel) (.nil _)))).2
    ⟨by decide, .cons_cons (Or.inl (by decide)) (.singleton _)⟩⟩

/-- After a URL with an uppercase scheme the CORS origins do not follow the next one. -/
theorem cors_frozen_uppercase : FrontendRun .parsesUrls {} noOverrides (portalAfter "HTTPS://ops.example.com") ∧
    (portalAfter "HTTPS://ops.example.com").map (fun change => (change.after.cache "cors_origins", change.url.origin)) =
      [(some "https://ops.example.com", "https://ops.example.com"),
        (some "https://ops.example.com", "https://portal.example.com")] :=
  ⟨frontendRun_cons (by decide +kernel) (by decide) (by decide +kernel)
    (frontendRun_cons (by decide +kernel) (by decide) (by decide +kernel) (.nil _)), by decide +kernel⟩

end TeamsRehook
