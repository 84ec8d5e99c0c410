import TeamsRehook.SettingsOverrides
import TeamsRehook.Lib.Except
import TeamsRehook.Lib.Splitting
import TeamsRehook.Lib.Url

/-!
# Values of settings

What the normalisers of `core/settings_overrides.py` make of a value they are given twice. `urlparse` is that of Python
3.11.
-/

namespace TeamsRehook

/-- `urllib.parse.urlparse` of Python 3.11. -/
def cpythonUrlparse (checks : Url.HostChecks) (text : String) : Option ParsedUrl :=
  (Url.urlparse checks text.toList).map fun p =>
    { scheme := String.ofList p.scheme
      netloc := String.ofList p.netloc
      path := String.ofList p.path
      params := String.ofList p.params
      query := String.ofList p.query
      fragment := String.ofList p.fragment }

/-- The origin of a URL, as the CORS origins are written. -/
def ParsedUrl.origin (url : ParsedUrl) : String := url.scheme ++ "://" ++ url.netloc

/-- `str.lower` leaves lowercase letters of ASCII as they are. -/
def KeepsLowercase (P : Platform) : Prop := ∀ text : String, text.toList.all Char.isLower = true → P.lower text = text

namespace SettingValuesAux

variable {P : Platform} {checks : Url.HostChecks} {url : ParsedUrl} {raw value key : String}

/-! ## Parsed URLs -/

/-- An HTTP URL has one of two schemes and a host. -/
theorem isHttp_iff : url.isHttp = true ↔ (url.scheme = "http" ∨ url.scheme = "https") ∧ url.netloc ≠ "" := by
  simp [ParsedUrl.isHttp]

/-- `http` is spelled as a scheme. -/
theorem isScheme_http : Url.IsScheme "http".toList := ⟨by decide, by decide, by decide⟩

/-- `https` is spelled as a scheme. -/
theorem isScheme_https : Url.IsScheme "https".toList := ⟨by decide, by decide, by decide⟩

/-- The scheme of an HTTP URL is spelled as one. -/
theorem isScheme_of_isHttp (h : url.isHttp = true) : Url.IsScheme url.scheme.toList := by
  rcases (isHttp_iff.1 h).1 with hscheme | hscheme
  · exact hscheme ▸ isScheme_http
  · exact hscheme ▸ isScheme_https

/-- The components of a parsed URL, as characters. -/
theorem of_cpythonUrlparse (h : cpythonUrlparse checks raw = some url) : ∃ p, Url.urlparse checks raw.toList = some p ∧
    url.scheme.toList = p.scheme ∧ url.netloc.toList = p.netloc ∧ url.path.toList = p.path ∧
      url.params.toList = p.params ∧ url.query.toList = p.query ∧ url.fragment.toList = p.fragment := by
  obtain ⟨p, hp, rfl⟩ := Option.map_eq_some_iff.1 h
  exact ⟨p, hp, by simp, by simp, by simp, by simp, by simp, by simp⟩

/-- The host of a parsed URL has no delimiter, and its characters are those of the text. -/
theorem netloc_of_cpythonUrlparse (h : cpythonUrlparse checks raw = some url) :
    url.netloc.toList.all Url.inNetloc = true ∧ url.netloc.toList ⊆ raw.toList := by
  obtain ⟨p, hp, -, hnetloc, -⟩ := of_cpythonUrlparse h
  rw [hnetloc]
  exact Url.netloc_of_urlparse hp

/-- The characters of an origin. -/
theorem toList_origin (url : ParsedUrl) : url.origin.toList = url.scheme.toList ++ ':' :: '/' :: '/' ::
    url.netloc.toList := by
  simp [ParsedUrl.origin]

/-- A text that is put together of the scheme and a host is parsed into them, when it is parsed. -/
theorem origin_of_parsed {scheme netloc : List Char} (hscheme : Url.IsScheme scheme)
    (hnetloc : netloc.all Url.inNetloc = true) (hraw : raw.toList = scheme ++ ':' :: '/' :: '/' :: netloc)
    (h : cpythonUrlparse checks raw = some url) : url.origin = raw := by
  unfold cpythonUrlparse at h
  rw [hraw, Url.urlparse_origin hscheme hnetloc] at h
  split at h
  · cases h
    refine String.toList_inj.1 ?_
    rw [toList_origin, hraw]
    simp
  · nomatch h

/-- The origin of a parsed URL is parsed into the scheme and the host. -/
theorem parsed_origin (h : cpythonUrlparse checks raw = some url) (hhttp : url.isHttp = true) :
    cpythonUrlparse checks url.origin = some { scheme := url.scheme, netloc := url.netloc } := by
  obtain ⟨p, hp, hscheme, hnetloc, -⟩ := of_cpythonUrlparse h
  have hvalid : Url.validNetloc checks url.netloc.toList = true := by
    obtain ⟨hvalid, rfl⟩ := Url.urlparse_eq_some_iff.1 hp
    rw [hnetloc]
    exact hvalid
  unfold cpythonUrlparse
  rw [toList_origin, Url.urlparse_origin (isScheme_of_isHttp hhttp) (netloc_of_cpythonUrlparse h).1, if_pos hvalid]
  simp

/-! ## URLs -/

/-- A URL is parsed, or there is a `ValueError`. -/
theorem urlparse_eq_ok_iff : urlparse P raw = .ok url ↔ P.urlparse raw = some url := by
  unfold urlparse
  split
  next parsed h => simp [h]
  next h => simp [h]

/-- A URL is stored without the slashes at its end. -/
theorem normalizeUrl_eq_ok_iff : normalizeUrl P raw = .ok value ↔
    value = Python.rstripChar raw '/' ∧ (raw = "" ∨ ∃ url, P.urlparse raw = some url ∧ url.isHttp = true) := by
  unfold normalizeUrl
  by_cases hraw : raw = ""
  · subst hraw
    rw [if_pos rfl]
    exact ⟨fun h => ⟨(Except.ok.inj h).symm, Or.inl rfl⟩, fun h => congrArg Except.ok h.1.symm⟩
  rw [if_neg hraw, Except.bind_eq_ok_iff]
  constructor
  · rintro ⟨url, hurl, h⟩
    split at h
    next hhttp => exact ⟨(Except.ok.inj h).symm, Or.inr ⟨url, urlparse_eq_ok_iff.1 hurl, hhttp⟩⟩
    next => nomatch h
  · rintro ⟨rfl, hempty | ⟨url, hurl, hhttp⟩⟩
    · exact (hraw hempty).elim
    · exact ⟨url, urlparse_eq_ok_iff.2 hurl, if_pos hhttp⟩

/-- A URL without the slashes at its end is one. -/
theorem isHttp_rstripChar (hurl : P.urlparse = cpythonUrlparse checks) (h : P.urlparse raw = some url)
    (hhttp : url.isHttp = true) : ∃ url', P.urlparse (Python.rstripChar raw '/') = some url' ∧ url'.isHttp = true := by
  rw [hurl] at h ⊢
  obtain ⟨p, hp, hscheme, hnetloc, -⟩ := of_cpythonUrlparse h
  obtain ⟨n, hn⟩ := Python.exists_rstripChar raw '/'
  rw [hn] at hp
  obtain ⟨hschemes, hne⟩ := isHttp_iff.1 hhttp
  have hscheme' : p.scheme ≠ [] := by
    rw [← hscheme]
    rcases hschemes with h | h <;> rw [h] <;> decide
  have hnetloc' : p.netloc ≠ [] := by
    rw [← hnetloc]
    simpa using hne
  obtain ⟨q, hq, hqscheme, hqnetloc⟩ := Url.urlparse_of_append_slashes hp hscheme' hnetloc'
  refine ⟨_, Option.map_eq_some_iff.2 ⟨q, hq, rfl⟩, isHttp_iff.2 ⟨?_, ?_⟩⟩
  · dsimp only
    rw [hqscheme, ← hscheme, String.ofList_toList]
    exact hschemes
  · dsimp only
    rw [hqnetloc, ← hnetloc, String.ofList_toList]
    exact hne

/-- Without the slashes at its end, a stripped text starts with something else than whitespace. -/
theorem head?_rstripChar {c : Char} (hraw : Python.strip raw = raw)
    (h : (Python.rstripChar raw '/').toList.head? = some c) : Python.isSpace c = false := by
  obtain ⟨n, hn⟩ := Python.exists_rstripChar raw '/'
  refine Python.head?_strip (s := raw) ?_
  rw [hraw, hn, List.head?_append, h]
  rfl

/-- A URL that is normalised again is what it was exactly when there is no whitespace before the slashes at its end. -/
theorem normalizeUrl_strip_iff (hurl : P.urlparse = cpythonUrlparse checks) (hraw : Python.strip raw = raw)
    (h : normalizeUrl P raw = .ok value) :
    normalizeUrl P (Python.strip value) = .ok value ↔ ¬Python.EndsBlank (Python.rstripChar raw '/') := by
  obtain ⟨rfl, hparsed⟩ := normalizeUrl_eq_ok_iff.1 h
  have hself := Python.strip_eq_self_iff fun c hc => head?_rstripChar (c := c) hraw hc
  rw [← hself, normalizeUrl_eq_ok_iff]
  constructor
  · rintro ⟨hagain, -⟩
    obtain ⟨n, hn⟩ := Python.exists_rstripChar (Python.strip (Python.rstripChar raw '/')) '/'
    rw [← hagain] at hn
    have hlength := Python.length_strip_le (Python.rstripChar raw '/')
    rw [← String.length_toList, hn, List.length_append, List.length_replicate, String.length_toList] at hlength
    have hzero : n = 0 := by omega
    subst hzero
    exact String.toList_inj.1 (hn.trans (List.append_nil _))
  · intro hstrip
    rw [hstrip, Python.rstripChar_eq_self (Python.getLast?_rstripChar raw '/')]
    refine ⟨rfl, ?_⟩
    rcases hparsed with rfl | ⟨url, hparsed, hhttp⟩
    · exact Or.inl rfl
    · exact Or.inr (isHttp_rstripChar hurl hparsed hhttp)

/-! ## CORS origins -/

/-- The text is parsed as a URL that has nothing but an origin. -/
structure IsOrigin (P : Platform) (raw : String) (url : ParsedUrl) : Prop where
  parsed : P.urlparse raw = some url
  http : url.isHttp = true
  params : url.params = ""
  query : url.query = ""
  fragment : url.fragment = ""
  path : url.path = "" ∨ url.path = "/"

variable {origins found parts : List String} {part : String}

/-- A lowercase scheme is its own lowercase. -/
theorem lower_origin (hlower : KeepsLowercase P) (h : url.isHttp = true) :
    P.lower url.scheme ++ "://" ++ url.netloc = url.origin := by
  rcases (isHttp_iff.1 h).1 with hscheme | hscheme
  · rw [ParsedUrl.origin, hscheme, hlower "http" (by decide)]
  · rw [ParsedUrl.origin, hscheme, hlower "https" (by decide)]

/-- What a part adds to the origins. -/
theorem addCorsOrigin_eq_ok_iff (hlower : KeepsLowercase P) : addCorsOrigin P origins part = .ok found ↔
    (Python.strip part = "" ∧ found = origins) ∨ (Python.strip part ≠ "" ∧ ∃ url, IsOrigin P (Python.strip part) url ∧
      found = if origins.contains url.origin then origins else origins ++ [url.origin]) := by
  unfold addCorsOrigin
  by_cases hpart : Python.strip part = ""
  · rw [if_pos hpart]
    simp only [hpart, ne_eq, not_true_eq_false, false_and, or_false, true_and]
    exact ⟨fun h => (Except.ok.inj h).symm, fun h => congrArg Except.ok h.symm⟩
  rw [if_neg hpart, Except.bind_eq_ok_iff]
  simp only [hpart, ne_eq, not_false_eq_true, false_and, false_or, true_and]
  refine exists_congr fun url => ?_
  rw [urlparse_eq_ok_iff]
  constructor
  · rintro ⟨hurl, h⟩
    split at h
    · nomatch h
    next hhttp =>
      split at h
      · nomatch h
      next hparts =>
        simp only [not_or, not_not] at hparts
        obtain ⟨hparams, hquery, hfragment, hpath⟩ := hparts
        have hhttp' : url.isHttp = true := by simpa using hhttp
        rw [lower_origin hlower hhttp'] at h
        exact ⟨⟨hurl, hhttp', hparams, hquery, hfragment, or_iff_not_and_not.2 hpath⟩, (Except.ok.inj h).symm⟩
  · rintro ⟨h, rfl⟩
    refine ⟨h.parsed, ?_⟩
    rw [lower_origin hlower h.http, if_neg (by simp [h.http]), if_neg (by simp [h.params, h.query, h.fragment, h.path])]
    rfl

/-- The origin a part adds, if it adds one. -/
def partOrigin (P : Platform) (part : String) : Option String :=
  if Python.strip part = "" then none else (P.urlparse (Python.strip part)).map ParsedUrl.origin

/-- The origins that are found are those of the parts that are not blank, each of them once. -/
theorem corsOrigins_eq_ok_iff (hlower : KeepsLowercase P) : parts.foldlM (addCorsOrigin P) origins = .ok found ↔
    (∀ part ∈ parts, Python.strip part ≠ "" → ∃ url, IsOrigin P (Python.strip part) url) ∧
      found = (parts.filterMap (partOrigin P)).foldl (fun seen o => if o ∈ seen then seen else seen ++ [o]) origins := by
  induction parts generalizing origins with
  | nil =>
    simp only [List.foldlM_nil, List.filterMap_nil, List.foldl_nil, List.not_mem_nil, false_implies,
      implies_true, true_and]
    exact ⟨fun h => (Except.ok.inj h).symm, fun h => congrArg Except.ok h.symm⟩
  | cons part parts ih =>
    rw [List.foldlM_cons, Except.bind_eq_ok_iff, List.forall_mem_cons]
    simp only [addCorsOrigin_eq_ok_iff hlower, ih]
    by_cases hpart : Python.strip part = ""
    · rw [List.filterMap_cons_none (by rw [partOrigin, if_pos hpart])]
      simp [hpart]
    constructor
    · rintro ⟨next, ⟨hblank, -⟩ | ⟨-, url, hurl, rfl⟩, hparts, rfl⟩
      · exact (hpart hblank).elim
      · have horigin : partOrigin P part = some url.origin :=
          by rw [partOrigin, if_neg hpart, hurl.parsed, Option.map_some]
        rw [List.filterMap_cons_some horigin, List.foldl_cons]
        exact ⟨⟨fun _ => ⟨url, hurl⟩, hparts⟩, by simp only [List.contains_iff_mem]⟩
    · rintro ⟨⟨hurl, hparts⟩, rfl⟩
      obtain ⟨url, hurl⟩ := hurl hpart
      have horigin : partOrigin P part = some url.origin := by rw [partOrigin, if_neg hpart, hurl.parsed, Option.map_some]
      rw [List.filterMap_cons_some horigin, List.foldl_cons]
      exact ⟨_, Or.inr ⟨hpart, url, hurl, rfl⟩, hparts, by simp only [List.contains_iff_mem]⟩

/-- The accepted origins are joined when there are any. -/
theorem normalizeCorsOrigins_eq_ok_iff : normalizeCorsOrigins P raw = .ok value ↔
    ∃ found, (Python.splitChar raw ',').foldlM (addCorsOrigin P) [] = .ok found ∧ found ≠ [] ∧
    value = ",".intercalate found := by
  unfold normalizeCorsOrigins
  rw [Except.bind_eq_ok_iff]
  refine exists_congr fun found => and_congr_right fun _ => ?_
  by_cases hfound : found = []
  · rw [if_pos hfound]
    exact ⟨nofun, fun h => (h.1 hfound).elim⟩
  · rw [if_neg hfound]
    exact ⟨fun h => ⟨hfound, (Except.ok.inj h).symm⟩, fun h => congrArg Except.ok h.2.symm⟩

/-- A scheme and a host, put together as an origin. -/
def Spelled (o : String) : Prop := ∃ scheme netloc : List Char,
  Url.IsScheme scheme ∧ netloc.all Url.inNetloc = true ∧ ',' ∉ netloc ∧ o.toList = scheme ++ ':' :: '/' :: '/' :: netloc

/-- A scheme has no comma. -/
theorem comma_not_mem_scheme {scheme : List Char} (h : Url.IsScheme scheme) : ',' ∉ scheme := fun hmem =>
  absurd (List.all_eq_true.1 h.chars ',' hmem) (by decide)

/-- An origin has no comma. -/
theorem Spelled.comma_not_mem {o : String} (h : Spelled o) : ',' ∉ o.toList := by
  obtain ⟨scheme, netloc, hscheme, -, hcomma, ho⟩ := h
  rw [ho]
  simp [comma_not_mem_scheme hscheme, hcomma]

/-- An origin starts with a letter. -/
theorem Spelled.head? {o : String} (h : Spelled o) : ∃ c ∈ o.toList.head?, c.isAlpha = true := by
  obtain ⟨scheme, netloc, hscheme, -, -, ho⟩ := h
  have hletter := hscheme.letter
  rw [ho]
  cases scheme with
  | nil => nomatch hletter
  | cons c scheme => exact ⟨c, rfl, hletter⟩

/-- A printed character of ASCII is no whitespace. -/
theorem isSpace_of_printed {c : Char} (h : 33 ≤ c.toNat ∧ c.toNat ≤ 126) : Python.isSpace c = false := by
  simp only [Python.isSpace, Bool.or_eq_false_iff, Bool.and_eq_false_iff, decide_eq_false_iff_not, beq_eq_false_iff_ne]
  omega

/-- A letter is no white space. -/
theorem isSpace_of_isAlpha {c : Char} (h : c.isAlpha = true) : Python.isSpace c = false := by
  have hletter := Url.toNat_of_isAlpha h
  exact isSpace_of_printed (by omega)

/-- A digit is no white space. -/
theorem isSpace_of_isDigit {c : Char} (h : c.isDigit = true) : Python.isSpace c = false := by
  have hval : c.val.toNat = c.toNat := rfl
  have hdigit : '0'.val.toNat = 48 ∧ '9'.val.toNat = 57 := ⟨rfl, rfl⟩
  simp only [Char.isDigit, ge_iff_le, Bool.and_eq_true, decide_eq_true_eq, UInt32.le_iff_toNat_le, hval] at h
  exact isSpace_of_printed (by omega)

/-- The origins before an origin do not matter for what is stripped: it is the whitespace at the end of the host. -/
theorem strip_append_origin {before o : String} (ho : Spelled o)
    (hbefore : before = "" ∨ ∃ c ∈ before.toList.head?, Python.isSpace c = false) :
    (∃ o', Spelled o' ∧ Python.strip (before ++ o) = before ++ o') ∧
      (¬Python.EndsBlank o → Python.strip (before ++ o) = before ++ o) := by
  have hhead : ∃ c ∈ (before ++ o).toList.head?, Python.isSpace c = false := by
    rw [String.toList_append, List.head?_append]
    rcases hbefore with rfl | ⟨c, hc, hspace⟩
    · obtain ⟨c, hc, halpha⟩ := ho.head?
      exact ⟨c, by simpa using hc, isSpace_of_isAlpha halpha⟩
    · rw [Option.mem_def.1 hc]
      exact ⟨c, rfl, hspace⟩
  have hne : o.toList ≠ [] := by
    obtain ⟨c, hc, -⟩ := ho.head?
    exact fun hnil => by simp [hnil] at hc
  constructor
  · obtain ⟨scheme, netloc, hscheme, hnetloc, hcomma, hchars⟩ := ho
    have hsplit : (before ++ o).toList = (before.toList ++ scheme ++ [':', '/', '/']) ++ netloc := by simp [hchars]
    have hfront : ∃ c ∈ (before.toList ++ scheme ++ [':', '/', '/']).head?, Python.isSpace c = false := by
      rw [hsplit, List.head?_append] at hhead
      obtain ⟨c, hc, hspace⟩ := hhead
      refine ⟨c, ?_, hspace⟩
      cases hfirst : (before.toList ++ scheme ++ [':', '/', '/']).head? with
      | none => simp at hfirst
      | some d =>
        rw [hfirst] at hc
        exact hc
    have hback : ∀ c, (before.toList ++ scheme ++ [':', '/', '/']).getLast? = some c → Python.isSpace c = false := by
      intro c hc
      rw [List.getLast?_append_of_ne_nil _ (by simp)] at hc
      cases hc
      decide
    obtain ⟨kept, ⟨dropped, hkept⟩, hstrip⟩ := Python.stripChars_append hfront hback netloc
    subst hkept
    refine ⟨String.ofList (scheme ++ ':' :: '/' :: '/' :: kept), ⟨scheme, kept, hscheme, ?_, ?_, String.toList_ofList⟩,
      ?_⟩
    · exact (List.all_append ▸ hnetloc : (kept.all Url.inNetloc && _) = true) |> Bool.and_eq_true_iff.1 |>.1
    · exact fun hmem => hcomma (List.mem_append_left _ hmem)
    · rw [Python.strip, hsplit, hstrip]
      refine String.toList_inj.1 ?_
      simp
  · intro hblank
    refine (Python.strip_eq_self_iff fun c hc => ?_).2 fun hends => hblank ?_
    · obtain ⟨d, hd, hspace⟩ := hhead
      rw [Option.mem_def.1 hd] at hc
      cases hc
      exact hspace
    · obtain ⟨c, hc, hspace⟩ := hends
      rw [String.toList_append, List.getLast?_append_of_ne_nil _ hne] at hc
      exact ⟨c, hc, hspace⟩

/-- A text that starts with a scheme and a host is parsed into what it is put together of. -/
theorem Spelled.origin_eq {o : String} (hurl : P.urlparse = cpythonUrlparse checks) (ho : Spelled o)
    (h : P.urlparse o = some url) : url.origin = o := by
  obtain ⟨scheme, netloc, hscheme, hnetloc, -, hchars⟩ := ho
  rw [hurl] at h
  exact origin_of_parsed hscheme hnetloc hchars h

/-- A stripped origin is spelled as before. -/
theorem Spelled.strip {o : String} (ho : Spelled o) : Spelled (Python.strip o) := by
  obtain ⟨o', ho', hstrip⟩ := (strip_append_origin ho (Or.inl rfl)).1
  rw [String.empty_append, String.empty_append] at hstrip
  exact hstrip ▸ ho'

/-- The origin of a URL without a comma in its host is put together of a scheme and a host. -/
theorem spelled_origin (hurl : P.urlparse = cpythonUrlparse checks) (h : P.urlparse raw = some url)
    (hhttp : url.isHttp = true) (hcomma : ',' ∉ raw.toList) : Spelled url.origin := by
  rw [hurl] at h
  obtain ⟨hnetloc, hsubset⟩ := netloc_of_cpythonUrlparse h
  exact ⟨_, _, isScheme_of_isHttp hhttp, hnetloc, fun hmem => hcomma (hsubset hmem), toList_origin url⟩

/-- An origin ends in white space when its host does. -/
theorem endsBlank_origin_iff (h : url.isHttp = true) : Python.EndsBlank url.origin ↔ Python.EndsBlank url.netloc := by
  have hne : url.netloc.toList ≠ [] := by simpa using (isHttp_iff.1 h).2
  unfold Python.EndsBlank
  rw [ParsedUrl.origin, String.toList_append, List.getLast?_append_of_ne_nil _ hne]

/-- The origin of a part. -/
theorem partOrigin_eq_some_iff {o : String} : partOrigin P part = some o ↔
    Python.strip part ≠ "" ∧ ∃ url, P.urlparse (Python.strip part) = some url ∧ url.origin = o := by
  unfold partOrigin
  split
  next h => simp [h]
  next h => simp [h]

/-- The last of several origins, and the text before it. -/
theorem intercalate_concat {init : List String} (hinit : ∀ o ∈ init, Spelled o) : ∃ before : String,
    (before = "" ∨ ∃ c ∈ before.toList.head?, Python.isSpace c = false) ∧ ∀ o, ",".intercalate (init ++ [o]) =
    before ++ o := by
  cases init with
  | nil => exact ⟨"", Or.inl rfl, fun o => by simp⟩
  | cons first init =>
    refine ⟨",".intercalate (first :: init) ++ ",", Or.inr ?_, fun o => ?_⟩
    · obtain ⟨c, hc, halpha⟩ := (hinit first List.mem_cons_self).head?
      have hne : first.toList ≠ [] := fun hnil => by simp [hnil] at hc
      refine ⟨c, ?_, isSpace_of_isAlpha halpha⟩
      rw [String.toList_append, String.toList_intercalate, List.map_cons, List.head?_append, Python.head?_intercalate hne,
        Option.mem_def.1 hc]
      rfl
    · rw [String.intercalate_append_of_ne_nil (List.cons_ne_nil _ _) (List.cons_ne_nil _ _), String.intercalate_singleton]

/-- Joined origins are split again. -/
theorem splitChar_origins {origins : List String} (h : ∀ o ∈ origins, Spelled o) (hne : origins ≠ []) :
    Python.splitChar (",".intercalate origins) ',' = origins :=
  Python.splitChar_intercalate (fun o ho => (h o ho).comma_not_mem) hne

/-- A stripped text has no new characters. -/
theorem strip_subset (s : String) : (Python.strip s).toList ⊆ s.toList := by
  rw [Python.strip, String.toList_ofList, Python.stripChars]
  intro c hc
  have hdropped := (List.dropWhile_sublist _).subset (List.mem_reverse.1 hc)
  exact (List.dropWhile_sublist _).subset (List.mem_reverse.1 hdropped)

/-- The origins that are found are those of the parts that are not blank. -/
theorem mem_corsOrigins_iff (hlower : KeepsLowercase P) (h : parts.foldlM (addCorsOrigin P) [] = .ok found) {o : String} :
    o ∈ found ↔ ∃ part ∈ parts, Python.strip part ≠ "" ∧ ∃ url, IsOrigin P (Python.strip part) url ∧ url.origin = o := by
  obtain ⟨hparts, rfl⟩ := (corsOrigins_eq_ok_iff hlower).1 h
  rw [Python.mem_foldl_distinct, List.mem_filterMap, or_iff_right List.not_mem_nil]
  refine exists_congr fun part => and_congr_right fun hpart => ?_
  rw [partOrigin_eq_some_iff]
  refine and_congr_right fun hblank => exists_congr fun url => and_congr_left fun _ => ⟨fun hurl => ?_, IsOrigin.parsed⟩
  obtain ⟨url', hurl'⟩ := hparts part hpart hblank
  rw [hurl'.parsed] at hurl
  cases hurl
  exact hurl'

/-- The origins of the parts of a text have no comma. -/
theorem spelled_of_mem_corsOrigins (hurl : P.urlparse = cpythonUrlparse checks) (hlower : KeepsLowercase P)
    (h : (Python.splitChar raw ',').foldlM (addCorsOrigin P) [] = .ok found) : ∀ o ∈ found, Spelled o := by
  intro o ho
  obtain ⟨part, hpart, -, url, horigin, rfl⟩ := (mem_corsOrigins_iff hlower h).1 ho
  exact spelled_origin hurl horigin.parsed horigin.http fun hmem =>
    Python.not_mem_of_mem_splitChar hpart (strip_subset part hmem)

/-- The origins of origins do not end in whitespace. -/
theorem corsOrigins_of_spelled (hurl : P.urlparse = cpythonUrlparse checks) (hlower : KeepsLowercase P)
    (hparts : ∀ o ∈ parts, Spelled o) (h : parts.foldlM (addCorsOrigin P) [] = .ok found) :
    ∀ o ∈ found, Spelled o ∧ ¬Python.EndsBlank o := by
  intro o ho
  obtain ⟨part, hpart, -, url, horigin, rfl⟩ := (mem_corsOrigins_iff hlower h).1 ho
  rw [(hparts part hpart).strip.origin_eq hurl horigin.parsed]
  exact ⟨(hparts part hpart).strip, Python.not_endsBlank_strip part⟩

/-- Origins that do not end in whitespace are found again. -/
theorem corsOrigins_again (hurl : P.urlparse = cpythonUrlparse checks) (hlower : KeepsLowercase P)
    (h : (Python.splitChar raw ',').foldlM (addCorsOrigin P) [] = .ok found) (hends : ∀ o ∈ found, ¬Python.EndsBlank o) :
    found.foldlM (addCorsOrigin P) [] = .ok found := by
  have hnodup : found.Nodup := ((corsOrigins_eq_ok_iff hlower).1 h).2 ▸ Python.nodup_foldl_distinct List.nodup_nil
  have hself : ∀ o ∈ found, Python.strip o = o ∧ o ≠ "" ∧ ∃ url, IsOrigin P o url ∧ url.origin = o := by
    intro o ho
    have hspelled := spelled_of_mem_corsOrigins hurl hlower h o ho
    refine ⟨by simpa using (strip_append_origin hspelled (Or.inl rfl)).2 (hends o ho), ?_, ?_⟩
    · rintro rfl
      obtain ⟨c, hc, -⟩ := hspelled.head?
      nomatch hc
    · obtain ⟨part, hpart, -, url, horigin, rfl⟩ := (mem_corsOrigins_iff hlower h).1 ho
      have hparsed := horigin.parsed
      refine ⟨{ scheme := url.scheme, netloc := url.netloc }, ⟨?_, horigin.http, rfl, rfl, rfl, Or.inl rfl⟩, rfl⟩
      rw [hurl] at hparsed ⊢
      exact parsed_origin hparsed horigin.http
  have hfilter : found.filterMap (partOrigin P) = found := by
    refine (List.filterMap_congr fun o ho => ?_).trans List.filterMap_some
    obtain ⟨hstrip, hne, url, horigin, heq⟩ := hself o ho
    exact partOrigin_eq_some_iff.2 ⟨hstrip.symm ▸ hne, url, hstrip.symm ▸ horigin.parsed, heq⟩
  refine (corsOrigins_eq_ok_iff hlower).2 ⟨fun o ho _ => ?_, ?_⟩
  · obtain ⟨hstrip, -, url, horigin, -⟩ := hself o ho
    exact ⟨url, hstrip.symm ▸ horigin⟩
  · rw [hfilter, Python.foldl_distinct_of_nodup (by simpa using hnodup), List.nil_append]

/-- CORS origins that are normalised again are what they were exactly when none of them ends in whitespace. -/
theorem normalizeCorsOrigins_strip_found_iff (hurl : P.urlparse = cpythonUrlparse checks) (hlower : KeepsLowercase P)
    (h : (Python.splitChar raw ',').foldlM (addCorsOrigin P) [] = .ok found) (hne : found ≠ []) :
    normalizeCorsOrigins P (Python.strip (",".intercalate found)) = .ok (",".intercalate found) ↔
    ∀ o ∈ found, ¬Python.EndsBlank o := by
  have hspelled := spelled_of_mem_corsOrigins hurl hlower h
  have hagain := corsOrigins_again hurl hlower h
  obtain ⟨init, last, rfl⟩ : ∃ init last, found = init ++ [last] := ⟨_, _, (List.dropLast_concat_getLast hne).symm⟩
  obtain ⟨before, hbefore, hjoin⟩ := intercalate_concat fun o ho => hspelled o (List.mem_append_left _ ho)
  obtain ⟨⟨last', hlast', hstrip⟩, hself⟩ := strip_append_origin (hspelled last (by simp)) hbefore
  rw [← hjoin] at hstrip hself
  constructor
  · intro h
    have hspelled' : ∀ o ∈ init ++ [last'], Spelled o := by
      intro o ho
      rcases List.mem_append.1 ho with ho | ho
      · exact hspelled o (List.mem_append_left _ ho)
      · exact List.mem_singleton.1 ho ▸ hlast'
    rw [hstrip, ← hjoin] at h
    obtain ⟨found', hfold', hne', hjoin'⟩ := normalizeCorsOrigins_eq_ok_iff.1 h
    rw [splitChar_origins hspelled' (by simp)] at hfold'
    have hfound' := corsOrigins_of_spelled hurl hlower hspelled' hfold'
    have hsame : init ++ [last] = found' := by
      rw [← splitChar_origins hspelled hne, hjoin', splitChar_origins (fun o ho => (hfound' o ho).1) hne']
    exact fun o ho => (hfound' o (hsame ▸ ho)).2
  · intro hends
    rw [hself (hends last (by simp)), normalizeCorsOrigins_eq_ok_iff, splitChar_origins hspelled hne]
    exact ⟨_, hagain hends, hne, rfl⟩

/-- CORS origins that are normalised again are what they were exactly when no host ends in whitespace. -/
theorem normalizeCorsOrigins_strip_iff (hurl : P.urlparse = cpythonUrlparse checks) (hlower : KeepsLowercase P)
    (h : normalizeCorsOrigins P raw = .ok value) : normalizeCorsOrigins P (Python.strip value) = .ok value ↔
      ∀ part ∈ Python.splitChar raw ',', ∀ url, P.urlparse (Python.strip part) = some url →
      ¬Python.EndsBlank url.netloc := by
  obtain ⟨found, hfold, hne, rfl⟩ := normalizeCorsOrigins_eq_ok_iff.1 h
  have hparts := ((corsOrigins_eq_ok_iff hlower).1 hfold).1
  rw [normalizeCorsOrigins_strip_found_iff hurl hlower hfold hne]
  constructor
  · intro hends part hpart url hparsed hblank
    by_cases hpartBlank : Python.strip part = ""
    · rw [hpartBlank, hurl] at hparsed
      obtain ⟨c, hc, -⟩ := hblank
      exact absurd ((netloc_of_cpythonUrlparse hparsed).2 (List.mem_of_getLast? hc)) List.not_mem_nil
    · obtain ⟨url', horigin⟩ := hparts part hpart hpartBlank
      obtain rfl : url' = url := Option.some.inj (horigin.parsed.symm.trans hparsed)
      have hfound := (mem_corsOrigins_iff hlower hfold).2 ⟨part, hpart, hpartBlank, url', horigin, rfl⟩
      exact hends _ hfound ((endsBlank_origin_iff horigin.http).2 hblank)
  · intro hends o ho hblank
    obtain ⟨part, hpart, -, url, horigin, rfl⟩ := (mem_corsOrigins_iff hlower hfold).1 ho
    exact hends part hpart url horigin.parsed ((endsBlank_origin_iff horigin.http).1 hblank)

/-! ## Numbers and switches -/

/-- A switch is stored as one of two texts. -/
theorem normalizeBool_ok (h : normalizeBool P raw = .ok value) : value = "true" ∨ value = "false" := by
  unfold normalizeBool at h
  simp only at h
  split at h
  · cases h
    exact .inl rfl
  · split at h
    · cases h
      exact .inr rfl
    · cases h

/-- A switch that is normalised again is what it was. -/
theorem normalizeBool_strip (hlower : KeepsLowercase P) (h : normalizeBool P raw = .ok value) :
    normalizeBool P (Python.strip value) = .ok value := by
  rcases normalizeBool_ok h with rfl | rfl
  · rw [show Python.strip "true" = "true" from rfl, normalizeBool, hlower "true" (by decide)]
    rfl
  · rw [show Python.strip "false" = "false" from rfl, normalizeBool, hlower "false" (by decide)]
    rfl

/-- A number as it is written has no whitespace. -/
theorem strip_toString (n : Int) : Python.strip (toString n) = toString n := by
  have hdigits : ∀ m : Nat, ∀ c ∈ m.repr.toList, Python.isSpace c = false := by
    intro m c hc
    rw [Nat.toList_repr] at hc
    exact isSpace_of_isDigit (Nat.isDigit_of_mem_toDigits (by decide) (by decide) hc)
  have hchars : ∀ c ∈ (toString n).toList, Python.isSpace c = false := by
    cases n with
    | ofNat m => exact hdigits m
    | negSucc m =>
      intro c hc
      have hrepr : toString (Int.negSucc m) = "-" ++ (m + 1).repr := rfl
      rw [hrepr, String.toList_append] at hc
      rcases List.mem_append.1 hc with hc | hc
      · rw [List.mem_singleton.1 hc]
        decide
      · exact hdigits (m + 1) c hc
  unfold Python.strip
  rw [Python.stripChars_of_ends (fun c hc => hchars c (List.mem_of_head? hc)) fun c hc =>
    hchars c (List.mem_of_getLast? hc), String.ofList_toList]

/-- The number an accepted value of an `int` setting stands for, and the lower bounds it has passed. -/
theorem normalizeInt_ok {key raw text : String} (h : normalizeInt P key raw = .ok text) :
    ∃ n, P.intOfText raw = some n ∧ text = toString n ∧ (key = "log_retention_days" → 0 ≤ n) ∧
      (key = "log_cleanup_interval_minutes" ∨ key = "webhook_abuse_window_minutes" → 1 ≤ n) := by
  unfold normalizeInt at h
  split at h
  · cases h
  rename_i n hn
  split at h
  · cases h
  split at h
  · cases h
  split at h
  · cases h
  rename_i hwindow
  split at h
  · cases h
  split at h
  · cases h
  rename_i hretention
  split at h
  · cases h
  rename_i hinterval
  cases h
  refine ⟨n, hn, rfl, fun hkey => ?_, ?_⟩
  · exact Int.not_lt.1 fun hlt => hretention ⟨hkey, hlt⟩
  · rintro (hkey | hkey)
    · exact Int.not_lt.1 fun hlt => hinterval ⟨hkey, hlt⟩
    · exact Int.not_lt.1 fun hlt => hwindow ⟨hkey, hlt⟩

/-- A number that is normalised again is what it was. -/
theorem normalizeInt_strip (hint : ∀ text n, P.intOfText text = some n → P.intOfText (toString n) = some n)
    (h : normalizeInt P key raw = .ok value) : normalizeInt P key (Python.strip value) = .ok value := by
  obtain ⟨n, hparsed, rfl, -⟩ := normalizeInt_ok h
  rw [← h, strip_toString]
  unfold normalizeInt
  rw [hparsed, hint raw n hparsed]

end SettingValuesAux

end TeamsRehook
