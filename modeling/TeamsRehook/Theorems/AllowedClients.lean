import TeamsRehook.ClientIpAllowlist
import TeamsRehook.Lib.Except
import TeamsRehook.Lib.Splitting
import TeamsRehook.Webhook.Receive

/-!
# Allowed clients

The entries of an allowlist are brought to their normal form when they are stored and again when a request is checked.
What is taken for granted of `ipaddress` is that printing and parsing an address or a network are inverse to each other
up to this form.
-/

namespace TeamsRehook

/-- The IP version of an address or a network as it is printed. -/
def ipVersion (printed : String) : Nat := if printed.toList.contains ':' then 6 else 4

/-- What `ipaddress` promises. A printed address or network is parsed to itself; an address is also parsed as the
network that holds it alone; the printed form has no other separators than what was parsed; and a network holds
addresses of its version only. -/
structure IpAddressLaws (P : Platform) : Prop where
  address_empty : P.ipAddress "" = none
  address_printed : ∀ {text address}, P.ipAddress text = some address → P.ipAddress address = some address
  network_printed : ∀ {text network}, P.ipNetwork text = some network → P.ipNetwork network = some network
  address_network : ∀ {text address}, P.ipAddress text = some address →
    ∃ network, P.ipNetwork text = some network ∧ P.ipNetwork address = some network
  address_slash : ∀ {text address}, P.ipAddress text = some address → '/' ∉ address.toList
  network_slash : ∀ {text network}, P.ipNetwork text = some network → '/' ∈ network.toList
  address_separators : ∀ {text address}, P.ipAddress text = some address →
    (∀ c ∈ text.toList, isAllowlistSeparator c = false) → ∀ c ∈ address.toList, isAllowlistSeparator c = false
  network_separators : ∀ {text network}, P.ipNetwork text = some network →
    (∀ c ∈ text.toList, isAllowlistSeparator c = false) → ∀ c ∈ network.toList, isAllowlistSeparator c = false
  same_version : ∀ {address network}, P.ipIn address network = true → ipVersion address = ipVersion network

/-- An entry of the allowlist denotes a network that holds the client. -/
def AllowedByEntry (P : Platform) (clientHost value : String) : Prop :=
  ∃ address, P.ipAddress (Python.strip clientHost) = some address ∧ ∃ entry ∈ allowlistEntries value, ∃ network,
    P.ipNetwork entry = some network ∧ ipVersion address = ipVersion network ∧ P.ipIn address network = true

namespace AllowedClientsAux

variable {P : Platform} {value normalized clientHost entry line : String}

/-! ## Entries -/

/-- The normal form of an entry. -/
theorem normalizeClientIp_eq_ok_iff : normalizeClientIp P entry = .ok line ↔
    (if entry.toList.contains '/' then P.ipNetwork entry else P.ipAddress entry) = some line := by
  unfold normalizeClientIp
  split
  next h => rw [h, Except.ok.injEq, Option.some.injEq]
  next h =>
    rw [h]
    exact ⟨nofun, nofun⟩

/-- An entry in its normal form is in its normal form. -/
theorem normalizeClientIp_normalized (hP : IpAddressLaws P) (h : normalizeClientIp P entry = .ok line) :
    normalizeClientIp P line = .ok line := by
  rw [normalizeClientIp_eq_ok_iff] at h ⊢
  split at h
  next =>
    rw [if_pos (List.contains_iff_mem.2 (hP.network_slash h))]
    exact hP.network_printed h
  next =>
    rw [if_neg fun hslash => hP.address_slash h (List.contains_iff_mem.1 hslash)]
    exact hP.address_printed h

/-- The normal form of an entry has no separators. -/
theorem separators_normalizeClientIp (hP : IpAddressLaws P) (h : normalizeClientIp P entry = .ok line)
    (hentry : ∀ c ∈ entry.toList, isAllowlistSeparator c = false) :
    line ≠ "" ∧ ∀ c ∈ line.toList, isAllowlistSeparator c = false := by
  rw [normalizeClientIp_eq_ok_iff] at h
  split at h
  next =>
    refine ⟨?_, hP.network_separators h hentry⟩
    rintro rfl
    nomatch hP.network_slash h
  next =>
    refine ⟨?_, hP.address_separators h hentry⟩
    rintro rfl
    have := hP.address_printed h
    rw [hP.address_empty] at this
    nomatch this

/-- An entry and its normal form denote the same network. -/
theorem ipNetwork_normalizeClientIp (hP : IpAddressLaws P) (h : normalizeClientIp P entry = .ok line) :
    ∃ network, P.ipNetwork entry = some network ∧ P.ipNetwork line = some network := by
  rw [normalizeClientIp_eq_ok_iff] at h
  split at h
  next => exact ⟨line, h, hP.network_printed h⟩
  next => exact hP.address_network h

/-! ## Allowlists -/

/-- The lines of the normal form of an allowlist. They are the normal forms of the entries, without repetitions. -/
structure NormalLines (P : Platform) (value normalized : String) (lines : List String) : Prop where
  nodup : lines.Nodup
  eq : normalized = "\n".intercalate lines
  mem_iff : ∀ {line}, line ∈ lines ↔ ∃ entry ∈ allowlistEntries value, normalizeClientIp P entry = .ok line

/-- An allowlist has a normal form exactly when its entries have one. -/
theorem exists_normalizeClientIpAllowlist_iff :
    (∃ normalized, normalizeClientIpAllowlist P value = .ok normalized) ↔
      ∀ entry ∈ allowlistEntries value, ∃ line, normalizeClientIp P entry = .ok line := by
  rw [← Except.exists_mapM_eq_ok_iff]
  constructor
  · rintro ⟨normalized, h⟩
    obtain ⟨entries, hentries, -⟩ := Except.bind_eq_ok_iff.1 h
    exact ⟨entries, hentries⟩
  · rintro ⟨entries, hentries⟩
    exact ⟨_, Except.bind_eq_ok_iff.2 ⟨entries, hentries, rfl⟩⟩

/-- The lines of a normal form. -/
theorem exists_normalLines (h : normalizeClientIpAllowlist P value = .ok normalized) :
    ∃ lines, NormalLines P value normalized lines := by
  obtain ⟨entries, hentries, h⟩ := Except.bind_eq_ok_iff.1 h
  refine ⟨_, Python.nodup_foldl_distinct List.nodup_nil, (Except.ok.inj h).symm, ?_⟩
  intro line
  rw [Python.mem_foldl_distinct, Except.mem_of_mapM_eq_ok hentries]
  exact or_iff_right List.not_mem_nil

/-- Each line has no separators. -/
theorem NormalLines.separators {lines : List String} (hP : IpAddressLaws P) (h : NormalLines P value normalized lines) :
    ∀ line ∈ lines, line ≠ "" ∧ ∀ c ∈ line.toList, isAllowlistSeparator c = false := by
  intro line hline
  obtain ⟨entry, hentry, heq⟩ := h.mem_iff.1 hline
  exact separators_normalizeClientIp hP heq (Python.of_mem_splitOn hentry).2

/-- The lines of a normal form are what it is split into. -/
theorem NormalLines.splitlines {lines : List String} (hP : IpAddressLaws P) (h : NormalLines P value normalized lines) :
    Python.splitlines normalized = lines := by
  rw [h.eq]
  refine Python.splitlines_intercalate fun line hline => ⟨(h.separators hP line hline).1, fun c hc => ?_⟩
  have hc := (h.separators hP line hline).2 c hc
  rw [Bool.eq_false_iff] at hc ⊢
  intro hbreak
  rw [isAllowlistSeparator, Python.isSpace_of_isLineBreak hbreak] at hc
  exact hc rfl

/-- Whitespace separates entries. -/
theorem isAllowlistSeparator_of_isSpace (c : Char) (h : Python.isSpace c = true) : isAllowlistSeparator c = true := by
  rw [isAllowlistSeparator, h]
  rfl

/-- The entries of a normal form are its lines. -/
theorem NormalLines.entries {lines : List String} (hP : IpAddressLaws P) (h : NormalLines P value normalized lines) :
    allowlistEntries normalized = lines := by
  rw [allowlistEntries, Python.splitOn_strip isAllowlistSeparator_of_isSpace, h.eq]
  exact Python.splitOn_intercalate (List.all_eq_true.1 (by decide)) (by decide) (h.separators hP)

/-- A normal form is its own normal form. -/
theorem NormalLines.normalize {lines : List String} (hP : IpAddressLaws P) (h : NormalLines P value normalized lines) :
    normalizeClientIpAllowlist P normalized = .ok normalized := by
  have hself : ∀ line ∈ lines, normalizeClientIp P line = .ok line := by
    intro line hline
    obtain ⟨entry, -, heq⟩ := h.mem_iff.1 hline
    exact normalizeClientIp_normalized hP heq
  have hentries : (allowlistEntries normalized).mapM (normalizeClientIp P) = .ok lines := by
    rw [h.entries hP, Except.mapM_eq_ok_iff, List.forall₂_same]
    exact hself
  refine Except.bind_eq_ok_iff.2 ⟨lines, hentries, ?_⟩
  rw [Python.foldl_distinct_of_nodup (by simpa using h.nodup), List.nil_append, ← h.eq]
  rfl

/-! ## Networks -/

/-- The network a text denotes. -/
theorem ipNetwork_eq_ok_iff {network : String} : ipNetwork P entry = .ok network ↔ P.ipNetwork entry = some network := by
  unfold ipNetwork
  cases P.ipNetwork entry with
  | some network' => rw [Except.ok.injEq, Option.some.injEq]
  | none => exact ⟨nofun, nofun⟩

/-- The networks of an allowlist with a normal form are those its entries denote. -/
theorem exists_networks (hP : IpAddressLaws P) (h : normalizeClientIpAllowlist P value = .ok normalized) :
    ∃ networks, clientIpAllowlistNetworks P value = .ok networks ∧
      ∀ network, network ∈ networks ↔ ∃ entry ∈ allowlistEntries value, P.ipNetwork entry = some network := by
  obtain ⟨lines, hlines⟩ := exists_normalLines h
  have hall : ∀ line ∈ lines, ∃ network, ipNetwork P line = .ok network := by
    intro line hline
    obtain ⟨entry, -, heq⟩ := hlines.mem_iff.1 hline
    obtain ⟨network, -, hnet⟩ := ipNetwork_normalizeClientIp hP heq
    exact ⟨network, ipNetwork_eq_ok_iff.2 hnet⟩
  obtain ⟨networks, hnetworks⟩ := Except.exists_mapM_eq_ok_iff.2 hall
  refine ⟨networks, Except.bind_eq_ok_iff.2 ⟨normalized, h, by rw [hlines.splitlines hP, hnetworks]⟩, fun network => ?_⟩
  rw [Except.mem_of_mapM_eq_ok hnetworks]
  constructor
  · rintro ⟨line, hline, hnet⟩
    obtain ⟨entry, hentry, heq⟩ := hlines.mem_iff.1 hline
    obtain ⟨network', hnet', hline'⟩ := ipNetwork_normalizeClientIp hP heq
    rw [ipNetwork_eq_ok_iff.1 hnet] at hline'
    exact ⟨entry, hentry, hline' ▸ hnet'⟩
  · rintro ⟨entry, hentry, hnet⟩
    obtain ⟨line, heq⟩ := exists_normalizeClientIpAllowlist_iff.1 ⟨normalized, h⟩ entry hentry
    obtain ⟨network', hnet', hline'⟩ := ipNetwork_normalizeClientIp hP heq
    rw [hnet] at hnet'
    exact ⟨line, hlines.mem_iff.2 ⟨entry, hentry, heq⟩, ipNetwork_eq_ok_iff.2 (Option.some.inj hnet' ▸ hline')⟩

/-- Whether a client is allowed is what the entries of the allowlist say. -/
theorem exists_clientIpAllowed (hP : IpAddressLaws P) (h : normalizeClientIpAllowlist P value = .ok normalized)
    (clientHost : String) :
    ∃ allowed, clientIpAllowed P clientHost value = .ok allowed ∧
    (allowed = true ↔ AllowedByEntry P clientHost value) := by
  unfold clientIpAllowed
  by_cases hblank : Python.strip clientHost = ""
  · rw [if_pos hblank]
    refine ⟨false, rfl, nofun, ?_⟩
    rintro ⟨address, haddress, -⟩
    rw [hblank, hP.address_empty] at haddress
    nomatch haddress
  · rw [if_neg hblank]
    unfold AllowedByEntry
    cases haddress : P.ipAddress (Python.strip clientHost) with
    | none => exact ⟨false, rfl, nofun, nofun⟩
    | some address =>
      obtain ⟨networks, hnetworks, hmem⟩ := exists_networks hP h
      refine ⟨_, by rw [hnetworks]; rfl, ?_⟩
      rw [List.any_eq_true]
      constructor
      · rintro ⟨network, hnetwork, hin⟩
        obtain ⟨entry, hentry, hnet⟩ := (hmem network).1 hnetwork
        exact ⟨address, rfl, entry, hentry, network, hnet, hP.same_version hin, hin⟩
      · rintro ⟨address', heq, entry, hentry, network, hnet, -, hin⟩
        rw [← Option.some.inj heq] at hin
        exact ⟨network, (hmem network).2 ⟨entry, hentry, hnet⟩, hin⟩

/-- Allowlists with the same entries allow the same clients. -/
theorem clientIpAllowed_congr (hP : IpAddressLaws P) {value' : String}
    (h : normalizeClientIpAllowlist P value = .ok normalized)
    (hentries : ∀ entry, entry ∈ allowlistEntries value' ↔ entry ∈ allowlistEntries value) (clientHost : String) :
    (∃ normalized', normalizeClientIpAllowlist P value' = .ok normalized') ∧
      clientIpAllowed P clientHost value' = clientIpAllowed P clientHost value := by
  have hok : ∃ normalized', normalizeClientIpAllowlist P value' = .ok normalized' := by
    rw [exists_normalizeClientIpAllowlist_iff]
    intro entry hentry
    exact exists_normalizeClientIpAllowlist_iff.1 ⟨normalized, h⟩ entry ((hentries entry).1 hentry)
  obtain ⟨normalized', h'⟩ := hok
  obtain ⟨allowed, hallowed, hiff⟩ := exists_clientIpAllowed hP h clientHost
  obtain ⟨allowed', hallowed', hiff'⟩ := exists_clientIpAllowed hP h' clientHost
  have hsame : AllowedByEntry P clientHost value' ↔ AllowedByEntry P clientHost value := by
    unfold AllowedByEntry
    simp only [hentries]
  refine ⟨⟨normalized', h'⟩, ?_⟩
  rw [hallowed, hallowed', Bool.eq_iff_iff.2 (hiff'.trans (hsame.trans hiff.symm))]

/-- An allowlist and its normal form denote the same networks. -/
theorem allowedByEntry_normalized (hP : IpAddressLaws P) (h : normalizeClientIpAllowlist P value = .ok normalized)
    (clientHost : String) : AllowedByEntry P clientHost normalized ↔ AllowedByEntry P clientHost value := by
  obtain ⟨lines, hlines⟩ := exists_normalLines h
  unfold AllowedByEntry
  rw [hlines.entries hP]
  refine exists_congr fun address => and_congr_right fun _ => ?_
  constructor
  · rintro ⟨line, hline, network, hnet, hin⟩
    obtain ⟨entry, hentry, heq⟩ := hlines.mem_iff.1 hline
    obtain ⟨network', hnet', hline'⟩ := ipNetwork_normalizeClientIp hP heq
    rw [hnet] at hline'
    exact ⟨entry, hentry, network, Option.some.inj hline' ▸ hnet', hin⟩
  · rintro ⟨entry, hentry, network, hnet, hin⟩
    obtain ⟨line, heq⟩ := exists_normalizeClientIpAllowlist_iff.1 ⟨normalized, h⟩ entry hentry
    obtain ⟨network', hnet', hline'⟩ := ipNetwork_normalizeClientIp hP heq
    rw [hnet] at hnet'
    exact ⟨line, hlines.mem_iff.2 ⟨entry, hentry, heq⟩, network, Option.some.inj hnet' ▸ hline', hin⟩

end AllowedClientsAux

open AllowedClientsAux

/-! ## What an allowlist means -/

/-- An allowlist and its normal form allow the same clients: those that are in a network one of its entries denotes. The
normal form is its own normal form, has no line twice and only lines of entries. Which clients are allowed depends on
the set of the entries only, so not on their order, on repetitions, or on the separators between them. -/
theorem allowlist_meaning (P : Platform) (hP : IpAddressLaws P) (value normalized : String)
    (h : normalizeClientIpAllowlist P value = .ok normalized) :
    normalizeClientIpAllowlist P normalized = .ok normalized ∧ (Python.splitlines normalized).Nodup ∧
    (∀ line ∈ Python.splitlines normalized, ∃ entry ∈ allowlistEntries value, normalizeClientIp P entry = .ok line) ∧
    ∀ clientHost, ∃ allowed, clientIpAllowed P clientHost value = .ok allowed ∧
      clientIpAllowed P clientHost normalized = .ok allowed ∧ (allowed = true ↔ AllowedByEntry P clientHost value) ∧
      (∀ value', (∀ entry, entry ∈ allowlistEntries value' ↔ entry ∈ allowlistEntries value) →
        clientIpAllowed P clientHost value' = .ok allowed) ∧
      ∀ lead items, (∀ c ∈ lead.toList, isAllowlistSeparator c = true) → Python.Listable isAllowlistSeparator items →
        (∀ entry, entry ∈ items.map (·.1) ↔ entry ∈ allowlistEntries value) →
        clientIpAllowed P clientHost (Python.listed lead items) = .ok allowed := by
  obtain ⟨lines, hlines⟩ := exists_normalLines h
  have hnormal := hlines.normalize hP
  refine ⟨hnormal, ?_, ?_, fun clientHost => ?_⟩
  · rw [hlines.splitlines hP]
    exact hlines.nodup
  · rw [hlines.splitlines hP]
    exact fun line hline => hlines.mem_iff.1 hline
  obtain ⟨allowed, hallowed, hiff⟩ := exists_clientIpAllowed hP h clientHost
  have hcongr : ∀ value', (∀ entry, entry ∈ allowlistEntries value' ↔ entry ∈ allowlistEntries value) →
      clientIpAllowed P clientHost value' = .ok allowed := fun value' hentries =>
    hallowed ▸ (clientIpAllowed_congr hP h hentries clientHost).2
  refine ⟨allowed, hallowed, ?_, hiff, hcongr, fun lead items hlead hitems hentries => hcongr _ ?_⟩
  · obtain ⟨allowed', hallowed', hiff'⟩ := exists_clientIpAllowed hP hnormal clientHost
    rw [hallowed', Bool.eq_iff_iff.2 (hiff'.trans ((allowedByEntry_normalized hP h clientHost).trans hiff.symm))]
  · rw [allowlistEntries, Python.splitOn_strip isAllowlistSeparator_of_isSpace, Python.splitOn_listed hlead hitems]
    exact hentries

/-- A restricted route whose addresses are stored in their normal form lets through the clients they denote. -/
theorem routeAllowsClientIp_restricted {P : Platform} (hP : IpAddressLaws P) {V : Services} {route : WebhookRoute}
    {clientHost : String} (hV : ∀ allowed, clientIpAllowed P clientHost route.clientIpAllowlist = .ok allowed →
      V.clientIpAllowed clientHost route.clientIpAllowlist = allowed)
    (hmode : P.lower (Python.strip (Python.orElse route.clientIpAccessMode "public")) = "restricted")
    (hstored : ∃ value, normalizeClientIpAllowlist P value = .ok route.clientIpAllowlist) :
    routeAllowsClientIp P V route clientHost = true ↔ AllowedByEntry P clientHost route.clientIpAllowlist := by
  obtain ⟨value, hvalue⟩ := hstored
  obtain ⟨lines, hlines⟩ := exists_normalLines hvalue
  obtain ⟨allowed, hallowed, hiff⟩ := exists_clientIpAllowed hP (hlines.normalize hP) clientHost
  rw [routeAllowsClientIp, if_pos hmode, hV allowed hallowed]
  exact hiff

/-! ## Fixed inputs -/

/-- Some addresses, with the form they are printed in. -/
def someAddresses : List (String × String) :=
  [("10.0.0.1", "10.0.0.1"), ("2001:db8::1", "2001:db8::1"), ("2001:DB8::1", "2001:db8::1")]

/-- Some networks, with the form they are printed in. -/
def someNetworks : List (String × String) :=
  [("10.0.0.1", "10.0.0.1/32"), ("10.0.0.1/32", "10.0.0.1/32"), ("10.0.0.7/24", "10.0.0.0/24"),
    ("10.0.0.0/24", "10.0.0.0/24"), ("2001:db8::1", "2001:db8::1/128"), ("2001:DB8::1", "2001:db8::1/128"),
      ("2001:db8::1/128", "2001:db8::1/128")]

/-- A platform that knows these addresses and networks. -/
def Platform.someAddresses : Platform :=
  { Platform.plain with
    ipAddress text := TeamsRehook.someAddresses.lookup text
    ipNetwork text := someNetworks.lookup text
    ipIn address network :=
      [("10.0.0.1", "10.0.0.1/32"), ("10.0.0.1", "10.0.0.0/24"), ("2001:db8::1", "2001:db8::1/128")].contains
      (address, network) }

/-- What is looked up is a pair of the list. -/
theorem mem_of_lookup_eq_some {text printed : String} {forms : List (String × String)}
    (h : forms.lookup text = some printed) : (text, printed) ∈ forms := by
  obtain ⟨before, after, rfl, -⟩ := List.lookup_eq_some_iff.1 h
  exact List.mem_append_right before List.mem_cons_self

/-- The platform keeps what `ipaddress` promises. -/
theorem ipAddressLaws_someAddresses : IpAddressLaws Platform.someAddresses := by
  refine ⟨rfl, fun h => ?_, fun h => ?_, fun h => ?_, fun h => ?_, fun h => ?_, fun h _ => ?_, fun h _ => ?_, fun h => ?_⟩
  · exact (by decide : ∀ p ∈ someAddresses, someAddresses.lookup p.2 = some p.2) _ (mem_of_lookup_eq_some h)
  · exact (by decide : ∀ p ∈ someNetworks, someNetworks.lookup p.2 = some p.2) _ (mem_of_lookup_eq_some h)
  · have hnetwork : ∀ p ∈ someAddresses, ∃ q ∈ someNetworks, someNetworks.lookup p.1 = some q.2 ∧
        someNetworks.lookup p.2 = some q.2 := by
      decide
    obtain ⟨q, -, hq⟩ := hnetwork _ (mem_of_lookup_eq_some h)
    exact ⟨q.2, hq⟩
  · exact (by decide : ∀ p ∈ someAddresses, '/' ∉ p.2.toList) _ (mem_of_lookup_eq_some h)
  · exact (by decide : ∀ p ∈ someNetworks, '/' ∈ p.2.toList) _ (mem_of_lookup_eq_some h)
  · have hseparators : ∀ p ∈ someAddresses, p.2.toList.all (!isAllowlistSeparator ·) = true := by decide
    intro c hc
    exact (Bool.not_eq_true' _).mp (List.all_eq_true.1 (hseparators _ (mem_of_lookup_eq_some h)) c hc)
  · have hseparators : ∀ p ∈ someNetworks, p.2.toList.all (!isAllowlistSeparator ·) = true := by decide
    intro c hc
    exact (Bool.not_eq_true' _).mp (List.all_eq_true.1 (hseparators _ (mem_of_lookup_eq_some h)) c hc)
  · have hversion : ∀ p ∈ [("10.0.0.1", "10.0.0.1/32"), ("10.0.0.1", "10.0.0.0/24"), ("2001:db8::1", "2001:db8::1/128")],
        ipVersion p.1 = ipVersion p.2 := by decide
    exact hversion _ (List.contains_iff_mem.1 h)

/-- A network with host bits, an address of it twice, and a client at this address. -/
theorem allowlist_meaning_masked :
    normalizeClientIpAllowlist Platform.someAddresses "10.0.0.0/24\n2001:db8::1" = .ok "10.0.0.0/24\n2001:db8::1" ∧
      clientIpAllowed Platform.someAddresses " 10.0.0.1" "10.0.0.0/24\n2001:db8::1" =
        clientIpAllowed Platform.someAddresses " 10.0.0.1" "10.0.0.7/24, 2001:DB8::1\n2001:db8::1" := by
  have h : normalizeClientIpAllowlist Platform.someAddresses "10.0.0.7/24, 2001:DB8::1\n2001:db8::1" =
      .ok "10.0.0.0/24\n2001:db8::1" := by
    exact Except.toOption_eq_some_iff.1 (by decide +kernel)
  obtain ⟨hnormal, -, -, hallowed⟩ := allowlist_meaning Platform.someAddresses ipAddressLaws_someAddresses _ _ h
  obtain ⟨allowed, hvalue, hnormalized, -⟩ := hallowed " 10.0.0.1"
  exact ⟨hnormal, hnormalized.trans hvalue.symm⟩

end TeamsRehook
