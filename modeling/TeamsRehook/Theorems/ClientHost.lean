import TeamsRehook.Webhook.ClientHost

namespace TeamsRehook

/-! ## What a client can make of its address -/

/-- The header that reaches the backend: what the trusted proxies appended, after what the client sent, if it sent the
header. -/
def forwardedHeader (client : Option String) (appended : List String) : String :=
  match client with
  | none => ",".intercalate appended
  | some text => text ++ "," ++ ",".intercalate appended

/-- The parts are addresses, with any whitespace around them. -/
structure AddressList (P : Platform) (parts hosts : List String) : Prop where
  commas : ∀ part ∈ parts, ',' ∉ part.toList
  addresses : parts.mapM (forwardedHost P) = some hosts

/-- The host is the last one of the list that is in none of the networks. -/
def RightmostUntrusted (P : Platform) (networks hosts : List String) (host : String) : Prop :=
  ∃ before after, hosts = before ++ host :: after ∧ ipInNetworks P host networks = false ∧
    ∀ other ∈ after, ipInNetworks P other networks = true

/-- Every part of what the client sent is an address. -/
def WellFormed (P : Platform) (client : Option String) : Prop :=
  ∀ text ∈ client, ∀ part ∈ Python.splitChar text ',', (forwardedHost P part).isSome

instance (P : Platform) (client : Option String) : Decidable (WellFormed P client) :=
  inferInstanceAs (Decidable (∀ text ∈ client, ∀ part ∈ Python.splitChar text ',', (forwardedHost P part).isSome))

namespace ClientHostAux

variable {P : Platform} {appended hosts networks : List String} {host : String}

/-- The parts of what the client sent. -/
def clientParts (client : Option String) : List String := client.elim [] (Python.splitChar · ',')

/-- The parts of the header are those of the client and the appended ones. -/
theorem splitChar_forwardedHeader (client : Option String) (h : AddressList P appended hosts) (hne : appended ≠ []) :
    Python.splitChar (forwardedHeader client appended) ',' = clientParts client ++ appended := by
  have happended : Python.splitChar (",".intercalate appended) ',' = appended := Python.splitChar_intercalate h.commas hne
  cases client with
  | none => exact happended
  | some text =>
    have hsplit := Python.splitChar_append text (",".intercalate appended) ','
    rw [happended] at hsplit
    exact hsplit

/-- Looking up every part succeeds exactly when it does for each of them. -/
theorem mapM_isSome_iff {α β : Type} {f : α → Option β} {xs : List α} : (xs.mapM f).isSome ↔ ∀ x ∈ xs, (f x).isSome := by
  induction xs with
  | nil => simp
  | cons x xs ih =>
    rw [List.mapM_cons, List.forall_mem_cons, ← ih]
    cases f x with
    | none => simp
    | some y => cases xs.mapM f <;> simp

/-- The chain of a header whose every part is an address: those of the client, and the appended ones. -/
theorem chain_of_wellFormed {client : Option String} (h : AddressList P appended hosts) (hne : appended ≠ [])
    (hclient : WellFormed P client) :
    ∃ sent, forwardedHostChain P (forwardedHeader client appended) = sent ++ hosts := by
  have hsent : ((clientParts client).mapM (forwardedHost P)).isSome := by
    refine mapM_isSome_iff.2 fun part hpart => ?_
    cases client with
    | none => cases hpart
    | some text => exact hclient text rfl part hpart
  obtain ⟨sent, hsent⟩ := Option.isSome_iff_exists.1 hsent
  refine ⟨sent, ?_⟩
  rw [forwardedHostChain, splitChar_forwardedHeader client h hne, List.mapM_append, hsent, h.addresses]
  rfl

/-- A part of the client's that is no address leaves no chain. -/
theorem chain_of_not_wellFormed {client : Option String} (h : AddressList P appended hosts) (hne : appended ≠ [])
    (hclient : ¬WellFormed P client) : forwardedHostChain P (forwardedHeader client appended) = [] := by
  have hsent : (clientParts client).mapM (forwardedHost P) = none := by
    rw [← Option.not_isSome_iff_eq_none, mapM_isSome_iff]
    intro hall
    refine hclient fun text htext part hpart => hall part ?_
    rw [htext]
    exact hpart
  rw [forwardedHostChain, splitChar_forwardedHeader client h hne, List.mapM_append, hsent]
  rfl

/-- The header is not blank. -/
theorem strip_forwardedHeader_ne (client : Option String) (h : AddressList P appended hosts) (hne : appended ≠ []) :
    Python.strip (forwardedHeader client appended) ≠ "" := by
  intro hblank
  obtain ⟨part, parts, rfl⟩ := List.exists_cons_of_ne_nil hne
  have hmem : part ∈ Python.splitChar (forwardedHeader client (part :: parts)) ',' := by
    rw [splitChar_forwardedHeader client h hne]
    simp
  have hpart : Python.strip part = "" :=
    Python.strip_eq_empty_iff.2 fun c hc => Python.strip_eq_empty_iff.1 hblank c (Python.subset_of_mem_splitChar hmem hc)
  have hnone : forwardedHost P part = none := by simp [forwardedHost, hpart]
  have haddresses := h.addresses
  rw [List.mapM_cons, hnone] at haddresses
  cases haddresses

/-- A list that has a host outside the networks has a last one. -/
theorem exists_rightmostUntrusted (h : ∃ host ∈ hosts, ipInNetworks P host networks = false) :
    ∃ host, RightmostUntrusted P networks hosts host := by
  induction hosts with
  | nil =>
    obtain ⟨host, hmem, -⟩ := h
    cases hmem
  | cons first rest ih =>
    by_cases hrest : ∃ host ∈ rest, ipInNetworks P host networks = false
    · obtain ⟨host, before, after, rfl, huntrusted, hafter⟩ := ih hrest
      exact ⟨host, first :: before, after, rfl, huntrusted, hafter⟩
    · obtain ⟨host, hmem, huntrusted⟩ := h
      rcases List.mem_cons.1 hmem with rfl | hmem
      · refine ⟨host, [], rest, rfl, huntrusted, fun other hother => ?_⟩
        by_contra hne
        exact hrest ⟨other, hother, Bool.eq_false_iff.2 hne⟩
      · exact absurd ⟨host, hmem, huntrusted⟩ hrest

/-- The scan from the right stops at the last host outside the networks. -/
theorem clientOfChain_eq {first : String} {rest : List String} (h : RightmostUntrusted P networks (first :: rest) host) :
    clientOfChain P networks first rest = host := by
  obtain ⟨before, after, hchain, huntrusted, hafter⟩ := h
  have hskip : after.reverse.find? (fun host => !ipInNetworks P host networks) = none := by
    refine List.find?_eq_none.2 fun other hother => ?_
    simp [hafter other (List.mem_reverse.1 hother)]
  unfold clientOfChain
  rw [hchain, List.reverse_append, List.reverse_cons, List.append_assoc, List.find?_append, hskip]
  simp [huntrusted]

end ClientHostAux

open ClientHostAux in
/-- With the header trusted, a trusted peer and addresses appended by trusted proxies of which one is not trusted:
whatever the client put in front, the client host is the last appended address that is not trusted when every part the
client put there is an address, and else the peer. So two headers give the same client host whenever both or neither
have such parts only. -/
theorem client_host_of_appended (P : Platform) (s : Settings) (directClientHost trusted : String)
    (appended hosts : List String) (htrust : s.trustXForwardedFor = true)
    (htrusted : combinedTrustedProxyIps P s.composeAppSubnet s.trustedProxyIps = .ok trusted)
    (hpeer : hostInNetworks P directClientHost (trustedProxyNetworks P trusted) = true)
    (happended : AddressList P appended hosts)
    (huntrusted : ∃ host ∈ hosts, ipInNetworks P host (trustedProxyNetworks P trusted) = false) :
    ∃ host, RightmostUntrusted P (trustedProxyNetworks P trusted) hosts host ∧
      ∀ client, (resolveClientHost P s directClientHost (forwardedHeader client appended)).map (·.clientHost) =
        .ok (if WellFormed P client then host else directClientHost) := by
  obtain ⟨host, hhost⟩ := exists_rightmostUntrusted huntrusted
  refine ⟨host, hhost, fun client => ?_⟩
  have hne : appended ≠ [] := by
    rintro rfl
    have hnil : hosts = [] := (Option.some.inj happended.addresses).symm
    obtain ⟨other, hother, -⟩ := huntrusted
    rw [hnil] at hother
    cases hother
  have hguard : ¬(s.trustXForwardedFor = false ∨ Python.strip (forwardedHeader client appended) = "" ∨
      hostInNetworks P directClientHost (trustedProxyNetworks P trusted) = false) := by
    rw [htrust, hpeer]
    simpa using strip_forwardedHeader_ne client happended hne
  unfold resolveClientHost
  rw [htrusted]
  simp only [bind, Except.bind, if_neg hguard]
  by_cases hclient : WellFormed P client
  · rw [if_pos hclient]
    obtain ⟨sent, hchain⟩ := chain_of_wellFormed happended hne hclient
    obtain ⟨before, after, hsplit, hrest⟩ := hhost
    have hlast : RightmostUntrusted P (trustedProxyNetworks P trusted) (sent ++ hosts) host :=
      ⟨sent ++ before, after, by rw [hsplit, List.append_assoc], hrest⟩
    rw [← hchain] at hlast
    split
    · rename_i hnil
      rw [hnil] at hlast
      obtain ⟨before, after, habsurd, -⟩ := hlast
      simp at habsurd
    · rename_i first rest hcons
      rw [hcons] at hlast
      simp only [pure, Except.pure, Except.map, clientOfChain_eq hlast]
  · rw [if_neg hclient, chain_of_not_wellFormed happended hne hclient]
    rfl

/-- A platform that knows four addresses and one network. -/
def Platform.fourHosts : Platform :=
  { Platform.plain with
    ipAddress := fun value => if value ∈ ["10.0.0.9", "10.0.0.10", "198.51.100.7", "203.0.113.42"] then
      some value else none
    ipNetwork := fun value => if value = "10.0.0.0/24" then some value else none
    ipIn := fun address network => network == "10.0.0.0/24" && Python.startsWith address "10.0.0." }

/-- The addresses of the network are trusted proxies. -/
def trustedProxies : Settings := { composeAppSubnet := "", trustXForwardedFor := true, trustedProxyIps := "10.0.0.0/24" }

/-- Two proxies: the first one appended the address of the client, the second one that of the first. -/
theorem client_host_of_appended_twoProxies :
    ∃ host, RightmostUntrusted .fourHosts ["10.0.0.0/24"] ["203.0.113.42", "10.0.0.9"] host ∧
      ∀ client, (resolveClientHost .fourHosts trustedProxies "10.0.0.10"
          (forwardedHeader client ["203.0.113.42", " 10.0.0.9"])).map (·.clientHost) =
        .ok (if WellFormed .fourHosts client then host else "10.0.0.10") :=
  client_host_of_appended .fourHosts trustedProxies "10.0.0.10" "10.0.0.0/24" ["203.0.113.42", " 10.0.0.9"]
    ["203.0.113.42", "10.0.0.9"] rfl rfl rfl ⟨by decide, rfl⟩ ⟨"203.0.113.42", by decide, by decide⟩

/-- It is not so that the client host is the last appended address that is not trusted whatever the client put in front:
a client that puts a text there that is no address is taken for the proxy, one that puts an address there for itself. -/
theorem client_host_of_prefix :
    (resolveClientHost .fourHosts trustedProxies "10.0.0.10"
        (forwardedHeader (some "198.51.100.7") ["203.0.113.42", " 10.0.0.9"])).map (·.clientHost) = .ok "203.0.113.42" ∧
      (resolveClientHost .fourHosts trustedProxies "10.0.0.10"
        (forwardedHeader (some "unknown") ["203.0.113.42", " 10.0.0.9"])).map (·.clientHost) = .ok "10.0.0.10" ∧
      ¬∀ (P : Platform) (s : Settings) (directClientHost trusted : String) (appended hosts : List String),
        s.trustXForwardedFor = true → combinedTrustedProxyIps P s.composeAppSubnet s.trustedProxyIps = .ok trusted →
        hostInNetworks P directClientHost (trustedProxyNetworks P trusted) = true → AddressList P appended hosts →
        (∃ host ∈ hosts, ipInNetworks P host (trustedProxyNetworks P trusted) = false) →
        ∃ host, RightmostUntrusted P (trustedProxyNetworks P trusted) hosts host ∧
          ∀ client, (resolveClientHost P s directClientHost (forwardedHeader client appended)).map (·.clientHost) =
          .ok host := by
  refine ⟨rfl, rfl, fun hclaim => ?_⟩
  obtain ⟨host, -, hsame⟩ := hclaim .fourHosts trustedProxies "10.0.0.10" "10.0.0.0/24" ["203.0.113.42", " 10.0.0.9"]
    ["203.0.113.42", "10.0.0.9"] rfl rfl rfl ⟨by decide, rfl⟩ ⟨"203.0.113.42", by decide, by decide⟩
  have hclient : Except.ok host = Except.ok "203.0.113.42" := (hsame (some "198.51.100.7")).symm.trans rfl
  have hproxy : Except.ok host = Except.ok "10.0.0.10" := (hsame (some "unknown")).symm.trans rfl
  exact absurd ((Except.ok.inj hclient).symm.trans (Except.ok.inj hproxy)) (by decide)

end TeamsRehook
