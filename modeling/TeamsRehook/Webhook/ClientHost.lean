import TeamsRehook.Models

/-!
# The client host of a request

`_resolve_client_host` of `routers/webhook_routes.py` and `core/proxy_trust.py`. An address and a network are given by
the text they are printed as.
-/

namespace TeamsRehook

/-- `ipaddress.ip_network(value, strict=False)`. -/
def ipNetwork (P : Platform) (value : String) : Except Exn String :=
  match P.ipNetwork value with
  | some network => .ok network
  | none => .error .valueError

/-- The loop of `normalize_proxy_ip_list`, from the networks that are there. -/
def normalizeProxyParts (P : Platform) (networks : List String) : List String → Except Exn (List String)
  | [] => .ok networks
  | part :: parts => do
    let candidate := Python.strip part
    if candidate = "" then normalizeProxyParts P networks parts
    else
      let normalized ← ipNetwork P candidate
      if networks.contains normalized then normalizeProxyParts P networks parts
      else normalizeProxyParts P (networks ++ [normalized]) parts

/-- `normalize_proxy_ip_list`. -/
def normalizeProxyIpList (P : Platform) (value : String) : Except Exn String :=
  if value = "" then .ok ""
  else do
    let networks ← normalizeProxyParts P [] (Python.splitChar value ',')
    return ",".intercalate networks

/-- `combined_trusted_proxy_ips`. -/
def combinedTrustedProxyIps (P : Platform) (composeAppSubnet trustedProxyIps : String) : Except Exn String :=
  normalizeProxyIpList P (",".intercalate ([composeAppSubnet, trustedProxyIps].filter (Python.strip · != "")))

/-- `_trusted_proxy_networks`. -/
def trustedProxyNetworks (P : Platform) (value : String) : List String :=
  (((Python.splitChar value ',').map Python.strip).filter (· != "")).mapM P.ipNetwork |>.getD []

/-- One part of `_forwarded_host_chain`, nothing when the part makes the chain empty. -/
def forwardedHost (P : Platform) (part : String) : Option String :=
  let candidate := Python.strip part
  if candidate = "" then none else P.ipAddress candidate

/-- `_forwarded_host_chain`. -/
def forwardedHostChain (P : Platform) (value : String) : List String :=
  ((Python.splitChar value ',').mapM (forwardedHost P)).getD []

/-- `_ip_in_networks`. -/
def ipInNetworks (P : Platform) (host : String) (networks : List String) : Bool := networks.any (P.ipIn host)

/-- `_host_in_networks`. -/
def hostInNetworks (P : Platform) (host : String) (networks : List String) : Bool :=
  if host = "" ∨ networks = [] then false
  else
    match P.ipAddress host with
    | some address => ipInNetworks P address networks
    | none => false

/-- What `_resolve_client_host` returns. -/
structure ResolvedHost where
  clientHost : String
  directClientHost : String
  xForwardedFor : String
  clientHostSource : String
  deriving DecidableEq, Repr

/-- The result of `_resolve_client_host` for a direct connection. -/
def ResolvedHost.direct (directClientHost xForwardedFor : String) : ResolvedHost :=
  ⟨directClientHost, directClientHost, xForwardedFor, "direct"⟩

/-- The host `_resolve_client_host` takes of a chain: the last one that is not in the networks, or else the first one. -/
def clientOfChain (P : Platform) (networks : List String) (first : String) (rest : List String) : String :=
  ((first :: rest).reverse.find? fun host => !ipInNetworks P host networks).getD first

/-- `_resolve_client_host`, for the direct peer and the value of the header (`""` without one). -/
def resolveClientHost (P : Platform) (s : Settings) (directClientHost xForwardedFor : String) :
    Except Exn ResolvedHost := do
  let trusted ← combinedTrustedProxyIps P s.composeAppSubnet s.trustedProxyIps
  let networks := trustedProxyNetworks P trusted
  if s.trustXForwardedFor = false ∨ Python.strip xForwardedFor = "" ∨
    hostInNetworks P directClientHost networks = false then
    return .direct directClientHost xForwardedFor
  match forwardedHostChain P xForwardedFor with
  | [] => return .direct directClientHost xForwardedFor
  | first :: rest => return ⟨clientOfChain P networks first rest, directClientHost, xForwardedFor, "x_forwarded_for"⟩

end TeamsRehook
