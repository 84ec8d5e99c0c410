import TeamsRehook.Webhook.ClientHost

/-!
# Client IP allowlists

`services/client_ip_allowlist.py`: the mode and the addresses of a route are brought to one form before they are stored,
and once more when a request is checked against them.
-/

namespace TeamsRehook

/-- What separates the entries of an allowlist: `[\s,]`. -/
def isAllowlistSeparator (c : Char) : Bool := Python.isSpace c || c == ','

/-- One entry of an allowlist in its normal form. -/
def normalizeClientIp (P : Platform) (candidate : String) : Except Exn String :=
  match if candidate.toList.contains '/' then P.ipNetwork candidate else P.ipAddress candidate with
  | some normalized => .ok normalized
  | none => .error .valueError

/-- `normalize_client_ip_allowlist`: one line for each address or range, without repetitions. -/
def normalizeClientIpAllowlist (P : Platform) (value : String) : Except Exn String := do
  let entries ← (Python.splitOn isAllowlistSeparator (Python.strip value)).mapM (normalizeClientIp P)
  return "\n".intercalate (entries.foldl (fun seen entry => if entry ∈ seen then seen else seen ++ [entry]) [])

/-- The entries of an allowlist as they were typed. -/
def allowlistEntries (value : String) : List String := Python.splitOn isAllowlistSeparator (Python.strip value)

/-- `client_ip_allowlist_networks`, with each network given by the text it is printed as. -/
def clientIpAllowlistNetworks (P : Platform) (value : String) : Except Exn (List String) := do
  let normalized ← normalizeClientIpAllowlist P value
  (Python.splitlines normalized).mapM (ipNetwork P)

/-- `client_ip_allowed`. -/
def clientIpAllowed (P : Platform) (clientHost allowlist : String) : Except Exn Bool :=
  if Python.strip clientHost = "" then .ok false
  else
    match P.ipAddress (Python.strip clientHost) with
    | none => .ok false
    | some clientIp => (clientIpAllowlistNetworks P allowlist).map fun networks => networks.any (P.ipIn clientIp)

/-- `normalize_client_ip_access_mode`. -/
def normalizeClientIpAccessMode (P : Platform) (value : String) : Except Exn String :=
  let mode := P.lower (Python.strip (Python.orElse value "public"))
  if mode = "public" ∨ mode = "restricted" then .ok mode else .error .valueError

/-- An access rule as it is stored: public without addresses, or restricted to some in their normal form. -/
def StoredAccess (P : Platform) (mode allowlist : String) : Prop :=
  (mode = "public" ∧ allowlist = "") ∨
    (mode = "restricted" ∧ allowlist ≠ "" ∧ ∃ value, normalizeClientIpAllowlist P value = .ok allowlist)

end TeamsRehook
