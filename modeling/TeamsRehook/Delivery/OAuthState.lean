import TeamsRehook.Lib.Base64
import TeamsRehook.Models
import TeamsRehook.Platform

/-!
# The state of a sign-in at Microsoft

`_issue_graph_oauth_state` and `_verify_graph_oauth_state` of `routers/admin.py`: the text an admin takes to Microsoft
and back, signed with the session secret. The ids of users and organizations are texts here, as they stand in the text.
Times are in microseconds.
-/

namespace TeamsRehook

/-- What the state says of a user. -/
structure StateAdmin where
  id : String
  organizationId : String
  deriving DecidableEq, Repr

/-- The payload of a state. -/
structure StatePayload where
  userId : String
  organizationId : String
  nonce : String
  expiresAt : Int
  deriving DecidableEq, Repr

/-- `GRAPH_OAUTH_STATE_TTL_SECONDS`. -/
def graphOauthStateTtlSeconds : Int := 600

/-- `int(time.time())`. -/
def wholeSeconds (now : Int) : Int := now / 1000000

/-! ## Encoding -/

/-- The payload as a JSON value, its members in the order of their keys. -/
def StatePayload.json (payload : StatePayload) : Json :=
  .obj [("expires_at", .int payload.expiresAt), ("nonce", .str payload.nonce),
    ("organization_id", .str payload.organizationId), ("user_id", .str payload.userId)]

/-- `json.dumps(payload, sort_keys=True, separators=(",", ":"))`. -/
def StatePayload.text (payload : StatePayload) : String :=
  let members := [("expires_at", (toString payload.expiresAt).toList), ("nonce", Json.dumpStr true payload.nonce),
    ("organization_id", Json.dumpStr true payload.organizationId), ("user_id", Json.dumpStr true payload.userId)]
  String.ofList (['{'] ++ [','].intercalate (members.map fun member => Json.dumpStr true member.1 ++ ':' :: member.2) ++
    ['}'])

/-- `text.encode("utf-8")`. -/
def encodeUtf8 (text : String) : Bytes := text.toList.flatMap String.utf8EncodeChar

/-- `_b64url_json`. -/
def b64urlJson (payload : StatePayload) : String :=
  Python.rstripChar (String.ofList (Base64.urlsafeEncode (encodeUtf8 payload.text))) '='

/-- The payload of `_issue_graph_oauth_state`, with the nonce it draws. -/
def statePayload (now : Int) (nonce : String) (admin : StateAdmin) : StatePayload where
  userId := admin.id
  organizationId := admin.organizationId
  nonce := nonce
  expiresAt := wholeSeconds now + graphOauthStateTtlSeconds

/-- `_issue_graph_oauth_state`. -/
def issueGraphOauthState (P : Platform) (s : Settings) (now : Int) (nonce : String) (admin : StateAdmin) : String :=
  let encoded := b64urlJson (statePayload now nonce admin)
  encoded ++ "." ++ P.hmacSha256Hex s.sessionSecret encoded

/-! ## Verification -/

/-- `text.isascii()`. -/
def isAscii (text : String) : Bool := text.toList.all (·.toNat < 128)

/-- `hmac.compare_digest(a, b)` of two texts. -/
def compareDigest (a b : String) : Except Exn Bool := if isAscii a && isAscii b then .ok (a == b) else .error .typeError

/-- `json.loads(base64.urlsafe_b64decode(…).decode("utf-8"))` of the encoded payload, with its padding put back. -/
def decodeState (P : Platform) (encoded : String) : Except Exn Json :=
  match P.base64UrlDecode (encoded ++ String.ofList (Base64.padding encoded.toList)) with
  | none => .error .valueError
  | some content => decodeUtf8 P content >>= jsonLoads P

/-- Whether a value is a text. -/
def isText (value : Json) (text : String) : Bool :=
  match value with
  | .str s => s == text
  | _ => false

/-- The text of a state that cannot be read. -/
def invalidGraphOauthState : Exn := .http 400 "Invalid Microsoft Graph OAuth state"

/-- What `_verify_graph_oauth_state` checks of the payload. -/
def checkStatePayload (P : Platform) (now : Int) (admin : StateAdmin) (payload : Json) : Except Exn Unit := do
  let userId ← getItem "user_id" payload
  let organizationId ← getItem "organization_id" payload
  if !isText userId admin.id || !isText organizationId admin.organizationId then
    throw (.http 400 "Microsoft Graph OAuth state does not match the current admin")
  let expiresAt ← getItem "expires_at" payload
  let seconds ← intOf P (orElse expiresAt (.int 0))
  if seconds < wholeSeconds now then throw (.http 400 "Microsoft Graph OAuth state expired")

/-- `_verify_graph_oauth_state`. -/
def verifyGraphOauthState (P : Platform) (s : Settings) (now : Int) (admin : StateAdmin) (state : String) :
    Except Exn Unit :=
  match Python.splitFirst state "." with
  | none => .error invalidGraphOauthState
  | some (encoded, signature) => do
    let same ← compareDigest signature (P.hmacSha256Hex s.sessionSecret encoded)
    if !same then throw invalidGraphOauthState
    match decodeState P encoded with
    | .error .jsonDecodeError | .error .unicodeDecodeError | .error .valueError => throw invalidGraphOauthState
    | .error e => throw e
    | .ok payload => checkStatePayload P now admin payload

end TeamsRehook
