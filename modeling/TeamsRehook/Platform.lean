import TeamsRehook.Lib.Json
import TeamsRehook.Lib.Python

/-!
# The runtime

What the code takes from Python's standard library and from the packages it calls, as far as the model does not define
it: hashing, text codecs, `json.loads`, `str` and `int` of a JSON value, Unicode case mapping and Fernet. Nothing is
assumed of these functions; a `Platform` is any choice of them. `Exn` are the exceptions the code raises or lets
through, and `UrlOutcome` is what `urllib.request.urlopen` can do.
-/

namespace TeamsRehook

/-- A `bytes` value. -/
abbrev Bytes := List UInt8

/-- A `GraphDeliveryError`: its text, what is known of Graph's answer, and the result stored with the event. -/
structure GraphDeliveryError where
  message : String
  errorType : String := "graph_error"
  statusCode : Option Int := none
  graphErrorCode : String := ""
  graphErrorMessage : String := ""
  result : List (String × Json) := []
  deriving Repr

/-- An exception. -/
inductive Exn where
  /-- FastAPI's `HTTPException`. -/
  | http (statusCode : Nat) (detail : String)
  | integrityError
  | staleDataError
  /-- Another error of the database. -/
  | operationalError
  /-- A text that the driver cannot encode or a column does not take, which the flush is to write. -/
  | dataError
  | timeoutError
  | connectionError
  /-- An `HTTPError` or another `URLError` of a token request, which are handled alike. -/
  | urlError
  | unicodeDecodeError
  | unicodeEncodeError
  | jsonDecodeError
  /-- A plain `ValueError`. -/
  | valueError
  | recursionError
  | typeError
  | attributeError
  | overflowError
  | botDelivery (message : String)
  | botConversationMembers (message : String)
  /-- A `GraphConfigError` or a `GraphRequestError`, which are handled alike. -/
  | graphLookup (message : String)
  | graphDelegatedLookup (message : String)
  | graphDelivery (e : GraphDeliveryError)
  | graphDelegatedConfig (message : String)
  | graphDelegatedAuth (message : String)
  /-- `_ExpiredRefreshTokenError`, a `GraphDelegatedAuthError`. -/
  | expiredRefreshToken (message : String)
  | webhookPayload (message : String)
  deriving Repr

/-- What `json.loads` raises. -/
inductive JsonError where
  | jsonDecodeError
  /-- A plain `ValueError`, for an integer with too many digits. -/
  | valueError
  | recursionError
  deriving DecidableEq, Repr

/-- The exception. -/
def JsonError.exn : JsonError → Exn
  | .jsonDecodeError => .jsonDecodeError
  | .valueError => .valueError
  | .recursionError => .recursionError

/-- What `urllib.parse.urlparse` returns. -/
structure ParsedUrl where
  scheme : String
  netloc : String
  path : String := ""
  params : String := ""
  query : String := ""
  fragment : String := ""
  deriving DecidableEq, Repr

/-- What is taken from the runtime. -/
structure Platform where
  /-- `hashlib.sha256(value).hexdigest()`. -/
  sha256Hex : String → String
  /-- `hmac.new(secret, value, hashlib.sha256).hexdigest()`. -/
  hmacSha256Hex : String → String → String
  /-- `hashlib.pbkdf2_hmac("sha256", value, salt, 200_000).hex()`. -/
  pbkdf2Hex : String → String → String
  /-- `value.decode("utf-8")`, nothing when it raises `UnicodeDecodeError`. -/
  decodeUtf8 : Bytes → Option String
  /-- `value.decode("utf-8", errors="replace")`. -/
  decodeUtf8Replace : Bytes → String
  /-- `json.loads`. -/
  jsonLoads : String → Except JsonError Json
  /-- `json.loads` of a `bytes` value, with the exception it raises. -/
  jsonLoadsBytes : Bytes → Except Exn Json
  /-- `str(value)` of a value that is not a text. -/
  strOf : Json → String
  /-- `int(text)`, nothing when it raises `ValueError`. -/
  intOfText : String → Option Int
  /-- `int(number)` of a float given by its `repr`, nothing when it is not finite. -/
  intOfFloat : String → Option Int
  /-- `value.lower()`. -/
  lower : String → String
  /-- `func.lower(value)`, as the database computes it. -/
  sqlLower : String → String
  /-- `html.unescape(value)`. -/
  htmlUnescape : String → String
  /-- `urllib.parse.quote(value, safe="")`. -/
  quote : String → String
  /-- `urllib.parse.quote_plus(value)`. -/
  quotePlus : String → String
  /-- `urllib.parse.urlparse(value)`, nothing when it raises a `ValueError`. -/
  urlparse : String → Option ParsedUrl
  /-- `str(ipaddress.ip_address(value))`, nothing when it raises a `ValueError`. -/
  ipAddress : String → Option String
  /-- `str(ipaddress.ip_network(value, strict=False))`, nothing when it raises a `ValueError`. -/
  ipNetwork : String → Option String
  /-- `address in network`, for an address and a network as they are printed. -/
  ipIn : String → String → Bool
  /-- `base64.urlsafe_b64decode`, nothing when it raises a `ValueError`. -/
  base64UrlDecode : String → Option Bytes
  /-- `_fernet().encrypt`, with the time it is called at, which stands for what it draws too, and the key. -/
  fernetEncrypt : Int → String → String → String
  /-- `_fernet().decrypt`, with the key, nothing when it raises `InvalidToken`. -/
  fernetDecrypt : String → String → Option String
  /-- The characters that stand for a lone surrogate, which a JSON text can give and UTF-8 cannot encode. -/
  isSurrogate : Char → Bool
  /-- Whether the database is PostgreSQL; it is SQLite otherwise. -/
  postgresql : Bool

/-- A platform for runs on fixed inputs: texts are ASCII without uppercase letters, character references, URLs and
addresses, hashing and encryption give back the text, and the only JSON text is that of the empty object. -/
def Platform.plain : Platform where
  sha256Hex value := value
  hmacSha256Hex _ value := value
  pbkdf2Hex value _ := value
  decodeUtf8 b := if b.all (· < 128) then some (String.ofList (b.map fun x => Char.ofNat x.toNat)) else none
  decodeUtf8Replace b := String.ofList (b.map fun x => if x < 128 then Char.ofNat x.toNat else Char.ofNat 0xFFFD)
  jsonLoads text := if text = "\x7b\x7d" then .ok (.obj []) else .error .jsonDecodeError
  jsonLoadsBytes _ := .error .jsonDecodeError
  strOf _ := ""
  intOfText _ := none
  intOfFloat _ := none
  lower value := value
  sqlLower value := value
  htmlUnescape value := value
  quote value := value
  quotePlus value := value
  urlparse _ := none
  ipAddress _ := none
  ipNetwork _ := none
  ipIn _ _ := false
  base64UrlDecode _ := none
  fernetEncrypt _ _ value := value
  fernetDecrypt _ value := some value
  isSurrogate _ := false
  postgresql := false

/-- `lookup_secret_hash`. -/
def lookupSecretHash (P : Platform) (value : String) : String := P.sha256Hex value

/-- `hash_secret`, with the salt it draws. -/
def hashSecret (P : Platform) (salt value : String) : String := salt ++ "$" ++ P.pbkdf2Hex value salt

/-- `verify_secret`. -/
def verifySecret (P : Platform) (value : String) (encoded : Option String) : Bool :=
  match Python.splitFirst (encoded.getD "") "$" with
  | some (salt, digest) => P.pbkdf2Hex value salt == digest
  | none => false

/-! ## Texts that are written -/

/-- Whether UTF-8 encodes a text: it holds no lone surrogate. -/
def encodable (P : Platform) (value : String) : Bool := value.toList.all fun c => c.toNat < 128 || !P.isSurrogate c

/-- Whether a text column takes a value: the driver encodes it, and in PostgreSQL it has no NUL and no more characters
than the column's size, where the column has one. -/
def takesText (P : Platform) (size : Option Nat) (value : String) : Bool :=
  encodable P value && (!P.postgresql || (!value.toList.contains '\x00' && size.all (value.length ≤ ·)))

/-- In SQLite a column takes every text without surrogates. -/
theorem takesText_of_sqlite {P : Platform} (hsurrogate : ∀ c, P.isSurrogate c = false) (hsqlite : P.postgresql = false)
    (size : Option Nat) (value : String) : takesText P size value = true := by
  simp [takesText, encodable, hsurrogate, hsqlite]

/-- Whether the flush of a text column raises nothing: a value that did not change is not written. -/
def flushesText (P : Platform) (size : Option Nat) (loaded value : String) : Bool :=
  loaded == value || takesText P size value

/-! ## `urlopen` -/

/-- What reading a response gives: the body, or the exception raised while reading. -/
inductive BodyRead where
  | body (content : Bytes)
  | timeoutError
  | connectionError
  deriving DecidableEq, Repr

/-- `response.read()`. -/
def BodyRead.read : BodyRead → Except Exn Bytes
  | .body content => .ok content
  | .timeoutError => .error .timeoutError
  | .connectionError => .error .connectionError

/-- What `urlopen` can do: give a response, raise an `HTTPError` that carries one, raise another `URLError`, or raise
while the response is read. -/
inductive UrlOutcome where
  | response (status : Int) (read : BodyRead)
  | httpError (code : Int) (read : BodyRead)
  | urlError
  | timeoutError
  | connectionError
  deriving DecidableEq, Repr

/-! ## Values of a parsed JSON text -/

/-- `content.decode("utf-8")`. -/
def decodeUtf8 (P : Platform) (content : Bytes) : Except Exn String :=
  match P.decodeUtf8 content with
  | some text => .ok text
  | none => .error .unicodeDecodeError

/-- `json.loads(text)`. -/
def jsonLoads (P : Platform) (text : String) : Except Exn Json :=
  match P.jsonLoads text with
  | .ok value => .ok value
  | .error e => .error e.exn

/-- `json.loads(response.read().decode("utf-8"))` in a `with urlopen(…) as response` block. -/
def UrlOutcome.json (P : Platform) : UrlOutcome → Except Exn Json
  | .response _ read => do
    let content ← read.read
    let text ← decodeUtf8 P content
    jsonLoads P text
  | .httpError _ _ | .urlError => .error .urlError
  | .timeoutError => .error .timeoutError
  | .connectionError => .error .connectionError

/-- `value.get(key)` of a parsed JSON text, which has no `get` when it is not a `dict`. -/
def getItem (key : String) : Json → Except Exn Json
  | .obj members => .ok ((Json.lookup key members).getD .null)
  | _ => .error .attributeError

/-- `int(value)` of a JSON value. -/
def intOf (P : Platform) : Json → Except Exn Int
  | .int n => .ok n
  | .bool b => .ok (if b then 1 else 0)
  | .float r =>
    match P.intOfFloat r with
    | some n => .ok n
    | none => .error (if r = "nan" then .valueError else .overflowError)
  | .str s =>
    match P.intOfText s with
    | some n => .ok n
    | none => .error .valueError
  | .null | .arr _ | .obj _ => .error .typeError

/-- `str(value)`. -/
def strOf (P : Platform) : Json → String
  | .str s => s
  | v => P.strOf v

/-- `_dict(value)`: the members of an object, none of another value. -/
def dict : Json → List (String × Json)
  | .obj members => members
  | _ => []

/-- `_string(value)`: a text without the whitespace around it, the empty one for another value. -/
def string : Json → String
  | .str s => Python.strip s
  | _ => ""

/-- `members.get(key)`. -/
def item (key : String) (members : List (String × Json)) : Json := (Json.lookup key members).getD .null

/-- `value or other`. -/
def orElse (value other : Json) : Json := if value.truthy then value else other

/-- The last time a `datetime` can hold, the end of the year 9999. -/
def maxDatetime : Int := 253402300799999999

/-- `now + timedelta(seconds=n)`. -/
def addSeconds (now n : Int) : Except Exn Int :=
  if maxDatetime < now + n * 1000000 then .error .overflowError else .ok (now + n * 1000000)

end TeamsRehook
