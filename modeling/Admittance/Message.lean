import Admittance.Text.Map

/-!
# Messages between a participant and the authority

A device joins a conference by a `JoinRequest` and leaves by a `LogoutRequest`.  The answers name
the identity and the session that the device has, or say in an `ErrorResponse` why it has none.
-/

namespace Admittance

/-- The name of a session; whoever holds it can use the session. -/
structure SessionToken where
  text : String
  deriving DecidableEq, Repr

/-- The address of a connection. -/
structure PeerAddress where
  text : String
  deriving DecidableEq, Repr

namespace SessionToken

/-- Whether the token is the empty text, which names no session. -/
def isEmpty (t : SessionToken) : Bool := t.text.isEmpty

/-- Tokens are ordered by the code points of their texts. -/
instance : Ord SessionToken := ⟨fun a b => compare a.text b.text⟩

/-- The hexadecimal digit of a number below sixteen. -/
def hexDigit (n : Nat) : Char := (Nat.toDigits 16 (n % 16)).headD '0'

/-- The `places` lowest hexadecimal digits of a number. -/
def hexText : Nat → Nat → List Char
  | 0, _ => []
  | places + 1, n => hexText places (n / 16) ++ [hexDigit n]

/-- The token of a 128-bit number: 32 lower-case hexadecimal digits. -/
def ofNumber (n : Nat) : SessionToken := ⟨String.ofList (hexText 32 n)⟩

/-- Whether a token consists of lower-case hexadecimal digits. -/
def isLowerHex (t : SessionToken) : Bool :=
  t.text.toList.all fun c => ('0' ≤ c && c ≤ '9') || ('a' ≤ c && c ≤ 'f')

end SessionToken

/-- Whether the address is the empty text, which belongs to no connection. -/
def PeerAddress.isEmpty (p : PeerAddress) : Bool := p.text.isEmpty

/-! ## Joining -/

/-- A device asks to take part in a conference. -/
structure JoinRequest where
  /-- The session that the device says it has. -/
  sessionToken : Option SessionToken
  machineId : String
  conferenceName : String
  credentials : TextMap
  deriving DecidableEq

namespace JoinRequest

/-- A request with neither a token nor credentials. -/
def plain (machineId conferenceName : String) : JoinRequest :=
  ⟨none, machineId, conferenceName, .empty⟩

/-- The request with a token. -/
def withToken (r : JoinRequest) (token : SessionToken) : JoinRequest :=
  { r with sessionToken := some token }

/-- The request with one more credential. -/
def withCredential (r : JoinRequest) (name value : String) : JoinRequest :=
  { r with credentials := r.credentials.insert name value }

/-- The token that the request presents; an empty token is none. -/
def presentedToken (r : JoinRequest) : Option SessionToken :=
  r.sessionToken.filter fun t => !t.isEmpty

end JoinRequest

/-- The device is in: it has this identity and this session. -/
structure JoinResponse where
  identity : String
  sessionToken : SessionToken
  deriving DecidableEq, Repr

/-! ## Leaving -/

/-- A device gives its session up. -/
structure LogoutRequest where
  sessionToken : SessionToken
  deriving DecidableEq, Repr

/-- The session is gone; the device may go on to a page that ends the login elsewhere. -/
structure LogoutResponse where
  logoutUrl : Option String
  deriving DecidableEq, Repr

/-! ## Refusals -/

/-- The kinds of refusal that a participant can tell apart. -/
inductive ErrorKind
  | sessionInvalid
  | notAcceptable
  | verificationFailed
  deriving DecidableEq, Repr

/-- A refusal as it is sent. -/
structure ErrorResponse where
  kind : ErrorKind
  detail : Option String
  deriving DecidableEq, Repr

/-- Why a request is refused. -/
inductive AuthError
  /-- The session that the request names is not live. -/
  | sessionInvalid
  /-- The request contradicts itself or the session that it names. -/
  | notAcceptable (detail : String)
  /-- The credentials do not establish an identity. -/
  | verificationFailed (detail : String)
  deriving DecidableEq, Repr

/-- The name of a kind of refusal. -/
def ErrorKind.name : ErrorKind → String
  | .sessionInvalid => "session-invalid"
  | .notAcceptable => "not-acceptable"
  | .verificationFailed => "verification-failed"

/-- All kinds of refusal. -/
def ErrorKind.all : List ErrorKind := [.sessionInvalid, .notAcceptable, .verificationFailed]

/-- The kind of refusal with a given name. -/
def ErrorKind.ofName? (name : String) : Option ErrorKind :=
  ErrorKind.all.find? (·.name = name)

namespace AuthError

/-- The kind of a refusal. -/
def kind : AuthError → ErrorKind
  | sessionInvalid => .sessionInvalid
  | notAcceptable _ => .notAcceptable
  | verificationFailed _ => .verificationFailed

/-- What a refusal says beyond its kind. -/
def detail : AuthError → Option String
  | sessionInvalid => none
  | notAcceptable detail => some detail
  | verificationFailed detail => some detail

/-- The wording of a refusal. -/
def message : AuthError → String
  | sessionInvalid => "session invalid"
  | notAcceptable detail => "not acceptable: " ++ detail
  | verificationFailed detail => "verification failed: " ++ detail

/-- A refusal as it is sent. -/
def response (e : AuthError) : ErrorResponse := ⟨e.kind, e.detail⟩

end AuthError

end Admittance
