import Admittance.Json.Printer
import Admittance.Json.Record
import Admittance.Message

/-!
# Messages as JSON texts

Every type that travels as JSON has an instance of `Wire`: a reader, and a printer that writes
its values compactly.  An optional text is left out where there is none, and so is an empty map
of credentials; what is left out is read back as absent or empty.
-/

namespace Admittance

open Json (Reader Record Field required readText readOptional readTextMap printText printObject)

/-- Values that travel as JSON texts. -/
class Wire (α : Type) where
  read : Reader α
  print : α → List Char

namespace Wire

/-- Reads a value from a whole text. -/
def decode {α : Type} [Wire α] (text : String) : Except Json.Failure α :=
  Json.decodeWith Wire.read text

/-- The compact text of a value. -/
def encode {α : Type} [Wire α] (value : α) : String := String.ofList (Wire.print value)

/-- An entry for an optional text, if there is one. -/
def optionalEntry (name : String) (value : Option String) : List (String × List Char) :=
  value.toList.map fun text => (name, printText text)

end Wire

/-! ## Tokens and addresses -/

/-- A token of the text that a reader takes. -/
def readToken : Reader SessionToken := fun ts =>
  (readText ts).map fun p => (⟨p.1⟩, p.2)

instance : Wire SessionToken where
  read := readToken
  print t := printText t.text

instance : Wire PeerAddress where
  read ts := (readText ts).map fun p => (⟨p.1⟩, p.2)
  print p := printText p.text

/-! ## Joining -/

/-- What is known of a join request while it is read. -/
structure JoinRequest.Draft where
  sessionToken : Option (Option SessionToken)
  machineId : Option String
  conferenceName : Option String
  credentials : Option TextMap

/-- How a join request is read. -/
def JoinRequest.record : Record JoinRequest.Draft JoinRequest where
  title := "struct JoinRequest"
  arrayTitle := "struct JoinRequest with 4 elements"
  strict := false
  blank := ⟨none, none, none, none⟩
  fields := [
    .ofReader "session_token" (·.sessionToken) (fun d v => { d with sessionToken := some v })
      (readOptional readToken) (some none),
    .ofReader "machine_id" (·.machineId) (fun d v => { d with machineId := some v })
      readText none,
    .ofReader "conference_name" (·.conferenceName) (fun d v => { d with conferenceName := some v })
      readText none,
    .ofReader "credentials" (·.credentials) (fun d v => { d with credentials := some v })
      readTextMap (some .empty)]
  finish d := do
    let machineId ← required "machine_id" d.machineId
    let conferenceName ← required "conference_name" d.conferenceName
    return ⟨d.sessionToken.getD none, machineId, conferenceName, d.credentials.getD .empty⟩

/-- A map of texts as an object. -/
def printTextMap (m : TextMap) : List Char :=
  printObject (m.entries.map fun e => (e.1, printText e.2))

instance : Wire JoinRequest where
  read := JoinRequest.record.read
  print r := printObject (
    Wire.optionalEntry "session_token" (r.sessionToken.map (·.text)) ++
    [("machine_id", printText r.machineId), ("conference_name", printText r.conferenceName)] ++
    if r.credentials.isEmpty then [] else [("credentials", printTextMap r.credentials)])

/-- What is known of a join response while it is read. -/
structure JoinResponse.Draft where
  identity : Option String
  sessionToken : Option SessionToken

/-- How a join response is read. -/
def JoinResponse.record : Record JoinResponse.Draft JoinResponse where
  title := "struct JoinResponse"
  arrayTitle := "struct JoinResponse with 2 elements"
  strict := false
  blank := ⟨none, none⟩
  fields := [
    .ofReader "identity" (·.identity) (fun d v => { d with identity := some v }) readText none,
    .ofReader "session_token" (·.sessionToken) (fun d v => { d with sessionToken := some v })
      readToken none]
  finish d := do
    let identity ← required "identity" d.identity
    let sessionToken ← required "session_token" d.sessionToken
    return ⟨identity, sessionToken⟩

instance : Wire JoinResponse where
  read := JoinResponse.record.read
  print r := printObject
    [("identity", printText r.identity), ("session_token", printText r.sessionToken.text)]

/-! ## Leaving -/

/-- How a logout request is read. -/
def LogoutRequest.record : Record (Option SessionToken) LogoutRequest where
  title := "struct LogoutRequest"
  arrayTitle := "struct LogoutRequest with 1 element"
  strict := false
  blank := none
  fields := [.ofReader "session_token" id (fun _ v => some v) readToken none]
  finish d := return ⟨← required "session_token" d⟩

instance : Wire LogoutRequest where
  read := LogoutRequest.record.read
  print r := printObject [("session_token", printText r.sessionToken.text)]

/-- How a logout response is read. -/
def LogoutResponse.record : Record (Option (Option String)) LogoutResponse where
  title := "struct LogoutResponse"
  arrayTitle := "struct LogoutResponse with 1 element"
  strict := false
  blank := none
  fields := [.ofReader "logout_url" id (fun _ v => some v) (readOptional readText) (some none)]
  finish d := return ⟨d.getD none⟩

instance : Wire LogoutResponse where
  read := LogoutResponse.record.read
  print r := printObject (Wire.optionalEntry "logout_url" r.logoutUrl)

/-! ## Refusals -/

/-- The kind of refusal of a given name. -/
def kindOfName (name : String) : Except Json.Failure ErrorKind :=
  match ErrorKind.ofName? name with
  | some kind => .ok kind
  | none => .error (.data (.unknownVariant name (ErrorKind.all.map (·.name))))

/-- A kind of refusal is written as its name, or as an object whose only entry has that name and
the value null. -/
def readErrorKind : Reader ErrorKind
  | .string pieces :: ts => do
    return (← kindOfName (← Json.textOf none pieces), ts)
  | .brokenString pieces fault :: _ => do
    let _ ← Json.textOf (some fault) pieces
    .error (.fault fault)
  | .openBrace :: ts => do
    let (name, ts) ← Json.readKey ts
    let kind ← kindOfName name
    let ((), ts) ← Json.readNull "unit" (← Json.expect .colon ts)
    return (kind, ← Json.expect .closeBrace ts)
  | [] => .error (.fault .truncated)
  | _ :: _ => .error (.fault .malformed)

instance : Wire ErrorKind where
  read := readErrorKind
  print k := printText k.name

/-- What is known of a refusal while it is read. -/
structure ErrorResponse.Draft where
  kind : Option ErrorKind
  detail : Option (Option String)

/-- How a refusal is read. -/
def ErrorResponse.record : Record ErrorResponse.Draft ErrorResponse where
  title := "struct ErrorResponse"
  arrayTitle := "struct ErrorResponse with 2 elements"
  strict := false
  blank := ⟨none, none⟩
  fields := [
    .ofReader "kind" (·.kind) (fun d v => { d with kind := some v }) readErrorKind none,
    .ofReader "detail" (·.detail) (fun d v => { d with detail := some v })
      (readOptional readText) (some none)]
  finish d := do
    let kind ← required "kind" d.kind
    return ⟨kind, d.detail.getD none⟩

instance : Wire ErrorResponse where
  read := ErrorResponse.record.read
  print e := printObject
    (("kind", printText e.kind.name) :: Wire.optionalEntry "detail" e.detail)

end Admittance
