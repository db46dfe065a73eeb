import Admittance.Demo

/-!
# The cast of a scenario

A scenario brings its own verifiers and listeners, whose behaviour is written down beforehand,
and its own tokens, which are numbered in the order in which they are drawn.
-/

namespace Admittance.Scenario

/-! ## Tokens -/

/-- The number behind the first token of a scenario. -/
def firstToken : Nat := 0x8f3ac91d5b7e2064a1d8c3f700000000

/-- The token of a given number, counted from zero. -/
def token (n : Nat) : SessionToken := .ofNumber (firstToken + n)

/-- The hexadecimal digits that all tokens of a scenario have in common. -/
def tokenStem : String := String.ofList (SessionToken.hexText 24 (firstToken / 0x100000000))

/-- The value of digits in a base. -/
def valueOf (base : Nat) (digits : List Char) : Nat :=
  digits.foldl (fun n c => n * base + (Json.hexValue? c).getD 0) 0

/-- A reference `$n` to the token of number `n`, counted from one, if it has been drawn. -/
def refer (drawn : Nat) (digits : List Char) : List Char :=
  let n := valueOf 10 digits
  if digits ≠ [] ∧ 0 < n ∧ n ≤ drawn then (token (n - 1)).text.toList else '$' :: digits

/-- Replaces the references in a text.  `pending` holds the digits since the last dollar sign, if
a reference may still be going on. -/
def expandFrom (drawn : Nat) : Option (List Char) → List Char → List Char
  | none, [] => []
  | some digits, [] => refer drawn digits
  | none, c :: rest =>
    if c = '$' then expandFrom drawn (some []) rest else c :: expandFrom drawn none rest
  | some digits, c :: rest =>
    if Json.isDigit c then expandFrom drawn (some (digits ++ [c])) rest
    else if c = '$' then refer drawn digits ++ expandFrom drawn (some []) rest
    else refer drawn digits ++ c :: expandFrom drawn none rest

/-- Replaces the references in a token. -/
def expand (drawn : Nat) (t : SessionToken) : SessionToken :=
  ⟨String.ofList (expandFrom drawn none t.text.toList)⟩

/-- Writes `$n` for the token whose last eight digits start a text. -/
def abbreviateTail (s : String) : String :=
  let cs := s.toList
  "$" ++ toString (valueOf 16 (cs.take 8) + 1) ++ String.ofList (cs.drop 8)

/-- Writes `$n` for every token of the scenario in a text. -/
def abbreviate (s : String) : String :=
  match s.splitOn tokenStem with
  | [] => ""
  | head :: tails => head ++ String.join (tails.map abbreviateTail)

/-! ## Verifiers -/

/-- What makes a verifier of a scenario answer as it does. -/
inductive VerifierScript
  /-- It looks at the credentials `fail`, `user` and `password`.  Without a table of users every
  password will do.  Participants who log out go to a page whose address starts as given. -/
  | scripted (policy : SessionPolicy) (users : Option TextMap) (logoutStart : Option String)
  /-- It admits whoever knows the secret. -/
  | secret (secret : String)

/-- The name of a property that a credential brings along. -/
def propertyName? (credential : String) : Option String :=
  match credential.toList with
  | 'p' :: 'r' :: 'o' :: 'p' :: '.' :: name => some (String.ofList name)
  | _ => none

/-- The properties that credentials bring along. -/
def propertiesOf (credentials : TextMap) : TextMap :=
  TextMap.ofList (credentials.entries.filterMap fun e =>
    (propertyName? e.1).map fun name => (name, e.2))

/-- The failure that credentials ask for. -/
def askedFailure? (credentials : TextMap) : Option VerificationFailure :=
  let reason := (credentials.get? "reason").getD ""
  match credentials.get? "fail" with
  | some "missing" => some (.missingCredentials reason)
  | some "rejected" => some (.rejected reason)
  | some "unavailable" => some (.unavailable reason)
  | _ => none

/-- Whether a table of users, if there is one, has the user with the password. -/
def passes (users : Option TextMap) (user password : String) : Bool :=
  match users with
  | none => true
  | some table => table.get? user = some password

/-- The answer of a scripted verifier. -/
def scriptedVerdict (users : Option TextMap) (credentials : TextMap) : Verdict :=
  match askedFailure? credentials with
  | some failure => .error failure
  | none =>
    match credentials.get? "user" with
    | none => .error (.missingCredentials "user")
    | some user =>
      if passes users user ((credentials.get? "password").getD "") then
        .ok ⟨user, propertiesOf credentials⟩
      else .error (.rejected "bad user or password")

/-- Where a participant goes after logging out. -/
def scriptedPage (logoutStart : Option String) (session : Session) : Option String :=
  logoutStart.map fun start => start ++ session.identity ++ "@" ++ session.conferenceName

namespace VerifierScript

/-- The verifier of a script. -/
def verifier : VerifierScript → Verifier
  | scripted policy users logoutStart =>
    { policy := policy
      verify := fun context => scriptedVerdict users context.request.credentials
      logoutUrl := scriptedPage logoutStart }
  | secret text => Demo.verifier text

/-- Whether a verifier lets a request wait for a gate to open. -/
def waitsAtGate (script : VerifierScript) (request : JoinRequest) : Bool :=
  match script with
  | scripted .. => (request.credentials.get? "gate").isSome
  | secret _ => false

end VerifierScript

/-! ## Listeners -/

/-- What a listener of a scenario does when it is called. -/
inductive Act
  | quiet
  | panic (payload : PanicPayload)
  /-- It registers a listener, which acts as given unless it is known already. -/
  | add (listener : ListenerId) (act : Act)
  | remove (listener : ListenerId)
  deriving Inhabited

/-- The listeners that have been mentioned, with their acts. -/
abbrev Cast := List (ListenerId × Act)

/-- The cast after a listener is mentioned; only the first mention settles its act. -/
def Cast.mention (cast : Cast) (listener : ListenerId) (act : Act) : Cast :=
  if (cast.lookup listener).isSome then cast else cast ++ [(listener, act)]

/-- How a listener reacts to a call. -/
def Cast.react (cast : Cast) (listener : ListenerId) : Reaction Cast :=
  match cast.lookup listener with
  | none | some .quiet => ⟨cast, [], none⟩
  | some (.panic payload) => ⟨cast, [], some payload⟩
  | some (.add other act) => ⟨cast.mention other act, [.add other], none⟩
  | some (.remove other) => ⟨cast.mention other .quiet, [.remove other], none⟩

/-! ## Sinks -/

/-- The sink of a label; the label `none` stands for no sink, and `panic` for a fragile one. -/
def sinkOf (label : String) : Option Sink :=
  if label = "none" then none else some ⟨label, label = "panic"⟩

end Admittance.Scenario
