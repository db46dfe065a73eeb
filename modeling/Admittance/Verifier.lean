import Admittance.Session

/-!
# Verifiers

A verifier looks at the credentials of a join request and answers who is asking, or why nobody
is.  It also decides whether a valid token alone is enough to join again, and where a
participant goes to end the login elsewhere.
-/

namespace Admittance

/-- Whether a device with a valid token has to show its credentials again. -/
inductive SessionPolicy
  | reverify
  | trustToken
  deriving DecidableEq, Repr

/-- Who is asking. -/
structure Verified where
  identity : String
  /-- What the verifier wants recorded with a new session. -/
  properties : TextMap
  deriving DecidableEq

namespace Verified

/-- An identity without properties. -/
def plain (identity : String) : Verified := ⟨identity, .empty⟩

/-- The answer with one more property. -/
def withProperty (v : Verified) (name value : String) : Verified :=
  { v with properties := v.properties.insert name value }

end Verified

/-- Why a verifier does not say who is asking. -/
inductive VerificationFailure
  | missingCredentials (what : String)
  | rejected (why : String)
  | unavailable (why : String)
  deriving DecidableEq, Repr

/-- The wording of a failure. -/
def VerificationFailure.message : VerificationFailure → String
  | .missingCredentials what => "missing credentials: " ++ what
  | .rejected why => "credentials rejected: " ++ why
  | .unavailable why => "identity provider unavailable: " ++ why

/-- A failed verification as a refusal. -/
def VerificationFailure.refusal (f : VerificationFailure) : AuthError :=
  .verificationFailed f.message

/-- What a verifier is shown. -/
structure VerifyContext where
  request : JoinRequest
  peer : PeerAddress
  /-- The session whose token the request presents, as it was found. -/
  session : Option Session
  deriving DecidableEq

/-- The answer of a verifier. -/
abbrev Verdict := Except VerificationFailure Verified

/-- A verifier. -/
structure Verifier where
  policy : SessionPolicy
  verify : VerifyContext → Verdict
  logoutUrl : Session → Option String

end Admittance
