import Admittance.Host

/-!
# A conference with a room password

The demonstration admits anyone who knows the password of the room.  A participant joins, joins
again with the token, has the token stolen in vain, another participant's conference ends, and
the first participant logs out twice.
-/

namespace Admittance.Demo

/-- A verifier that admits whoever knows the secret, under the name in the credential `user`. -/
def secretVerdict (secret : String) (credentials : TextMap) : Verdict :=
  match (credentials.get? "user").filter fun user => !user.isEmpty with
  | none => .error (.missingCredentials "user")
  | some user =>
    if credentials.get? "secret" = some secret then
      .ok ((Verified.plain user).withProperty "method" "shared-secret")
    else .error (.rejected "wrong room password")

/-- Where a participant goes after logging out. -/
def farewellPage (session : Session) : Option String :=
  some ("https://meet.example/bye?room=" ++ session.conferenceName)

/-- The verifier of the demonstration. -/
def verifier (secret : String) : Verifier where
  policy := .reverify
  verify context := secretVerdict secret context.request.credentials
  logoutUrl := farewellPage

/-- The configuration of the demonstration when none is given. -/
def config : Config :=
  { Config.standard with lifetime := .ofSeconds 60, destroyOnConferenceEnd := true }

/-- What the demonstration is given: nothing, a configuration text, or an unreadable file. -/
inductive Source
  | builtIn
  | text (s : String)
  | unreadable

/-- The configuration to use, if there is one. -/
def Source.config? : Source → Option Config
  | builtIn => some config
  | text s => (Wire.decode (α := Config) s).toOption
  | unreadable => none

/-- What the demonstration prints, and whether it comes to its end. -/
structure Output where
  lines : List String
  succeeded : Bool
  deriving DecidableEq

/-- The exit code of a run. -/
def Output.exitCode (o : Output) : Nat := if o.succeeded then 0 else 1

/-- A host that has started the demonstration's authority. -/
def host (config : Config) (draw : Nat → SessionToken) (chance : Nat → Nat) : Host Unit :=
  let authority : Authority Unit := ⟨config.validated, verifier "hunter2",
    fun n => .ofFirst (draw n), fun _ _ => ⟨(), [], none⟩⟩
  let state := State.initial Host.origin (some ⟨"log", false⟩) ()
  let listening := { state with listeners := (state.listeners.add "admission").1 }
  (Host.idle authority listening (some (.withCapacity 64)) chance).start.settle

/-- A request with the room password. -/
def login (machineId conferenceName user : String) : JoinRequest :=
  ((JoinRequest.plain machineId conferenceName).withCredential "user" user).withCredential
    "secret" "hunter2"

/-- A join that runs undisturbed. -/
def join (h : Host Unit) (request : JoinRequest) (peer : String) :
    Host Unit × Except AuthError JoinResponse :=
  match h.perform (.join request ⟨peer⟩) with
  | (h, .answered (.join result)) => (h, result)
  | (h, _) => (h, .error .sessionInvalid)

/-- A logout that runs undisturbed. -/
def logout (h : Host Unit) (token : SessionToken) : Host Unit × Except AuthError LogoutResponse :=
  match h.perform (.logout token) with
  | (h, .answered (.logout result)) => (h, result)
  | (h, _) => (h, .error .sessionInvalid)

/-- An optional text as it is shown to a programmer. -/
def shown : Option String → String
  | some s => "Some(" ++ Text.quoted s ++ ")"
  | none => "None"

/-- The last part: the participant logs out twice. -/
def leave (h : Host Unit) (token : SessionToken) : Output :=
  match logout h token with
  | (_, .error _) => ⟨[], false⟩
  | (h, .ok bye) =>
    let first := "alice logged out, continue at " ++ shown bye.logoutUrl
    match logout h token with
    | (_, .ok _) => ⟨[first], true⟩
    | (_, .error e) => ⟨[first, "second logout: " ++ e.message], true⟩

/-- Lines in front of further output. -/
def Output.after (lines : List String) (o : Output) : Output := ⟨lines ++ o.lines, o.succeeded⟩

/-- The third part: another conference ends. -/
def otherConference (h : Host Unit) (token : SessionToken) : Output :=
  match join h (login "bob-phone" "retro" "bob") "retro/bob" with
  | (_, .error _) => ⟨[], false⟩
  | (h, .ok bob) =>
    match h.announce "retro" with
    | (_, none) => ⟨[], false⟩
    | (h, some _) =>
      let h := h.settle.sleep 50
      let fate := if (h.state.registry.get? bob.sessionToken).isSome then "kept" else "gone"
      (leave h token).after ["bob's session after retro ended: " ++ fate]

/-- The second part: the token turns up on another machine. -/
def stolen (h : Host Unit) (token : SessionToken) : Output :=
  match join h ((JoinRequest.plain "mallory-pc" "standup").withToken token) "standup/mallory" with
  | (h, .ok _) => (otherConference h token).after ["unexpected: stolen token accepted"]
  | (h, .error e) =>
    (otherConference h token).after ["stolen token refused: " ++ Wire.encode e.response]

/-- The demonstration under a given configuration. -/
def runWith (config : Config) (draw : Nat → SessionToken) (chance : Nat → Nat) : Output :=
  let request := login "alice-laptop" "standup" "alice"
  match join (host config draw chance) request "standup/alice" with
  | (_, .error _) => ⟨[], false⟩
  | (h, .ok joined) =>
    let token := joined.sessionToken
    let first := "alice joined, token " ++ token.text
    match join h (request.withToken token) "standup/alice-2" with
    | (_, .error _) => ⟨[first], false⟩
    | (h, .ok again) => (stolen h token).after [first, "alice rejoined as " ++ again.identity]

/-- The demonstration. -/
def run (source : Source) (draw : Nat → SessionToken) (chance : Nat → Nat) : Output :=
  match source.config? with
  | none => ⟨[], false⟩
  | some config => runWith config draw chance

end Admittance.Demo
