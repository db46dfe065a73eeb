import Admittance.Config
import Admittance.Proofs.Reading

/-!
# Every message comes back as it was sent

Printing a value and reading the text gives the value back, for every type that travels as JSON and
for configurations (`Wire.roundTrip`).  The fields that are left out where there is nothing to say
are read as nothing, and no text that is printed is read as nothing: an absent token differs from an
empty one.

Each proof follows the printed entries, field by field.  Whatever is common to all of them is in
`Json.Record.reads_object`.
-/

namespace Admittance

open Json

namespace Wire

/-- Values are told by their texts. -/
structure Faithful (α : Type) [Wire α] : Prop where
  /-- What was printed is read as what it was. -/
  decode_encode : ∀ v : α, (Wire.decode (Wire.encode v) : Except Failure α) = .ok v
  injective : Function.Injective (Wire.encode : α → String)
  /-- To print again what a text is read as changes nothing any more. -/
  reprint : ∀ text printed, (Wire.decode text : Except Failure α).map Wire.encode = .ok printed →
    (Wire.decode printed : Except Failure α).map Wire.encode = .ok printed

/-- Printed values are read as what they are. -/
def Reads (α : Type) [Wire α] : Prop := ∀ v : α, Json.Reads Wire.read (Wire.print v) v

/-- A type whose printed texts are read as what they were is told by its texts. -/
lemma Reads.faithful {α : Type} [Wire α] (h : Reads α) : Faithful α := by
  have hdecode : ∀ v : α, (Wire.decode (Wire.encode v) : Except Failure α) = .ok v :=
    fun v => (h v).decodeWith
  refine ⟨hdecode, fun v v' hsame => ?_, fun text printed hprinted => ?_⟩
  · have hread := (hdecode v).symm.trans (hsame ▸ hdecode v')
    exact Except.ok.inj hread
  · cases hread : (Wire.decode text : Except Failure α) with
    | error e =>
      rw [hread] at hprinted
      cases hprinted
    | ok v =>
      rw [hread] at hprinted
      obtain rfl : Wire.encode v = printed := Except.ok.inj hprinted
      rw [hdecode v]
      rfl

end Wire

/-! ## Tokens and addresses -/

/-- A token is read from any text of its string. -/
lemma Json.IsText.reads_token {t : SessionToken} {text : List Char} (h : IsText t.text text) :
    Reads readToken text t :=
  h.reads.map SessionToken.mk

/-- A token is read from the string that is printed for it. -/
lemma reads_token (t : SessionToken) : Reads readToken (printText t.text) t :=
  (isText_printText t.text).reads_token

/-- A printed token is read as what it was. -/
lemma SessionToken.reads : Wire.Reads SessionToken := reads_token

/-- A printed connection is read as what it was. -/
lemma PeerAddress.reads : Wire.Reads PeerAddress := fun p =>
  (reads_text p.text).map PeerAddress.mk

/-! ## Joining -/

/-- A map without entries is the empty one. -/
lemma TextMap.eq_empty {m : TextMap} (h : m.isEmpty = true) : m = .empty :=
  TextMap.ext (List.isEmpty_iff.mp h)

/-- The entries of a join request behind that of its token. -/
def JoinRequest.tail (q : JoinRequest) : List (String × List Char) :=
  [("machine_id", printText q.machineId), ("conference_name", printText q.conferenceName)] ++
    if q.credentials.isEmpty then [] else [("credentials", printTextMap q.credentials)]

/-- These entries are read, and leave out nothing but the token. -/
lemma JoinRequest.exists_fills_tail (q : JoinRequest) (token : Option (Option SessionToken)) :
    ∃ d, JoinRequest.record.Fills ⟨token, none, none, none⟩ q.tail d ∧
      JoinRequest.record.finish d = .ok { q with sessionToken := token.getD none } := by
  obtain ⟨sessionToken, machineId, conferenceName, credentials⟩ := q
  have hnames : JoinRequest.record.Fills ⟨token, none, none, none⟩
      [("machine_id", printText machineId), ("conference_name", printText conferenceName)]
      ⟨token, some machineId, some conferenceName, none⟩ :=
    .cons rfl rfl (reads_text machineId) (.cons rfl rfl (reads_text conferenceName) (.nil _))
  have hcredentials : JoinRequest.record.Fills ⟨token, some machineId, some conferenceName, none⟩
      (if credentials.isEmpty then [] else [("credentials", printTextMap credentials)])
      ⟨token, some machineId, some conferenceName,
        if credentials.isEmpty then none else some credentials⟩ := by
    split
    · exact .nil _
    · exact .cons rfl rfl (reads_textMap credentials) (.nil _)
  have hdefault : (if credentials.isEmpty then none else some credentials).getD .empty =
      credentials := by
    split
    · rename_i hempty
      exact (TextMap.eq_empty hempty).symm
    · rfl
  refine ⟨_, hnames.append hcredentials, ?_⟩
  show Except.ok (⟨token.getD none, machineId, conferenceName, _⟩ : JoinRequest) = _
  rw [hdefault]

/-- A printed join request is read as what it was, with or without a token and with or without
credentials. -/
lemma JoinRequest.reads : Wire.Reads JoinRequest := by
  intro q
  have htoken : JoinRequest.record.Fills ⟨none, none, none, none⟩
      (Wire.optionalEntry "session_token" (q.sessionToken.map (·.text)))
      ⟨q.sessionToken.map some, none, none, none⟩ := by
    cases q.sessionToken with
    | none => exact .nil _
    | some t => exact .cons rfl rfl (reads_token t).optional (.nil _)
  have hgiven : (q.sessionToken.map some).getD none = q.sessionToken := by
    cases q.sessionToken <;> rfl
  obtain ⟨d, htail, hfinish⟩ := q.exists_fills_tail (q.sessionToken.map some)
  rw [hgiven] at hfinish
  have hread := Record.reads_object (htoken.append htail) hfinish
  rwa [tail, ← List.append_assoc] at hread

/-- A printed join response is read as what it was. -/
lemma JoinResponse.reads : Wire.Reads JoinResponse := fun r =>
  Record.reads_object (.cons rfl rfl (reads_text r.identity)
    (.cons rfl rfl (reads_token r.sessionToken) (.nil _))) rfl

/-! ## Leaving -/

/-- A printed logout request is read as what it was. -/
lemma LogoutRequest.reads : Wire.Reads LogoutRequest := fun r =>
  Record.reads_object (.cons rfl rfl (reads_token r.sessionToken) (.nil _)) rfl

/-- A printed logout response is read as what it was, with or without an address. -/
lemma LogoutResponse.reads : Wire.Reads LogoutResponse := by
  rintro ⟨url⟩
  cases url with
  | none => exact Record.reads_object (.nil _) rfl
  | some url => exact Record.reads_object (.cons rfl rfl (reads_text url).optional (.nil _)) rfl

/-! ## Refusals -/

/-- A kind of refusal is known by its name. -/
lemma ErrorKind.ofName?_name (k : ErrorKind) : ErrorKind.ofName? k.name = some k := by
  cases k <;> decide

/-- The name of a kind may be spelled in any way. -/
lemma Json.IsText.reads_errorKind {k : ErrorKind} {text : List Char} (h : IsText k.name text) :
    Reads readErrorKind text k := by
  obtain ⟨pieces, hdenotes, hquoted⟩ := h
  have hspells := hquoted.spells Spells.nil
  rw [List.append_nil] at hspells
  refine ⟨_, [], by simp, hspells, fun rest => ?_⟩
  rw [List.cons_append, readErrorKind, hdenotes.textOf]
  simp only [bind, Except.bind, kindOfName, ErrorKind.ofName?_name]
  rfl

/-- A kind of error is read from its name. -/
lemma reads_errorKind (k : ErrorKind) : Reads readErrorKind (printText k.name) k :=
  (isText_printText k.name).reads_errorKind

/-- A printed kind of error is read as what it was. -/
lemma ErrorKind.reads : Wire.Reads ErrorKind := reads_errorKind

/-- A printed error is read as what it was, with or without a detail. -/
lemma ErrorResponse.reads : Wire.Reads ErrorResponse := by
  rintro ⟨kind, detail⟩
  cases detail with
  | none => exact Record.reads_object (.cons rfl rfl (reads_errorKind kind) (.nil _)) rfl
  | some detail =>
    exact Record.reads_object (.cons rfl rfl (reads_errorKind kind)
      (.cons rfl rfl (reads_text detail).optional (.nil _))) rfl

/-- A refusal is known by its kind and its detail. -/
lemma AuthError.response_injective : Function.Injective AuthError.response := by
  intro e e' hsame
  cases e <;> cases e' <;> simp_all [AuthError.response, AuthError.kind, AuthError.detail]

/-! ## Configurations -/

/-- The span of two parts that have been read. -/
lemma Duration.finish_record {seconds nanos : Nat} {d : Duration}
    (h : Duration.ofParts? seconds nanos = some d) :
    Duration.record.finish ⟨some seconds, some nanos⟩ = .ok d := by
  -- The parts are not to be evaluated: what a span may be is too long to count to.
  have hbind : ∀ {β γ : Type} (b : β) (f : β → Except Cause γ), (Except.ok b >>= f) = f b :=
    fun _ _ => rfl
  unfold Duration.record
  dsimp only
  rw [required, hbind, required, hbind, h]

/-- The seconds of a duration fit their word. -/
lemma Duration.reads_seconds (d : Duration) :
    Reads (readNatural 64 "u64") (printNatural d.seconds) d.seconds :=
  reads_natural "u64" d.seconds_lt (Nat.le_of_lt_succ d.seconds_lt)

/-- The nanoseconds of a duration fit their word. -/
lemma Duration.reads_subsecond (d : Duration) :
    Reads (readNatural 32 "u32") (printNatural d.subsecond) d.subsecond :=
  reads_natural "u32" (Nat.lt_trans d.subsecond_lt (by decide))
    (Nat.le_of_lt (Nat.lt_trans d.subsecond_lt (by decide)))

/-- A printed duration is read as what it was. -/
lemma Duration.reads : Wire.Reads Duration := fun d =>
  Record.reads_object (.cons rfl rfl d.reads_seconds (.cons rfl rfl d.reads_subsecond (.nil _)))
    (finish_record d.ofParts?_seconds_subsecond)

/-- A printed configuration is read as what it was. -/
lemma Config.reads : Wire.Reads Config := fun c =>
  Record.reads_object (.cons rfl rfl (Duration.reads c.lifetime)
    (.cons rfl rfl (Duration.reads c.sweepInterval)
      (.cons rfl rfl (reads_bool c.destroyOnConferenceEnd)
        (.cons rfl rfl (Duration.reads c.sweepJitter) (.nil _))))) rfl

/-! ## All of them -/

/-- What comes back of what is sent. -/
structure Wire.RoundTrip : Prop where
  token : Wire.Faithful SessionToken
  address : Wire.Faithful PeerAddress
  joinRequest : Wire.Faithful JoinRequest
  joinResponse : Wire.Faithful JoinResponse
  logoutRequest : Wire.Faithful LogoutRequest
  logoutResponse : Wire.Faithful LogoutResponse
  errorKind : Wire.Faithful ErrorKind
  errorResponse : Wire.Faithful ErrorResponse
  config : Wire.Faithful Config
  /-- A request without a token is told from one with an empty token. -/
  absent : ∀ r : JoinRequest, Wire.encode { r with sessionToken := none } ≠
    Wire.encode { r with sessionToken := some ⟨""⟩ }
  /-- A refusal is read as what it says. -/
  refusal : ∀ e : AuthError,
    (Wire.decode (Wire.encode e.response) : Except Failure ErrorResponse) = .ok ⟨e.kind, e.detail⟩
  /-- Different refusals have different texts. -/
  refusal_injective : Function.Injective fun e : AuthError => Wire.encode e.response

/-- **Every value comes back as it was sent.** -/
theorem Wire.roundTrip : Wire.RoundTrip := by
  have hrequest := JoinRequest.reads.faithful
  have hrefusal := ErrorResponse.reads.faithful
  refine ⟨SessionToken.reads.faithful, PeerAddress.reads.faithful, hrequest,
    JoinResponse.reads.faithful, LogoutRequest.reads.faithful, LogoutResponse.reads.faithful,
    ErrorKind.reads.faithful, hrefusal, Config.reads.faithful, fun r hsame => ?_,
    fun e => hrefusal.decode_encode e.response, fun e e' hsame => ?_⟩
  · have htoken := congrArg JoinRequest.sessionToken (hrequest.injective hsame)
    cases htoken
  · exact AuthError.response_injective (hrefusal.injective hsame)

end Admittance
