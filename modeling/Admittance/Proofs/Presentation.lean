import Admittance.Proofs.Document
import Admittance.Proofs.RoundTrip

/-!
# Decoding ignores presentation

Two programs that exchange messages need not agree on more than the messages.  One may put the
fields in another order than the other, put blanks between them, escape more than it has to, say
null or nothing for what is absent, and send fields that the other has never heard of.  The slots of
each type (`JoinRequest.slots` and its like) say what may be written for its fields, and
`IsDocument` says that a text carries them.  Whatever text it is, the value is the one that was
written (`Wire.presentationIgnored`); of a configuration any fields may be left out, and each of
them has its default then.

For each type there is a draft for every list of names, in which the slots of just these names are
filled.  That the record is read along these drafts (`Json.Record.Tracks`) is checked field by
field; what is common to all types is in `Json.Record.Tracks.reads`.  What the printer writes is a
text of the value as well, so no type's texts are without the usual one.
-/

namespace Admittance

open Json

/-! ## What has been given -/

section Given

variable {β : Type} {names : List String} {name other : String} {v : β}

/-- The value of a name, once the name has been read. -/
def given (names : List String) (name : String) (v : β) : Option β :=
  if name ∈ names then some v else none

/-- A name that is not among those that were read has no value. -/
lemma given_of_not_mem (h : name ∉ names) : given names name v = none := if_neg h

/-- A name that is read is given. -/
@[simp] lemma given_append_self : given (names ++ [name]) name v = some v :=
  if_pos (List.mem_append_right _ List.mem_cons_self)

/-- Another name changes nothing. -/
@[simp] lemma given_append_of_ne (h : name ≠ other) :
    given (names ++ [other]) name v = given names name v := by
  simp only [given, List.mem_append, List.mem_singleton, h, or_false]

/-- A field that has to be filled is found under its name. -/
lemma required_given (h : name ∈ names) : required name (given names name v) = .ok v := by
  rw [given, if_pos h, required]

/-- A field that was not read has its default. -/
lemma getD_given (d : β) : (given names name v).getD d = if name ∈ names then v else d := by
  unfold given
  split <;> rfl

/-- A default is the value of a name that may be left out. -/
lemma getD_given_eq {d : β} (h : name ∈ names ∨ v = d) : (given names name v).getD d = v := by
  rw [getD_given]
  split
  · rfl
  · rename_i hmissing
    exact (h.resolve_left hmissing).symm

end Given

/-! ## Whole texts -/

/-- A text that holds one object with these entries, which carry the slots among entries of other
names, and blanks around it. -/
structure IsDocument (slots : List Slot) (entries : List (String × List Char)) (text : List Char) :
    Prop where
  carries : Carries slots IsValue entries
  written : ∃ a object b,
    Blanks a ∧ IsObjectOf entries object ∧ Blanks b ∧ text = a ++ object ++ b

/-- A document is decoded to what the draft of all its names makes. -/
lemma IsDocument.decodeWith {δ α : Type} {r : Record δ α} {slots : List Slot}
    {known : List String → δ} {entries : List (String × List Char)} {text : String}
    (hdocument : IsDocument slots entries text.toList) (h : r.Tracks slots IsValue known) {v : α}
    (hfinish : r.finish (known (entries.map (·.1))) = .ok v) :
    Json.decodeWith r.read text = .ok v := by
  obtain ⟨hcarries, a, object, b, before, hobject, after, htext⟩ := hdocument
  have hread := ((h.reads hcarries hobject hfinish).spaced before after).decodeWith
  rwa [← htext, String.ofList_toList] at hread

/-- What is printed of the slots, in their order, is such a text. -/
lemma isDocument_printObject {slots : List Slot} {parts : List (List (String × List Char))}
    {entries : List (String × List Char)} (h : List.Forall₂ IsGiven slots parts)
    (hnames : (slots.map (·.name)).Nodup) (hprinted : parts.flatten = entries) :
    IsDocument slots entries (printObject entries) where
  carries := hprinted ▸ carries_flatten h hnames IsValue
  written :=
    ⟨[], _, [], blanks_nil, isObjectOf_printObject _, blanks_nil, (List.append_nil _).symm⟩

/-- What is printed of an optional text is its entry, or nothing. -/
lemma isGiven_optionalEntry {β : Type} {rule : β → List Char → Prop} {name : String}
    {v : Option β} {spell : β → String} (hrule : ∀ b, rule b (printText (spell b))) :
    IsGiven ⟨name, IsOptional rule v, v = none⟩ (Wire.optionalEntry name (v.map spell)) := by
  cases v with
  | none => exact .leftOut rfl
  | some b => exact .entry (.some (hrule b))

/-! ## Joining -/

namespace JoinRequest

/-- How a join request is written. -/
def slots (q : JoinRequest) : List Slot := [
  ⟨"session_token", IsOptional (fun t => IsText t.text) q.sessionToken, q.sessionToken = none⟩,
  ⟨"machine_id", IsText q.machineId, False⟩,
  ⟨"conference_name", IsText q.conferenceName, False⟩,
  ⟨"credentials", IsTextMap q.credentials, q.credentials = .empty⟩]

/-- What is known of it when these names have been read. -/
def known (q : JoinRequest) (names : List String) : Draft :=
  ⟨given names "session_token" q.sessionToken, given names "machine_id" q.machineId,
    given names "conference_name" q.conferenceName, given names "credentials" q.credentials⟩

/-- The draft of a request is known from the names that were read. -/
lemma tracks (q : JoinRequest) : record.Tracks q.slots IsValue q.known where
  names := rfl
  blank := rfl
  slot := by
    simp only [slots, List.forall_mem_cons]
    refine ⟨?token, ?machine, ?conference, ?credentials, fun _ h => absurd h List.not_mem_nil⟩
    case token =>
      exact .field rfl (fun _ h => h.takes fun _ _ => IsText.reads_token)
        (fun _ => given_of_not_mem) fun _ => by simp [known]
    case machine | conference | credentials =>
      exact .field rfl (fun _ h => h.reads.takes) (fun _ => given_of_not_mem)
        fun _ => by simp [known]
  other name hname names := by
    simp only [slots, List.map_cons, List.map_nil, List.mem_cons, not_or] at hname
    simp [known, Ne.symm, hname]
  lenient _ h := ⟨rfl, h⟩

/-- With all names that have to be there, the draft makes the request. -/
lemma finish_known (q : JoinRequest) {names : List String}
    (h : ∀ slot ∈ q.slots, slot.name ∈ names ∨ slot.optional) :
    record.finish (q.known names) = .ok q := by
  simp only [slots, List.forall_mem_cons, or_false] at h
  obtain ⟨token, machine, conference, credentials, -⟩ := h
  simp only [record, known, required_given machine, required_given conference, getD_given_eq token,
    getD_given_eq credentials]
  rfl

/-- The printer writes a document. -/
lemma exists_isDocument_print (q : JoinRequest) :
    ∃ entries, IsDocument q.slots entries (Wire.print q) := by
  have hcredentials : IsGiven ⟨"credentials", IsTextMap q.credentials, q.credentials = .empty⟩
      (if q.credentials.isEmpty then [] else [("credentials", printTextMap q.credentials)]) := by
    split
    · rename_i hempty
      exact .leftOut (TextMap.eq_empty hempty)
    · exact .entry (isTextMap_of_perm (.refl q.credentials.entries))
  have hgiven : List.Forall₂ IsGiven q.slots [_, _, _, _] :=
    .cons (isGiven_optionalEntry fun t => isText_printText t.text)
      (.cons (.entry (isText_printText q.machineId))
        (.cons (.entry (isText_printText q.conferenceName)) (.cons hcredentials .nil)))
  exact ⟨_, isDocument_printObject hgiven (by simp [slots]) (by simp)⟩

end JoinRequest

namespace JoinResponse

/-- How a join response is written. -/
def slots (a : JoinResponse) : List Slot := [
  ⟨"identity", IsText a.identity, False⟩,
  ⟨"session_token", IsText a.sessionToken.text, False⟩]

/-- What is known of it when these names have been read. -/
def known (a : JoinResponse) (names : List String) : Draft :=
  ⟨given names "identity" a.identity, given names "session_token" a.sessionToken⟩

/-- The draft of a response is known from the names that were read. -/
lemma tracks (a : JoinResponse) : record.Tracks a.slots IsValue a.known where
  names := rfl
  blank := rfl
  slot := by
    simp only [slots, List.forall_mem_cons]
    refine ⟨?identity, ?token, fun _ h => absurd h List.not_mem_nil⟩
    case identity =>
      exact .field rfl (fun _ h => h.reads.takes) (fun _ => given_of_not_mem)
        fun _ => by simp [known]
    case token =>
      exact .field rfl (fun _ h => h.reads_token.takes) (fun _ => given_of_not_mem)
        fun _ => by simp [known]
  other name hname names := by
    simp only [slots, List.map_cons, List.map_nil, List.mem_cons, not_or] at hname
    simp [known, Ne.symm, hname]
  lenient _ h := ⟨rfl, h⟩

/-- With all names, the draft makes the response. -/
lemma finish_known (a : JoinResponse) {names : List String}
    (h : ∀ slot ∈ a.slots, slot.name ∈ names ∨ slot.optional) :
    record.finish (a.known names) = .ok a := by
  simp only [slots, List.forall_mem_cons, or_false] at h
  obtain ⟨identity, token, -⟩ := h
  simp only [record, known, required_given identity, required_given token]
  rfl

/-- The printer writes a document. -/
lemma exists_isDocument_print (a : JoinResponse) :
    ∃ entries, IsDocument a.slots entries (Wire.print a) := by
  have hgiven : List.Forall₂ IsGiven a.slots [_, _] :=
    .cons (.entry (isText_printText a.identity))
      (.cons (.entry (isText_printText a.sessionToken.text)) .nil)
  exact ⟨_, isDocument_printObject hgiven (by simp [slots]) rfl⟩

end JoinResponse

/-! ## Leaving -/

namespace LogoutRequest

/-- How a logout request is written. -/
def slots (q : LogoutRequest) : List Slot :=
  [⟨"session_token", IsText q.sessionToken.text, False⟩]

/-- What is known of it when these names have been read. -/
def known (q : LogoutRequest) (names : List String) : Option SessionToken :=
  given names "session_token" q.sessionToken

/-- The draft of a request is known from the names that were read. -/
lemma tracks (q : LogoutRequest) : record.Tracks q.slots IsValue q.known where
  names := rfl
  blank := rfl
  slot := by
    simp only [slots, List.forall_mem_cons]
    refine ⟨?token, fun _ h => absurd h List.not_mem_nil⟩
    exact .field rfl (fun _ h => h.reads_token.takes) (fun _ => given_of_not_mem)
      fun _ => by simp [known]
  other name hname names := by
    simp only [slots, List.map_cons, List.map_nil, List.mem_cons, not_or] at hname
    simp [known, Ne.symm, hname]
  lenient _ h := ⟨rfl, h⟩

/-- With all names, the draft makes the request. -/
lemma finish_known (q : LogoutRequest) {names : List String}
    (h : ∀ slot ∈ q.slots, slot.name ∈ names ∨ slot.optional) :
    record.finish (q.known names) = .ok q := by
  simp only [slots, List.forall_mem_cons, or_false] at h
  simp only [record, known, required_given h.1]
  rfl

/-- The printer writes a document. -/
lemma exists_isDocument_print (q : LogoutRequest) :
    ∃ entries, IsDocument q.slots entries (Wire.print q) := by
  have hgiven : List.Forall₂ IsGiven q.slots [_] :=
    .cons (.entry (isText_printText q.sessionToken.text)) .nil
  exact ⟨_, isDocument_printObject hgiven (by simp [slots]) rfl⟩

end LogoutRequest

namespace LogoutResponse

/-- How a logout response is written. -/
def slots (a : LogoutResponse) : List Slot :=
  [⟨"logout_url", IsOptional IsText a.logoutUrl, a.logoutUrl = none⟩]

/-- What is known of it when these names have been read. -/
def known (a : LogoutResponse) (names : List String) : Option (Option String) :=
  given names "logout_url" a.logoutUrl

/-- The draft of a response is known from the names that were read. -/
lemma tracks (a : LogoutResponse) : record.Tracks a.slots IsValue a.known where
  names := rfl
  blank := rfl
  slot := by
    simp only [slots, List.forall_mem_cons]
    refine ⟨?url, fun _ h => absurd h List.not_mem_nil⟩
    exact .field rfl (fun _ h => h.takes fun _ _ => IsText.reads) (fun _ => given_of_not_mem)
      fun _ => by simp [known]
  other name hname names := by
    simp only [slots, List.map_cons, List.map_nil, List.mem_cons, not_or] at hname
    simp [known, Ne.symm, hname]
  lenient _ h := ⟨rfl, h⟩

/-- With or without a name for the address, the draft makes the response. -/
lemma finish_known (a : LogoutResponse) {names : List String}
    (h : ∀ slot ∈ a.slots, slot.name ∈ names ∨ slot.optional) :
    record.finish (a.known names) = .ok a := by
  simp only [slots, List.forall_mem_cons] at h
  simp only [record, known, getD_given_eq h.1]
  rfl

/-- The printer writes a document. -/
lemma exists_isDocument_print (a : LogoutResponse) :
    ∃ entries, IsDocument a.slots entries (Wire.print a) := by
  have hurl : IsGiven ⟨"logout_url", IsOptional IsText a.logoutUrl, a.logoutUrl = none⟩
      (Wire.optionalEntry "logout_url" (a.logoutUrl.map id)) :=
    isGiven_optionalEntry isText_printText
  have hgiven : List.Forall₂ IsGiven a.slots [_] := .cons hurl .nil
  exact ⟨_, isDocument_printObject hgiven (by simp [slots]) (by simp)⟩

end LogoutResponse

/-! ## Refusals -/

namespace ErrorResponse

/-- How a refusal is written. -/
def slots (e : ErrorResponse) : List Slot := [
  ⟨"kind", IsText e.kind.name, False⟩,
  ⟨"detail", IsOptional IsText e.detail, e.detail = none⟩]

/-- What is known of it when these names have been read. -/
def known (e : ErrorResponse) (names : List String) : Draft :=
  ⟨given names "kind" e.kind, given names "detail" e.detail⟩

/-- The draft of an error is known from the names that were read. -/
lemma tracks (e : ErrorResponse) : record.Tracks e.slots IsValue e.known where
  names := rfl
  blank := rfl
  slot := by
    simp only [slots, List.forall_mem_cons]
    refine ⟨?kind, ?detail, fun _ h => absurd h List.not_mem_nil⟩
    case kind =>
      exact .field rfl (fun _ h => h.reads_errorKind.takes) (fun _ => given_of_not_mem)
        fun _ => by simp [known]
    case detail =>
      exact .field rfl (fun _ h => h.takes fun _ _ => IsText.reads) (fun _ => given_of_not_mem)
        fun _ => by simp [known]
  other name hname names := by
    simp only [slots, List.map_cons, List.map_nil, List.mem_cons, not_or] at hname
    simp [known, Ne.symm, hname]
  lenient _ h := ⟨rfl, h⟩

/-- With all names that have to be there, the draft makes the error. -/
lemma finish_known (e : ErrorResponse) {names : List String}
    (h : ∀ slot ∈ e.slots, slot.name ∈ names ∨ slot.optional) :
    record.finish (e.known names) = .ok e := by
  simp only [slots, List.forall_mem_cons, or_false] at h
  obtain ⟨kind, detail, -⟩ := h
  simp only [record, known, required_given kind, getD_given_eq detail]
  rfl

/-- The printer writes a document. -/
lemma exists_isDocument_print (e : ErrorResponse) :
    ∃ entries, IsDocument e.slots entries (Wire.print e) := by
  have hdetail : IsGiven ⟨"detail", IsOptional IsText e.detail, e.detail = none⟩
      (Wire.optionalEntry "detail" (e.detail.map id)) :=
    isGiven_optionalEntry isText_printText
  have hgiven : List.Forall₂ IsGiven e.slots [_, _] :=
    .cons (.entry (isText_printText e.kind.name)) (.cons hdetail .nil)
  exact ⟨_, isDocument_printObject hgiven (by simp [slots]) (by simp)⟩

end ErrorResponse

/-! ## Configurations -/

namespace Duration

/-- How a span is written: with its two parts and nothing else. -/
def slots (d : Duration) : List Slot := [
  ⟨"secs", (· = printNatural d.seconds), False⟩,
  ⟨"nanos", (· = printNatural d.subsecond), False⟩]

/-- What is known of it when these names have been read. -/
def known (d : Duration) (names : List String) : Draft :=
  ⟨given names "secs" d.seconds, given names "nanos" d.subsecond⟩

/-- What may be written for a span. -/
def IsWritten (d : Duration) (text : List Char) : Prop :=
  ∃ entries, Carries d.slots (fun _ => False) entries ∧ IsObjectOf entries text

/-- The draft of a duration is known from the names that were read. -/
lemma tracks (d : Duration) : record.Tracks d.slots (fun _ => False) d.known where
  names := rfl
  blank := rfl
  slot := by
    simp only [slots, List.forall_mem_cons]
    refine ⟨?seconds, ?nanos, fun _ h => absurd h List.not_mem_nil⟩
    case seconds =>
      exact .field rfl (fun _ h => h ▸ d.reads_seconds.takes) (fun _ => given_of_not_mem)
        fun _ => by simp [known]
    case nanos =>
      exact .field rfl (fun _ h => h ▸ d.reads_subsecond.takes) (fun _ => given_of_not_mem)
        fun _ => by simp [known]
  other name hname names := by
    simp only [slots, List.map_cons, List.map_nil, List.mem_cons, not_or] at hname
    simp [known, Ne.symm, hname]
  lenient _ h := h.elim

/-- A duration is read in either order of its two fields. -/
lemma IsWritten.reads {d : Duration} {text : List Char} (h : d.IsWritten text) :
    Reads record.read text d := by
  obtain ⟨entries, hcarries, hobject⟩ := h
  have hcomplete := hcarries.complete
  simp only [slots, List.forall_mem_cons, or_false] at hcomplete
  obtain ⟨seconds, nanos, -⟩ := hcomplete
  refine d.tracks.reads hcarries hobject ?_
  have hknown : d.known (entries.map (·.1)) = ⟨some d.seconds, some d.subsecond⟩ := by
    rw [known, given, if_pos seconds, given, if_pos nanos]
  rw [hknown]
  exact finish_record d.ofParts?_seconds_subsecond

/-- The printer writes the seconds first. -/
lemma isWritten_print (d : Duration) : d.IsWritten (Wire.print d) := by
  have hgiven : List.Forall₂ IsGiven d.slots [_, _] :=
    .cons (.entry rfl) (.cons (.entry rfl) .nil)
  exact ⟨_, carries_flatten hgiven (by simp [slots]) _, isObjectOf_printObject _⟩

end Duration

namespace Config

/-- How a configuration is written; each of its fields may be left out. -/
def slots (c : Config) : List Slot := [
  ⟨"lifetime", c.lifetime.IsWritten, True⟩,
  ⟨"sweep_interval", c.sweepInterval.IsWritten, True⟩,
  ⟨"destroy_on_conference_end", (· = printBool c.destroyOnConferenceEnd), True⟩,
  ⟨"sweep_jitter", c.sweepJitter.IsWritten, True⟩]

/-- The configuration that has these fields of another one, and the defaults for the others. -/
def restrict (c : Config) (names : List String) : Config where
  lifetime := if "lifetime" ∈ names then c.lifetime else standard.lifetime
  sweepInterval := if "sweep_interval" ∈ names then c.sweepInterval else standard.sweepInterval
  destroyOnConferenceEnd :=
    if "destroy_on_conference_end" ∈ names then c.destroyOnConferenceEnd
    else standard.destroyOnConferenceEnd
  sweepJitter := if "sweep_jitter" ∈ names then c.sweepJitter else standard.sweepJitter

/-- What is known of it when these names have been read. -/
def known (c : Config) (names : List String) : Draft :=
  ⟨given names "lifetime" c.lifetime, given names "sweep_interval" c.sweepInterval,
    given names "destroy_on_conference_end" c.destroyOnConferenceEnd,
    given names "sweep_jitter" c.sweepJitter⟩

/-- The draft of a configuration is known from the names that were read. -/
lemma tracks (c : Config) : record.Tracks c.slots IsValue c.known where
  names := rfl
  blank := rfl
  slot := by
    simp only [slots, List.forall_mem_cons]
    refine ⟨?lifetime, ?interval, ?destroy, ?jitter, fun _ h => absurd h List.not_mem_nil⟩
    case destroy =>
      exact .field rfl (fun _ h => h ▸ (reads_bool _).takes) (fun _ => given_of_not_mem)
        fun _ => by simp [known]
    case lifetime | interval | jitter =>
      exact .field rfl (fun _ h => h.reads.takes) (fun _ => given_of_not_mem)
        fun _ => by simp [known]
  other name hname names := by
    simp only [slots, List.map_cons, List.map_nil, List.mem_cons, not_or] at hname
    simp [known, Ne.symm, hname]
  lenient _ h := ⟨rfl, h⟩

/-- The draft makes the configuration with defaults for all names that were not read. -/
lemma finish_known (c : Config) (names : List String) :
    record.finish (c.known names) = .ok (c.restrict names) := by
  simp only [record, known, getD_given]
  rfl

/-- The printer writes a document. -/
lemma exists_isDocument_print (c : Config) :
    ∃ entries, IsDocument c.slots entries (Wire.print c) := by
  have hgiven : List.Forall₂ IsGiven c.slots [_, _, _, _] :=
    .cons (.entry (Duration.isWritten_print c.lifetime))
      (.cons (.entry (Duration.isWritten_print c.sweepInterval))
        (.cons (.entry rfl) (.cons (.entry (Duration.isWritten_print c.sweepJitter)) .nil)))
  exact ⟨_, isDocument_printObject hgiven (by simp [slots]) rfl⟩

end Config

/-! ## All of them -/

namespace Wire

/-- The values of a type are read from every text that carries them, and what is printed of them is
one of these texts. -/
structure Unaffected (α : Type) [Wire α] (slots : α → List Slot) : Prop where
  decode : ∀ (v : α) (entries : List (String × List Char)) (text : String),
    IsDocument (slots v) entries text.toList → (Wire.decode text : Except Failure α) = .ok v
  printed : ∀ v : α, ∃ entries, IsDocument (slots v) entries (Wire.encode v).toList

/-- A type whose drafts are known from the names that were read is unaffected by presentation. -/
lemma Unaffected.of_record {α δ : Type} [Wire α] {slots : α → List Slot} {r : Record δ α}
    {known : α → List String → δ} (hread : (Wire.read : Reader α) = r.read)
    (htracks : ∀ v, r.Tracks (slots v) IsValue (known v))
    (hfinish : ∀ v names, (∀ slot ∈ slots v, slot.name ∈ names ∨ slot.optional) →
      r.finish (known v names) = .ok v)
    (hprint : ∀ v, ∃ entries, IsDocument (slots v) entries (Wire.print v)) :
    Unaffected α slots where
  decode v entries text h := by
    rw [Wire.decode, hread]
    exact h.decodeWith (htracks v) (hfinish v _ h.carries.complete)
  printed v := by
    rw [Wire.encode, String.toList_ofList]
    exact hprint v

/-- What the presentation of a value does not change. -/
structure PresentationIgnored : Prop where
  joinRequest : Unaffected JoinRequest JoinRequest.slots
  joinResponse : Unaffected JoinResponse JoinResponse.slots
  logoutRequest : Unaffected LogoutRequest LogoutRequest.slots
  logoutResponse : Unaffected LogoutResponse LogoutResponse.slots
  errorResponse : Unaffected ErrorResponse ErrorResponse.slots
  /-- Of a configuration the fields count that are written; for the others there are defaults. -/
  config : ∀ (c : Config) (entries : List (String × List Char)) (text : String),
    IsDocument c.slots entries text.toList →
      (Wire.decode text : Except Failure Config) = .ok (c.restrict (entries.map (·.1)))
  printedConfig : ∀ c : Config, ∃ entries, IsDocument c.slots entries (Wire.encode c).toList

/-- **Decoding ignores presentation.** -/
theorem presentationIgnored : PresentationIgnored where
  joinRequest := .of_record rfl JoinRequest.tracks (fun q _ => q.finish_known)
    JoinRequest.exists_isDocument_print
  joinResponse := .of_record rfl JoinResponse.tracks (fun a _ => a.finish_known)
    JoinResponse.exists_isDocument_print
  logoutRequest := .of_record rfl LogoutRequest.tracks (fun q _ => q.finish_known)
    LogoutRequest.exists_isDocument_print
  logoutResponse := .of_record rfl LogoutResponse.tracks (fun a _ => a.finish_known)
    LogoutResponse.exists_isDocument_print
  errorResponse := .of_record rfl ErrorResponse.tracks (fun e _ => e.finish_known)
    ErrorResponse.exists_isDocument_print
  config c entries _ h := h.decodeWith c.tracks (c.finish_known (entries.map (·.1)))
  printedConfig c := by
    rw [Wire.encode, String.toList_ofList]
    exact c.exists_isDocument_print

/-- A request without a token, to a conference whose name is one far character. -/
def farRequest : JoinRequest := ⟨none, "d/1", "😀", ⟨[("a", "1"), ("b", "2")], by decide⟩⟩

/-- Entries that carry it: in another order, with a null for the token, with credentials in another
order, and with a nested value of a name that means nothing. -/
def farEntries : List (String × List Char) := [
  ("x", "[1.5e+3,\x7b\"y\" : null\x7d]".toList),
  ("credentials", "\x7b\"b\":\"2\",\"a\":\"1\"\x7d".toList),
  ("conference_name", "\"\\ud83D\\uDE00\"".toList),
  ("machine_id", "\"d\\/1\"".toList),
  ("session_token", "null".toList)]

/-- What is written for each of them: blanks stand around the first, and the name of the second is
escaped. -/
def farTexts : List (List Char) := [
  "\t\"x\" :[1.5e+3,\x7b\"y\" : null\x7d] ".toList,
  "\"\\u0063redentials\"".toList ++ ':' :: "\x7b\"b\":\"2\",\"a\":\"1\"\x7d".toList,
  printEntry "conference_name" "\"\\ud83D\\uDE00\"".toList,
  printEntry "machine_id" "\"d\\/1\"".toList,
  printEntry "session_token" "null".toList]

/-- A text of the request. -/
def farText : String := String.ofList ('\n' :: '\x7b' :: commaSeparated farTexts ++ ['\x7d', ' '])

/-- **A far character, an escaped name and a foreign value change nothing.** -/
theorem farRequest_presentationIgnored : IsDocument farRequest.slots farEntries farText.toList ∧
    (Wire.decode farText : Except Failure JoinRequest) = .ok farRequest := by
  have hspace : Blanks [' '] := by simp [Blanks]
  have htab : Blanks ['\t'] := by simp [Blanks]
  have hline : Blanks ['\n'] := by simp [Blanks]
  have hnested : IsValue "[1.5e+3,\x7b\"y\" : null\x7d]".toList := by
    have hnumber : IsNumber ([] ++ ['1'] ++ (['.', '5'] ++ ['e', '+', '3'])) :=
      .number (by decide) ⟨by decide, List.all_eq_true.mp rfl, by decide⟩
        (.point ⟨by decide, List.all_eq_true.mp rfl⟩)
        (@IsExponent.power 'e' ['+'] ['3'] (by decide) (by decide)
          ⟨by decide, List.all_eq_true.mp rfl⟩)
    have hnull : IsValue ([' '] ++ Word.null.letters ++ []) :=
      .spaced hspace (.word .null) blanks_nil
    exact .array (.items (.number hnumber) (.item (.object (.entry
      (.named blanks_nil (isString_printText "y") hspace hnull)))))
  have hcredentials : IsTextMap farRequest.credentials
      "\x7b\"b\":\"2\",\"a\":\"1\"\x7d".toList := by
    have hswapped : [("b", "2"), ("a", "1")].Perm farRequest.credentials.entries := .swap _ _ []
    exact isTextMap_of_perm hswapped
  have hconference : IsText farRequest.conferenceName "\"\\ud83D\\uDE00\"".toList := by
    refine ⟨[.unit 0xD83D, .unit 0xDE00], ?_, ?_⟩
    · exact @Denotes.pair '😀' 0x3D 0x200 [] [] (by decide) (by decide) (by decide) .nil
    · have hlow : Written [.unit 0xDE00] ['\\', 'u', 'D', 'E', '0', '0'] :=
        @Written.unit 'D' 'E' '0' '0' 13 14 0 0 _ _ ⟨by decide, .inr rfl⟩ ⟨by decide, .inr rfl⟩
          ⟨by decide, .inl rfl⟩ ⟨by decide, .inl rfl⟩ .nil
      exact .quoted (@Written.unit 'd' '8' '3' 'D' 13 8 3 13 _ _ ⟨by decide, .inl rfl⟩
        ⟨by decide, .inl rfl⟩ ⟨by decide, .inl rfl⟩ ⟨by decide, .inr rfl⟩ hlow)
  have hmachine : IsText farRequest.machineId "\"d\\/1\"".toList := by
    refine ⟨[.char 'd', .char '/', .char '1'], .char 'd' (.char '/' (.char '1' .nil)), ?_⟩
    exact .quoted (.plain (by decide) (by decide) (by decide) (.letter (by decide)
      (.plain (by decide) (by decide) (by decide) .nil)))
  have hname : IsText "credentials" "\"\\u0063redentials\"".toList := by
    have hdenotes := Denotes.unit 'c' (denotes_piecesOf "redentials")
    refine ⟨.unit 'c'.toNat :: piecesOf "redentials", hdenotes, ?_⟩
    exact .quoted (@Written.unit '0' '0' '6' '3' 0 0 6 3 _ _ ⟨by decide, .inl rfl⟩
      ⟨by decide, .inl rfl⟩ ⟨by decide, .inl rfl⟩ ⟨by decide, .inl rfl⟩
      (written_flatMap_escape "redentials".toList))
  have hcarries : Carries farRequest.slots IsValue farEntries := by
    constructor
    case once => simp [JoinRequest.slots, farEntries]
    case known =>
      have htoken : IsOptional (fun t => IsText t.text) farRequest.sessionToken "null".toList :=
        .null
      simpa [JoinRequest.slots, farEntries] using
        And.intro htoken (And.intro hmachine (And.intro hconference hcredentials))
    case unknown => simpa [JoinRequest.slots, farEntries] using hnested
    case complete => simp [JoinRequest.slots, farEntries]
  have hobject : IsObjectOf farEntries ('\x7b' :: commaSeparated farTexts ++ ['\x7d']) := .entries
    (.cons (.named htab (isText_printText "x") hspace blanks_nil hspace)
      (.cons (isEntry_compact hname _)
        (.cons (isEntry_printEntry "conference_name" _) (.cons (isEntry_printEntry "machine_id" _)
          (.cons (isEntry_printEntry "session_token" _) .nil)))))
  have htext : farText.toList =
      ['\n'] ++ ('\x7b' :: commaSeparated farTexts ++ ['\x7d']) ++ [' '] := by
    rw [farText, String.toList_ofList, List.append_assoc, List.cons_append, List.cons_append,
      List.append_assoc]
    rfl
  have hdocument : IsDocument farRequest.slots farEntries farText.toList :=
    ⟨hcarries, ['\n'], _, [' '], hline, hobject, hspace, htext⟩
  exact ⟨hdocument, presentationIgnored.joinRequest.decode _ _ _ hdocument⟩

end Wire

end Admittance
