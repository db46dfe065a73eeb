import Admittance.Json.Printer
import Admittance.Json.Reader
import Mathlib.Tactic.Lemma

/-!
# How a string may be written

A character of a string may stand for itself, it may be escaped by a letter, or it may be spelled
out by the four digits of its unit, of either case; a character beyond the first plane takes two
units.  Which pieces a string consists of and which characters these stand for are two rules,
`Json.Written` and `Json.Denotes`, because a string that is only passed over may hold half of a
pair.  Together they say what may be written for a text (`Json.IsText`).

The scanner and the decoder keep to the rules (`Json.Written.scanString`, `Json.Denotes.textOf`),
and so does the printer, which writes each text in one of the ways (`Json.isText_printText`).
-/

namespace Admittance.Json

/-! ## The rules -/

/-- A hexadecimal digit of either case, and its value. -/
def HexDigit (c : Char) (n : Nat) : Prop := n < 16 ∧ (c = hexDigit n ∨ c = (hexDigit n).toUpper)

/-- The letters that may stand after a backslash, each with its character. -/
def letters : List (Char × Char) :=
  [('"', '"'), ('\\', '\\'), ('/', '/'), ('b', '\x08'), ('f', '\x0c'), ('n', '\n'), ('r', '\r'),
    ('t', '\t')]

/-- What may be written between two quotes, and the pieces that it consists of. -/
inductive Written : List Piece → List Char → Prop
  | nil : Written [] []
  /-- A character that stands for itself. -/
  | plain {c : Char} {pieces : List Piece} {text : List Char} (visible : 0x20 ≤ c.toNat)
      (quote : c ≠ '"') (backslash : c ≠ '\\') (more : Written pieces text) :
      Written (.char c :: pieces) (c :: text)
  /-- A letter behind a backslash. -/
  | letter {e c : Char} {pieces : List Piece} {text : List Char} (listed : (e, c) ∈ letters)
      (more : Written pieces text) : Written (.char c :: pieces) ('\\' :: e :: text)
  /-- The four digits of a unit. -/
  | unit {a b c d : Char} {p q r s : Nat} {pieces : List Piece} {text : List Char}
      (first : HexDigit a p) (second : HexDigit b q) (third : HexDigit c r) (fourth : HexDigit d s)
      (more : Written pieces text) :
      Written (.unit ((p * 16 + q) * 256 + (r * 16 + s)) :: pieces)
        ('\\' :: 'u' :: a :: b :: c :: d :: text)

/-- A string of these pieces. -/
inductive IsString (pieces : List Piece) : List Char → Prop
  | quoted {text : List Char} (written : Written pieces text) :
      IsString pieces ('"' :: text ++ ['"'])

/-- The characters that pieces stand for. -/
inductive Denotes : List Piece → List Char → Prop
  | nil : Denotes [] []
  | char (c : Char) {pieces : List Piece} {cs : List Char} (more : Denotes pieces cs) :
      Denotes (.char c :: pieces) (c :: cs)
  /-- A character of the first plane may be written as its unit. -/
  | unit (c : Char) {pieces : List Piece} {cs : List Char} (more : Denotes pieces cs) :
      Denotes (.unit c.toNat :: pieces) (c :: cs)
  /-- A character of another plane may be written as its two halves, of ten bits each. -/
  | pair {c : Char} {high low : Nat} {pieces : List Piece} {cs : List Char} (hhigh : high < 0x400)
      (hlow : low < 0x400) (joined : c.toNat = 0x10000 + high * 0x400 + low)
      (more : Denotes pieces cs) :
      Denotes (.unit (0xD800 + high) :: .unit (0xDC00 + low) :: pieces) (c :: cs)

/-- What may be written for a text. -/
def IsText (s : String) (text : List Char) : Prop :=
  ∃ pieces, Denotes pieces s.toList ∧ IsString pieces text

/-! ## Reading by the rules -/

/-- The reader takes digits of either case. -/
lemma HexDigit.hexValue? {c : Char} {n : Nat} (h : HexDigit c n) : Json.hexValue? c = some n := by
  have hlower : ∀ n < 16, Json.hexValue? (hexDigit n) = some n := by decide
  have hupper : ∀ n < 16, Json.hexValue? (hexDigit n).toUpper = some n := by decide
  obtain ⟨hn, rfl | rfl⟩ := h
  · exact hlower n hn
  · exact hupper n hn

/-- What is written is scanned as its pieces. -/
lemma Written.scanString {pieces : List Piece} {text : List Char} (h : Written pieces text)
    (rest : List Char) : Json.scanString (text ++ '"' :: rest) = ⟨pieces, .ok rest⟩ := by
  induction h with
  | nil => rfl
  | plain visible quote backslash _ ih =>
    rw [List.cons_append, Json.scanString, if_neg (Nat.not_lt.mpr visible), ih]
    · rfl
    all_goals simp [quote, backslash]
  | @letter e c pieces text listed _ ih =>
    have hstep : Json.scanString ('\\' :: e :: (text ++ '"' :: rest)) =
        (Json.scanString (text ++ '"' :: rest)).cons (.char c) := by
      simp only [letters, List.mem_cons, List.not_mem_nil, or_false, Prod.mk.injEq] at listed
      rcases listed with ⟨rfl, rfl⟩ | ⟨rfl, rfl⟩ | ⟨rfl, rfl⟩ | ⟨rfl, rfl⟩ | ⟨rfl, rfl⟩ |
        ⟨rfl, rfl⟩ | ⟨rfl, rfl⟩ | ⟨rfl, rfl⟩ <;> rfl
    rw [List.cons_append, List.cons_append, hstep, ih]
    rfl
  | @unit a b c d p q r s pieces text first second third fourth _ ih =>
    have hunit : hexUnit? a b c d = some ((p * 16 + q) * 256 + (r * 16 + s)) := by
      simp only [hexUnit?, first.hexValue?, second.hexValue?, third.hexValue?, fourth.hexValue?]
      rfl
    simp only [List.cons_append, Json.scanString, hunit, ih]
    rfl

/-- No character is half of a pair. -/
lemma toNat_lt_or_lt (c : Char) : c.toNat < 0xD800 ∨ 0xDFFF < c.toNat :=
  c.valid.imp_right And.left

/-- The decoder keeps to the rules. -/
lemma Denotes.decodePieces {pieces : List Piece} {cs : List Char} (h : Denotes pieces cs) :
    Json.decodePieces none pieces = .ok cs := by
  induction h with
  | nil => rfl
  | char c _ ih =>
    rw [Json.decodePieces, ih]
    rfl
  | unit c _ ih =>
    have hwhole := toNat_lt_or_lt c
    have hlow : isLowHalf c.toNat = false := by
      simp only [isLowHalf, Bool.and_eq_false_iff, decide_eq_false_iff_not]
      omega
    have hhigh : isHighHalf c.toNat = false := by
      simp only [isHighHalf, Bool.and_eq_false_iff, decide_eq_false_iff_not]
      omega
    rw [Json.decodePieces.eq_def]
    simp only [hlow, hhigh, Bool.false_eq_true, if_false, ih, Char.ofNat_toNat]
    rfl
  | @pair c high low pieces cs hhigh hlow joined _ ih =>
    have hfirst : isLowHalf (0xD800 + high) = false ∧ isHighHalf (0xD800 + high) = true := by
      simp only [isLowHalf, isHighHalf, Bool.and_eq_false_iff, Bool.and_eq_true,
        decide_eq_false_iff_not, decide_eq_true_eq]
      omega
    have hsecond : isLowHalf (0xDC00 + low) = true := by
      simp only [isLowHalf, Bool.and_eq_true, decide_eq_true_eq]
      omega
    have hjoin : joinHalves (0xD800 + high) (0xDC00 + low) = c := by
      have hcode : (0xD800 + high - 0xD800) * 0x400 + (0xDC00 + low - 0xDC00) + 0x10000 =
          c.toNat := by omega
      rw [joinHalves, hcode, Char.ofNat_toNat]
    rw [Json.decodePieces.eq_def]
    simp only [hfirst, hsecond, Bool.false_eq_true, if_false, if_true, ih, hjoin]
    rfl

/-- The text that pieces are read as is the one they were written for. -/
lemma Denotes.textOf {pieces : List Piece} {s : String} (h : Denotes pieces s.toList) :
    Json.textOf none pieces = .ok s := by
  simp only [Json.textOf, h.decodePieces, String.ofList_toList]

/-! ## What is printed -/

/-- The character is printed by its four digits. -/
def isSpelledOut (c : Char) : Bool :=
  c.toNat < 0x20 && c ≠ '\x08' && c ≠ '\x0c' && c ≠ '\n' && c ≠ '\r' && c ≠ '\t'

/-- What stands for a character in a printed string. -/
def pieceOf (c : Char) : Piece := if isSpelledOut c then .unit c.toNat else .char c

/-- What stands for a text. -/
def piecesOf (s : String) : List Piece := s.toList.map pieceOf

/-- A printed character is one that may be written for it. -/
lemma Written.escape {pieces : List Piece} {text : List Char} (h : Written pieces text) (c : Char) :
    Written (pieceOf c :: pieces) (Json.escape c ++ text) := by
  by_cases hletter : c ∈ ['"', '\\', '\x08', '\x0c', '\n', '\r', '\t']
  · simp only [List.mem_cons, List.not_mem_nil, or_false] at hletter
    rcases hletter with rfl | rfl | rfl | rfl | rfl | rfl | rfl <;> exact .letter (by decide) h
  · simp only [List.mem_cons, List.not_mem_nil, or_false, not_or] at hletter
    obtain ⟨hquote, hbackslash, hb, hf, hn, hr, ht⟩ := hletter
    by_cases hcontrol : c.toNat < 0x20
    · have hescape : Json.escape c =
          ['\\', 'u', '0', '0', hexDigit (c.toNat / 16), hexDigit (c.toNat % 16)] := by
        simp only [Json.escape, hquote, hbackslash, hb, hf, hn, hr, ht, hcontrol, if_true, if_false]
      have hpiece : pieceOf c =
          .unit ((0 * 16 + 0) * 256 + (c.toNat / 16 * 16 + c.toNat % 16)) := by
        rw [Nat.div_add_mod']
        simp [pieceOf, isSpelledOut, hb, hf, hn, hr, ht, hcontrol]
      have hzero : HexDigit '0' 0 := ⟨by decide, .inl rfl⟩
      rw [hescape, hpiece]
      exact .unit hzero hzero ⟨by omega, .inl rfl⟩ ⟨by omega, .inl rfl⟩ h
    · have hescape : Json.escape c = [c] := by
        simp only [Json.escape, hquote, hbackslash, hb, hf, hn, hr, ht, hcontrol, if_false]
      have hpiece : pieceOf c = .char c := by
        simp [pieceOf, isSpelledOut, hcontrol]
      rw [hescape, hpiece]
      exact .plain (Nat.le_of_not_lt hcontrol) hquote hbackslash h

/-- The printer writes each character as one piece. -/
lemma written_flatMap_escape (cs : List Char) : Written (cs.map pieceOf) (cs.flatMap escape) := by
  induction cs with
  | nil => exact .nil
  | cons c cs ih => exact ih.escape c

/-- A text is printed in one of the ways in which it may be written. -/
lemma isString_printText (s : String) : IsString (piecesOf s) (printText s) :=
  .quoted (written_flatMap_escape s.toList)

/-- The pieces that the printer writes stand for its characters. -/
lemma denotes_piecesOf (s : String) : Denotes (piecesOf s) s.toList := by
  unfold piecesOf
  induction s.toList with
  | nil => exact .nil
  | cons c cs ih =>
    rw [List.map_cons, pieceOf]
    split
    · exact .unit c ih
    · exact .char c ih

/-- The printer writes a string in one of the ways. -/
lemma isText_printText (s : String) : IsText s (printText s) :=
  ⟨piecesOf s, denotes_piecesOf s, isString_printText s⟩

end Admittance.Json
