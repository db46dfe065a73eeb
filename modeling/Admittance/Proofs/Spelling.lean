import Admittance.Proofs.Strings
import Mathlib.Data.List.TakeDrop

/-!
# The tokens of a printed text

Whatever is printed is cut into the same tokens again.  `Json.Spells` says of a text which tokens it
is cut into, wherever it stands: the text after it is cut as if nothing came before.  Strings and
punctuation end by themselves.  A number goes on as long as it can, so the text after it has to
begin with something else (`Json.Ends`), as every comma and every brace does.
-/

namespace Admittance.Json

/-! ## Where a number ends -/

/-- A number that is followed by this text ends before it. -/
def Ends (text : List Char) : Prop :=
  ∀ c ∈ text.head?, isDigit c = false ∧ c ≠ '.' ∧ c ≠ 'e' ∧ c ≠ 'E'

/-- A number ends at the end of the text. -/
lemma ends_nil : Ends [] := by
  intro c hc
  cases hc

/-- Only the first character counts. -/
lemma ends_cons {c : Char} {rest : List Char}
    (h : isDigit c = false ∧ c ≠ '.' ∧ c ≠ 'e' ∧ c ≠ 'E') : Ends (c :: rest) := by
  intro d hd
  rw [List.head?_cons, Option.mem_some_iff] at hd
  exact hd ▸ h

/-- The text is cut into these tokens, whatever comes after it, unless that makes a number of it
longer.  Every token takes a character at least. -/
structure Spells (text : List Char) (ts : List Token) : Prop where
  cut : ∀ fuel rest, Ends rest →
    tokensWithin (ts.length + fuel) (text ++ rest) = ts ++ tokensWithin fuel rest
  length_le : ts.length ≤ text.length

/-- There is nothing to cut in the empty text. -/
lemma tokensWithin_nil (fuel : Nat) : tokensWithin fuel [] = [] := by
  cases fuel <;> rfl

/-- One token, and then the text after it. -/
lemma tokensWithin_succ {c : Char} (hblank : isBlank c = false) (fuel : Nat) (rest : List Char) :
    tokensWithin (fuel + 1) (c :: rest) =
      (tokenFrom c rest).1 :: tokensWithin fuel (tokenFrom c rest).2 := by
  rw [tokensWithin, List.dropWhile_cons_of_neg (by rw [hblank]; exact Bool.false_ne_true)]

namespace Spells

variable {text more : List Char} {ts us : List Token}

/-- The tokens of a whole text. -/
lemma tokens_eq (h : Spells text ts) : tokens text = ts := by
  have hcut := h.cut (text.length - ts.length) [] ends_nil
  rw [List.append_nil, Nat.add_sub_cancel' h.length_le, tokensWithin_nil, List.append_nil] at hcut
  exact hcut

/-- One text after another, which does not go on with a number. -/
lemma append (h : Spells text ts) (h' : Spells more us)
    (hends : ∀ rest, Ends rest → Ends (more ++ rest)) : Spells (text ++ more) (ts ++ us) := by
  refine ⟨fun fuel rest hrest => ?_, ?_⟩
  · rw [List.length_append, Nat.add_assoc, List.append_assoc, h.cut _ _ (hends rest hrest),
      h'.cut _ _ hrest, List.append_assoc]
  · rw [List.length_append, List.length_append]
    exact Nat.add_le_add h.length_le h'.length_le

/-- A token that ends by itself. -/
lemma cons (h : Spells text ts) (c : Char) (cs : List Char) {t : Token}
    (hblank : isBlank c = false) (htoken : ∀ rest, tokenFrom c (cs ++ rest) = (t, rest)) :
    Spells (c :: cs ++ text) (t :: ts) := by
  refine ⟨fun fuel rest hrest => ?_, ?_⟩
  · have hlength : (t :: ts).length + fuel = (ts.length + fuel) + 1 := by
      rw [List.length_cons]
      omega
    rw [List.cons_append, List.cons_append, List.append_assoc, hlength, tokensWithin_succ hblank,
      htoken, h.cut fuel rest hrest, List.cons_append]
  · rw [List.length_append, List.length_cons, List.length_cons]
    have hle := h.length_le
    omega

/-- The empty text is cut into nothing. -/
lemma nil : Spells [] [] := ⟨fun _ _ _ => by simp, Nat.le_refl 0⟩

end Spells

/-! ## Strings -/

/-- A string is one token. -/
lemma IsString.spells {pieces : List Piece} {string text : List Char} {ts : List Token}
    (h : IsString pieces string) (hmore : Spells text ts) :
    Spells (string ++ text) (.string pieces :: ts) := by
  cases h with
  | @quoted body written =>
    refine hmore.cons '"' (body ++ ['"']) rfl fun rest => ?_
    show stringToken _ = _
    rw [List.append_assoc, List.singleton_append, stringToken, written.scanString]

/-- A printed string is one token. -/
lemma Spells.printText {text : List Char} {ts : List Token} (h : Spells text ts) (s : String) :
    Spells (Json.printText s ++ text) (.string (piecesOf s) :: ts) :=
  (isString_printText s).spells h

/-! ## Truth values and numbers -/

/-- A printed truth value is one word. -/
lemma Spells.printBool (b : Bool) :
    Spells (Json.printBool b) [.word (if b then .true else .false)] := by
  cases b with
  | false => exact Spells.nil.cons 'f' ['a', 'l', 's', 'e'] rfl fun _ => rfl
  | true => exact Spells.nil.cons 't' ['r', 'u', 'e'] rfl fun _ => rfl

/-- A digit is no other character. -/
lemma ne_of_isDigit {c d : Char} (h : isDigit c = true) (hd : isDigit d = false) : c ≠ d := by
  rintro rfl
  exact absurd (hd.symm.trans h) Bool.false_ne_true

/-- A digit is no blank. -/
lemma isBlank_of_isDigit {c : Char} (h : isDigit c = true) : isBlank c = false := by
  have hspace : c ≠ ' ' := ne_of_isDigit h rfl
  have hline : c ≠ '\n' := ne_of_isDigit h rfl
  have htab : c ≠ '\t' := ne_of_isDigit h rfl
  have hreturn : c ≠ '\r' := ne_of_isDigit h rfl
  simp only [isBlank, hspace, hline, htab, hreturn, decide_false, Bool.or_false]

/-- A digit starts a number. -/
lemma tokenFrom_of_isDigit {c : Char} (h : isDigit c = true) (rest : List Char) :
    tokenFrom c rest = numberToken false (c :: rest) := by
  have hne := fun d => @ne_of_isDigit c d h
  unfold tokenFrom
  rw [if_neg (hne _ rfl), if_neg (hne _ rfl), if_neg (hne _ rfl), if_neg (hne _ rfl),
    if_neg (hne _ rfl), if_neg (hne _ rfl), if_neg (hne _ rfl), if_neg (hne _ rfl),
    if_neg (hne _ rfl), if_neg (hne _ rfl), if_neg (hne _ rfl), if_pos h]

/-- All digits that are there are taken. -/
lemma scanDigits_append {digits rest : List Char} (hne : digits ≠ [])
    (hdigits : ∀ c ∈ digits, isDigit c = true) (hrest : ∀ c ∈ rest.head?, isDigit c = false) :
    scanDigits (digits ++ rest) = .ok (digits, rest) := by
  have htake : rest.takeWhile isDigit = [] := by
    cases rest with
    | nil => rfl
    | cons c rest => rw [List.takeWhile_cons_of_neg (by rw [hrest c rfl]; exact Bool.false_ne_true)]
  have hdrop : rest.dropWhile isDigit = rest := by
    cases rest with
    | nil => rfl
    | cons c rest => rw [List.dropWhile_cons_of_neg (by rw [hrest c rfl]; exact Bool.false_ne_true)]
  unfold scanDigits
  rw [List.span_eq_takeWhile_dropWhile, List.takeWhile_append_of_pos hdigits,
    List.dropWhile_append_of_pos hdigits, htake, hdrop, List.append_nil]
  cases digits with
  | nil => exact absurd rfl hne
  | cons c digits => rfl

/-- The digits of a number, without a leading zero. -/
structure IsWhole (digits : List Char) : Prop where
  ne_nil : digits ≠ []
  digit : ∀ c ∈ digits, isDigit c = true
  leading : digits.head? = some '0' → digits = ['0']

/-- The whole part of a number is scanned up to the first character that is no digit. -/
lemma IsWhole.scanWhole {digits rest : List Char} (h : IsWhole digits)
    (hrest : ∀ c ∈ rest.head?, isDigit c = false) :
    Json.scanWhole (digits ++ rest) = .ok (digits, rest) := by
  by_cases hzero : digits.head? = some '0'
  · rw [h.leading hzero]
    cases rest with
    | nil => rfl
    | cons c rest => simp [Json.scanWhole, hrest c rfl]
  · have hdigits := scanDigits_append h.ne_nil h.digit hrest
    obtain ⟨hne, -, -⟩ := h
    cases digits with
    | nil => exact absurd rfl hne
    | cons c digits =>
      have hc : c ≠ '0' := fun hc => hzero (congrArg some hc)
      rw [List.cons_append] at hdigits ⊢
      rw [Json.scanWhole]
      · exact hdigits
      · rintro rest' ⟨⟩
        exact hc rfl

/-- A number without sign, point and exponent. -/
lemma IsWhole.scanUnsigned {digits rest : List Char} (h : IsWhole digits) (hrest : Ends rest) :
    Json.scanUnsigned false (digits ++ rest) = .ok (⟨false, digits, [], none⟩, rest) := by
  have hfraction : scanFraction rest = .ok ([], rest) := by
    unfold scanFraction
    split
    · exact absurd rfl (hrest _ rfl).2.1
    · rfl
  have hexponent : scanExponent rest = .ok (none, rest) := by
    unfold scanExponent
    split
    · exact absurd rfl (hrest _ rfl).2.2.1
    · exact absurd rfl (hrest _ rfl).2.2.2
    · rfl
  rw [Json.scanUnsigned, h.scanWhole fun c hc => (hrest c hc).1]
  simp only [bind, Except.bind, hfraction, hexponent]
  rfl

/-! ### The digits of a number -/

/-- The digits of a number are a whole part, for a zero does not lead unless it is alone. -/
lemma isWhole_toDigits (n : Nat) : IsWhole (Nat.toDigits 10 n) := by
  refine ⟨Nat.toDigits_ne_nil, fun c hc => ?_, ?_⟩
  · have hdigit := Nat.isDigit_of_mem_toDigits (by decide) (by decide) hc
    simpa only [Char.isDigit, isDigit, Char.le_def] using hdigit
  · induction n using Nat.strongRecOn with
    | ind n ih =>
      rcases Nat.lt_or_ge n 10 with hsmall | hlarge
      · rw [Nat.toDigits_of_lt_base hsmall, List.head?_cons, Option.some.injEq]
        exact congrArg fun c => [c]
      · -- A leading zero would be the leading zero of the number without its last digit.
        intro hhead
        rw [Nat.toDigits_of_base_le (by decide) hlarge] at hhead
        have hfront : (Nat.toDigits 10 (n / 10)).head? = some '0' := by
          obtain ⟨c, digits, hdigits⟩ := List.exists_cons_of_ne_nil
            (Nat.toDigits_ne_nil : Nat.toDigits 10 (n / 10) ≠ [])
          rw [hdigits] at hhead ⊢
          exact hhead
        have hzero := congrArg (Nat.ofDigitChars 10 · 0) (ih (n / 10) (by omega) hfront)
        rw [Nat.ofDigitChars_ten_toDigits] at hzero
        have hquotient : n / 10 = 0 := hzero
        omega

/-- Further digits make a number no smaller. -/
lemma le_ofDigitChars (digits : List Char) (k : Nat) : k ≤ Nat.ofDigitChars 10 digits k := by
  induction digits generalizing k with
  | nil => exact Nat.le_refl k
  | cons c digits ih =>
    rw [Nat.ofDigitChars_cons]
    have hle := ih (10 * k + (c.toNat - '0'.toNat))
    omega

/-- Digits are gathered as long as their number fits a word. -/
lemma foldl_push {digits : List Char} {k taken : Nat}
    (h : Nat.ofDigitChars 10 digits k ≤ maxWord) :
    digits.foldl Gathered.push ⟨k, taken, 0, false⟩ =
      ⟨Nat.ofDigitChars 10 digits k, taken + digits.length, 0, false⟩ := by
  induction digits generalizing k taken with
  | nil => rfl
  | cons c digits ih =>
    rw [Nat.ofDigitChars_cons] at h
    have hle := Nat.le_trans (le_ofDigitChars digits _) h
    have hpush : Gathered.push ⟨k, taken, 0, false⟩ c =
        ⟨10 * k + (c.toNat - '0'.toNat), taken + 1, 0, false⟩ := by
      rw [Nat.mul_comm 10 k] at hle ⊢
      have hfits : ¬ (false || decide (maxWord < k * 10 + digitValue c)) = true := by
        rw [Bool.false_or, decide_eq_true_eq]
        exact Nat.not_lt.mpr hle
      exact if_neg hfits
    rw [List.foldl_cons, hpush, ih h, Nat.ofDigitChars_cons, List.length_cons]
    congr 1
    omega

/-- A printed number that fits a word has its value. -/
lemma value_toDigits {n : Nat} (h : n ≤ maxWord) :
    (⟨false, Nat.toDigits 10 n, [], none⟩ : Numeral).value = .ok (.natural n) := by
  have hgather : gather 0 (Nat.toDigits 10 n) =
      ⟨n, 0 + (Nat.toDigits 10 n).length, 0, false⟩ := by
    have hfits : Nat.ofDigitChars 10 (Nat.toDigits 10 n) 0 ≤ maxWord := by
      rwa [Nat.ofDigitChars_ten_toDigits]
    rw [gather, foldl_push hfits, Nat.ofDigitChars_ten_toDigits]
  simp only [Numeral.value, hgather]
  rfl

/-- A printed number is one token. -/
lemma Spells.printNatural (n : Nat) :
    Spells (Json.printNatural n) [.number ⟨false, Nat.toDigits 10 n, [], none⟩] := by
  have hwhole := isWhole_toDigits n
  rw [Json.printNatural]
  generalize Nat.toDigits 10 n = digits at hwhole
  refine ⟨fun fuel rest hrest => ?_, List.length_pos_iff.mpr hwhole.ne_nil⟩
  have hscan := hwhole.scanUnsigned hrest
  obtain ⟨hne, hdigit, -⟩ := hwhole
  cases digits with
  | nil => exact absurd rfl hne
  | cons c digits =>
    have hc := hdigit c List.mem_cons_self
    have hfuel : [Token.number ⟨false, c :: digits, [], none⟩].length + fuel = fuel + 1 := by
      rw [List.length_singleton, Nat.add_comm]
    rw [hfuel, List.cons_append, tokensWithin_succ (isBlank_of_isDigit hc),
      tokenFrom_of_isDigit hc, numberToken, ← List.cons_append, hscan]
    rfl

/-! ## Objects -/

/-- The tokens of entries, with commas between them. -/
def commaTokens : List (List Token) → List Token
  | [] => []
  | ts :: tss => ts ++ tss.flatMap (.comma :: ·)

/-- All texts but the first have a comma before them. -/
lemma commaSeparated_cons (text : List Char) (texts : List (List Char)) :
    commaSeparated (text :: texts) = text ++ texts.flatMap (',' :: ·) := by
  induction texts generalizing text with
  | nil => exact (List.append_nil text).symm
  | cons text' texts ih =>
    rw [commaSeparated, ih, List.flatMap_cons, List.cons_append]
    exact fun h => by cases h

/-- A brace that closes an object ends a number. -/
lemma ends_closeBrace (rest : List Char) : Ends ('\x7d' :: rest) := ends_cons (by decide)

/-- A number ends at a comma. -/
lemma ends_comma (rest : List Char) : Ends (',' :: rest) := ends_cons (by decide)

/-- The entries behind the first one, and the brace that closes the object. -/
lemma Spells.closed {texts : List (List Char)} {tss : List (List Token)}
    (h : List.Forall₂ Spells texts tss) :
    Spells (texts.flatMap (',' :: ·) ++ ['\x7d']) (tss.flatMap (.comma :: ·) ++ [.closeBrace]) ∧
      ∀ rest, Ends (texts.flatMap (',' :: ·) ++ ['\x7d'] ++ rest) := by
  induction h with
  | nil => exact ⟨Spells.nil.cons '\x7d' [] rfl fun _ => rfl, ends_closeBrace⟩
  | @cons text ts texts tss hhead _ ih =>
    obtain ⟨hspells, hends⟩ := ih
    refine ⟨?_, fun rest => ends_comma _⟩
    rw [List.flatMap_cons, List.flatMap_cons, List.append_assoc, List.append_assoc,
      List.cons_append, List.cons_append]
    exact (hhead.append hspells fun rest _ => hends rest).cons ',' [] rfl fun _ => rfl

/-- The tokens of texts in braces. -/
lemma Spells.braces {texts : List (List Char)} {tss : List (List Token)}
    (h : List.Forall₂ Spells texts tss) :
    Spells ('\x7b' :: commaSeparated texts ++ ['\x7d'])
      (.openBrace :: (commaTokens tss ++ [.closeBrace])) := by
  cases h with
  | nil => exact (Spells.nil.cons '\x7d' [] rfl fun _ => rfl).cons '\x7b' [] rfl fun _ => rfl
  | cons hhead htail =>
    obtain ⟨hspells, hends⟩ := Spells.closed htail
    rw [commaSeparated_cons, commaTokens, List.append_assoc, List.cons_append, List.append_assoc]
    exact (hhead.append hspells fun rest _ => hends rest).cons '\x7b' [] rfl fun _ => rfl

/-- The tokens of an entry. -/
lemma Spells.printEntry {text : List Char} {ts : List Token} (h : Spells text ts) (name : String) :
    Spells (Json.printEntry name text) (.string (piecesOf name) :: .colon :: ts) :=
  (h.cons ':' [] rfl fun _ => rfl).printText name

end Admittance.Json
