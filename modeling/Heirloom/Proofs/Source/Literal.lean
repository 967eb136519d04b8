import Heirloom.Source.Literal
import Heirloom.Text.Quoted
import Mathlib.Data.Bool.AllAny
import Mathlib.Tactic.SplitIfs

/-!
# Literals read back

What is written for a text, a character or a number is read as a literal of it,
whatever characters it has and whatever follows, as long as what follows does
not go on with the same word.
-/

namespace Heirloom
namespace Source

/-! ## Escapes -/

/-- A hexadecimal digit is read as its value, and it is no other part of a code
point. -/
theorem digitValue?_digitChar :
    ∀ value < 16, digitValue? value.digitChar = some value ∧
      value.digitChar ≠ '_' ∧ value.digitChar ≠ '\x7d' := by
  decide

theorem readCode_digitChar
    {value count : Nat}
    (isDigit : value < 16)
    (more : count < 6)
    (code : Nat)
    (rest : List Char) :
    readCode count code (value.digitChar :: rest) =
      readCode (count + 1) (16 * code + value) rest := by
  obtain ⟨isValue, noUnderscore, noBrace⟩ := digitValue?_digitChar value isDigit
  simp [readCode, isValue, noUnderscore, noBrace, more]

/-- The digits of a code point are read one after the other. -/
theorem readCode_toDigits
    (code : Nat)
    (short : (Nat.toDigits 16 code).length ≤ 6)
    (rest : List Char) :
    readCode 0 0 (Nat.toDigits 16 code ++ rest) =
      readCode (Nat.toDigits 16 code).length code rest := by
  induction code using Nat.strongRecOn generalizing rest with
  | _ code inductionHypothesis =>
      by_cases small : code < 16
      · rw [Nat.toDigits_of_lt_base small]
        simpa using readCode_digitChar small (by omega) 0 rest
      · have digits := Nat.toDigits_of_base_le (b := 16) (by omega) (Nat.not_lt.mp small)
        rw [digits, List.length_append, List.length_singleton] at short
        have first := inductionHypothesis (code / 16) (by omega) (by omega)
          ((code % 16).digitChar :: rest)
        rw [digits, List.append_assoc, List.singleton_append, first,
          readCode_digitChar (Nat.mod_lt _ (by omega)) (by omega), List.length_append,
          List.length_singleton, Nat.div_add_mod]

/-- The escape of a code point is read as its character. -/
theorem readEscape_codeEscape (c : Char) (rest : List Char) :
    readEscape .text (['u', '\x7b'] ++ Nat.toDigits 16 c.toNat ++ ['\x7d'] ++ rest) =
      some (c, rest) := by
  have valid : c.toNat.isValidChar := c.valid
  have short : (Nat.toDigits 16 c.toNat).length ≤ 6 := by
    rw [Nat.length_toDigits_le_iff (by omega) (by omega)]
    unfold Nat.isValidChar at valid
    omega
  have written : 0 < (Nat.toDigits 16 c.toNat).length := Nat.length_toDigits_pos
  have reads : readCode 0 0 (Nat.toDigits 16 c.toNat ++ '\x7d' :: rest) = some (c, rest) := by
    rw [readCode_toDigits _ short]
    simp [readCode, written, valid, Char.ofNat_toNat]
  simp [readEscape, reads]

/-- A character is written as an escape of it, or as itself when that is not
taken for anything else. -/
theorem escape_cases (quote c : Char) :
    (∃ code, Text.Quoted.escape quote c = '\\' :: code ∧
        (quote = '"' ∨ quote = '\'' → ∀ rest, readEscape .text (code ++ rest) = some (c, rest))) ∨
      (Text.Quoted.escape quote c = [c] ∧ c ≠ '\\' ∧ c ≠ quote ∧ c ≠ '\r' ∧ c ≠ '\n') := by
  unfold Text.Quoted.escape
  split_ifs with isNull isTab isReturn isFeed isQuote isHidden
  · exact .inl ⟨_, rfl, fun _ rest => by rw [eq_of_beq isNull]; rfl⟩
  · exact .inl ⟨_, rfl, fun _ rest => by rw [eq_of_beq isTab]; rfl⟩
  · exact .inl ⟨_, rfl, fun _ rest => by rw [eq_of_beq isReturn]; rfl⟩
  · exact .inl ⟨_, rfl, fun _ rest => by rw [eq_of_beq isFeed]; rfl⟩
  · refine .inl ⟨_, rfl, fun quotes rest => ?_⟩
    simp only [Bool.or_eq_true, beq_iff_eq] at isQuote
    rcases isQuote with rfl | rfl
    · rfl
    · rcases quotes with rfl | rfl <;> rfl
  · exact .inl ⟨_, rfl, fun _ rest => readEscape_codeEscape c rest⟩
  · simp only [Bool.or_eq_true, beq_iff_eq, not_or] at isReturn isFeed isQuote
    exact .inr ⟨rfl, isQuote.1, isQuote.2, isReturn, isFeed⟩

/-! ## Texts -/

section Texts

variable
  {kind : TextKind}
  {fuel : Nat}
  {c : Char}
  {code rest : List Char}

theorem readCooked_escape
    (reads : readEscape kind code = some (c, rest)) :
    readCooked kind (fuel + 1) ('\\' :: code) =
      (readCooked kind fuel rest).map fun (chars, rest) => (c :: chars, rest) := by
  rw [readCooked, reads, Option.bind_some]
  · rintro after rfl
    cases reads
  · rintro after rfl
    cases reads

theorem readCooked_plain
    (noQuote : c ≠ '"')
    (noReturn : c ≠ '\r')
    (noEscape : c ≠ '\\') :
    readCooked .text (fuel + 1) (c :: rest) =
      (readCooked .text fuel rest).map fun (chars, rest) => (c :: chars, rest) := by
  rw [readCooked, TextKind.allows, if_pos rfl]
  · exact noQuote
  · exact fun _ same _ => noReturn same
  · exact noReturn
  · exact fun _ same _ => noEscape same
  · exact fun _ same _ => noEscape same
  · exact noEscape

end Texts

/-- Written characters are read up to the quotation mark after them. -/
theorem readCooked_encoded
    {chars : List Char}
    {fuel : Nat}
    (enough : chars.length < fuel)
    (rest : List Char) :
    readCooked .text fuel (chars.flatMap (Text.Quoted.escape '"') ++ '"' :: rest) =
      some (chars, rest) := by
  induction chars generalizing fuel with
  | nil =>
      obtain ⟨fuel, rfl⟩ := Nat.exists_eq_add_of_lt enough
      simp [readCooked]
  | cons c chars inductionHypothesis =>
      obtain ⟨fuel, rfl⟩ : ∃ less, fuel = less + 1 := ⟨fuel - 1, by simp at enough; omega⟩
      have others : readCooked .text fuel _ = _ := inductionHypothesis (by simpa using enough)
      rw [List.flatMap_cons, List.append_assoc]
      rcases escape_cases '"' c with ⟨code, same, reads⟩ | ⟨same, noEscape, noQuote, noReturn, -⟩
      · rw [same, List.cons_append, readCooked_escape (reads (.inl rfl) _), others]
        rfl
      · rw [same, List.singleton_append, readCooked_plain noQuote noReturn noEscape, others]
        rfl

theorem length_le_length_flatMap_escape (quote : Char) (chars : List Char) :
    chars.length ≤ (chars.flatMap (Text.Quoted.escape quote)).length := by
  induction chars with
  | nil => exact Nat.le_refl 0
  | cons c chars inductionHypothesis =>
      have some : 1 ≤ (Text.Quoted.escape quote c).length := by
        rcases escape_cases quote c with ⟨code, same, -⟩ | ⟨same, -⟩ <;> simp [same]
      rw [List.flatMap_cons, List.length_append, List.length_cons]
      omega

/-- What follows a literal does not go on as its suffix. -/
def EndsLiteral (rest : List Char) : Prop :=
  ∀ c ∈ rest.head?, Text.isIdentStart c = false

theorem EndsLiteral.skipSuffix
    {rest : List Char}
    (ends : EndsLiteral rest) :
    skipSuffix rest = rest := by
  unfold Source.skipSuffix
  cases rest with
  | nil => rfl
  | cons c rest => simp [ends c rfl]

/-- A written text is read as itself. -/
theorem readLiteral_text
    (text : String)
    {rest : List Char}
    (ends : EndsLiteral rest) :
    readLiteral ((Text.Quoted.text text).toList ++ rest) = some (.text text, rest) := by
  have enough : text.toList.length <
      (text.toList.flatMap (Text.Quoted.escape '"') ++ '"' :: rest).length + 1 := by
    have := length_le_length_flatMap_escape '"' text.toList
    rw [List.length_append]
    omega
  have reads := readCooked_encoded enough rest
  have written : (Text.Quoted.text text).toList ++ rest =
      '"' :: (text.toList.flatMap (Text.Quoted.escape '"') ++ '"' :: rest) := by
    simp [Text.Quoted.text, Text.Quoted.encode]
  unfold readLiteral
  rw [written, readText, reads]
  simp [ends.skipSuffix]

/-! ## Characters -/

/-- A written character is read as itself. -/
theorem readLiteral_char
    (c : Char)
    {rest : List Char}
    (ends : EndsLiteral rest) :
    readLiteral ((Text.Quoted.char c).toList ++ rest) = some (.char c, rest) := by
  have reads : readQuotedChar .text (Text.Quoted.escape '\'' c ++ '\'' :: rest) =
      some (c, rest) := by
    rcases escape_cases '\'' c with ⟨code, same, reads⟩ | ⟨same, noEscape, -⟩
    · simp [readQuotedChar, same, reads]
    · simp [readQuotedChar, same, TextKind.allows]
  have written : (Text.Quoted.char c).toList ++ rest =
      '\'' :: (Text.Quoted.escape '\'' c ++ '\'' :: rest) := by
    simp [Text.Quoted.char, Text.Quoted.encode]
  rw [written, readLiteral, readText]
  · simp [reads, ends.skipSuffix]
  all_goals simp

/-! ## Numbers -/

/-- Characters that make something else of the word or number before them. -/
def joiners : List Char := ['.', '#', '"', '\'']

/-- What follows a word or a number does not go on with it. -/
def EndsWord (rest : List Char) : Prop :=
  ∀ c ∈ rest.head?, Text.isIdentStart c = false ∧ Text.isIdentContinue c = false ∧ c ∉ joiners

theorem EndsWord.endsLiteral
    {rest : List Char}
    (ends : EndsWord rest) :
    EndsLiteral rest :=
  fun c isHead => (ends c isHead).1

theorem EndsWord.endNumber
    {rest : List Char}
    (ends : EndsWord rest) :
    endNumber rest = some rest := by
  unfold Source.endNumber
  rw [ends.endsLiteral.skipSuffix]
  cases rest with
  | nil => rfl
  | cons c rest => simp [(ends c rfl).2.1]

/-- A digit is read as its value. -/
theorem digitValue?_of_isDigit
    {c : Char}
    (digit : c.isDigit) :
    ∃ value < 10, digitValue? c = some value ∧ value = c.toNat - '0'.toNat := by
  refine ⟨c.toNat - '0'.toNat, ?_, if_pos digit, rfl⟩
  have below : c.toNat ≤ '9'.toNat := (Bool.and_eq_true_iff.mp digit).2 |> of_decide_eq_true
  have : '9'.toNat = '0'.toNat + 9 := rfl
  omega

/-- A character that ends a word is neither a digit nor an underscore. -/
theorem digitValue?_of_ends
    {c : Char}
    (ends : Text.isIdentContinue c = false) :
    digitValue? c = none ∧ c.isDigit = false ∧ c ≠ '_' := by
  simp only [Text.isIdentContinue, Char.isAlphanum, Bool.or_eq_false_iff, beq_eq_false_iff_ne]
    at ends
  obtain ⟨⟨⟨noLetter, noDigit⟩, noUnderscore⟩, -⟩ := ends
  refine ⟨?_, noDigit, noUnderscore⟩
  obtain ⟨notUpper, notLower⟩ := Bool.or_eq_false_iff.mp noLetter
  unfold digitValue?
  have noLower : ¬ ('a' ≤ c ∧ c ≤ 'f') := by
    rintro ⟨low, high⟩
    have isLower : c.isLower = true :=
      Bool.and_eq_true_iff.mpr
        ⟨decide_eq_true low, decide_eq_true (Char.le_trans high (by decide : 'f' ≤ 'z'))⟩
    rw [notLower] at isLower
    cases isLower
  have noUpper : ¬ ('A' ≤ c ∧ c ≤ 'F') := by
    rintro ⟨low, high⟩
    have isUpper : c.isUpper = true :=
      decide_eq_true ⟨low, Char.le_trans high (by decide : 'F' ≤ 'Z')⟩
    rw [notUpper] at isUpper
    cases isUpper
  simp [noDigit, noLower, noUpper]

section Numbers

variable
  {digits rest : List Char}

theorem readMantissa_digits
    (all : ∀ c ∈ digits, c.isDigit)
    (ends : EndsWord rest) :
    readMantissa false (digits ++ rest) = some (false, rest) := by
  induction digits with
  | nil =>
      cases rest with
      | nil => rfl
      | cons c rest =>
          obtain ⟨-, stops, noJoiner⟩ := ends c rfl
          obtain ⟨-, noDigit, noUnderscore⟩ := digitValue?_of_ends stops
          have noPoint : c ≠ '.' := fun same => noJoiner (by simp [same, joiners])
          simp [readMantissa, noDigit, noUnderscore, noPoint]
  | cons digit digits inductionHypothesis =>
      obtain ⟨isDigit, others⟩ := List.forall_mem_cons.mp all
      simpa [readMantissa, isDigit] using inductionHypothesis others

/-- Digits alone are no number with a point or an exponent. -/
theorem readFraction_digits
    (all : ∀ c ∈ digits, c.isDigit)
    (ends : EndsWord rest) :
    readFraction (digits ++ rest) = none := by
  unfold readFraction
  rw [readMantissa_digits all ends]
  cases rest with
  | nil => exact ite_self none
  | cons c rest =>
      obtain ⟨-, stops, -⟩ := ends c rfl
      have noExponent : c ≠ 'e' ∧ c ≠ 'E' := by
        constructor <;> (rintro rfl; exact absurd stops (by decide))
      simp [noExponent]

theorem readDigits_digits
    {isEmpty : Bool}
    (written : digits = [] → isEmpty = false)
    (all : ∀ c ∈ digits, c.isDigit)
    (ends : EndsWord rest) :
    readDigits 10 isEmpty (digits ++ rest) = some rest := by
  induction digits generalizing isEmpty with
  | nil =>
      rw [written rfl]
      cases rest with
      | nil => rfl
      | cons c rest =>
          obtain ⟨noValue, -, noUnderscore⟩ := digitValue?_of_ends (ends c rfl).2.1
          simp [readDigits, noValue, noUnderscore]
  | cons digit digits inductionHypothesis =>
      obtain ⟨isDigit, others⟩ := List.forall_mem_cons.mp all
      obtain ⟨value, small, isValue, -⟩ := digitValue?_of_isDigit isDigit
      have noUnderscore : digit ≠ '_' := by
        rintro rfl
        cases isDigit
      simp [readDigits, noUnderscore, isValue, small, inductionHypothesis (fun _ => rfl) others]

theorem integerValue?_digits
    (all : ∀ c ∈ digits, c.isDigit)
    (value : Nat) :
    integerValue? 10 value digits = some (Nat.ofDigitChars 10 digits value) := by
  induction digits generalizing value with
  | nil => rfl
  | cons digit digits inductionHypothesis =>
      obtain ⟨isDigit, others⟩ := List.forall_mem_cons.mp all
      obtain ⟨first, small, isValue, same⟩ := digitValue?_of_isDigit isDigit
      have noMark : digit ≠ '_' ∧ digit ≠ '.' ∧ digit ≠ 'e' ∧ digit ≠ 'E' := by
        refine ⟨?_, ?_, ?_, ?_⟩ <;> (rintro rfl; cases isDigit)
      rw [integerValue?, Nat.ofDigitChars_cons, ← same]
      simp [noMark, isValue, small, inductionHypothesis others]

/-- Digits name no other base. -/
theorem splitBase_digits
    (written : digits ≠ [])
    (all : ∀ c ∈ digits, c.isDigit)
    (ends : EndsWord rest) :
    splitBase (digits ++ rest) = (10, digits ++ rest) := by
  have letters :
      ∀ mark ∈ ['x', 'o', 'b'], mark.isDigit = false ∧ Text.isIdentContinue mark = true :=
    List.all_iff_forall_prop.mp (by decide)
  have second : ∀ mark ∈ ['x', 'o', 'b'], ∀ first after,
      digits ++ rest ≠ first :: mark :: after := by
    intro mark isMark first after same
    obtain ⟨noDigit, continues⟩ := letters mark isMark
    match digits with
    | [digit] =>
        obtain ⟨-, rfl⟩ := List.cons.inj same
        rw [(ends mark rfl).2.1] at continues
        cases continues
    | _ :: next :: _ =>
        obtain ⟨-, tails⟩ := List.cons.inj same
        obtain ⟨rfl, -⟩ := List.cons.inj tails
        rw [all next (by simp)] at noDigit
        cases noDigit
  unfold splitBase
  split
  · next same => exact absurd same (second _ (by simp) _ _)
  · next same => exact absurd same (second _ (by simp) _ _)
  · next same => exact absurd same (second _ (by simp) _ _)
  · rfl

end Numbers

/-- The characters that can start a literal other than a number. -/
def literalStarts : List Char := ['"', '\'', 'r', 'b', 'c']

theorem readLiteral_of_not_mem
    {first : Char}
    (others : first ∉ literalStarts)
    (rest : List Char) :
    readLiteral (first :: rest) = readNumber (first :: rest) := by
  simp only [literalStarts, List.mem_cons, List.not_mem_nil, or_false, not_or] at others
  have noText : readText (first :: rest) = none := by
    unfold readText
    split <;> simp_all
  simp [readLiteral, noText, others]

/-- A number is written with a digit first. -/
theorem exists_digit_cons (value : Nat) :
    ∃ first others, (toString value).toList = first :: others ∧ first.isDigit := by
  rw [Nat.toString_eq_ofList_toDigits, String.toList_ofList]
  have all : ∀ c ∈ Nat.toDigits 10 value, c.isDigit := fun c mem =>
    Nat.isDigit_of_mem_toDigits (by omega) (by omega) mem
  cases same : Nat.toDigits 10 value with
  | nil => exact absurd same Nat.toDigits_ne_nil
  | cons first others => exact ⟨first, others, rfl, all first (by simp [same])⟩

/-- The digits of a number are read as the number. -/
theorem readLiteral_number
    (value : Nat)
    {rest : List Char}
    (ends : EndsWord rest) :
    readLiteral ((toString value).toList ++ rest) = some (.integer value, rest) := by
  have all : ∀ c ∈ Nat.toDigits 10 value, c.isDigit := fun c mem =>
    Nat.isDigit_of_mem_toDigits (by omega) (by omega) mem
  have written : Nat.toDigits 10 value ≠ [] := Nat.toDigits_ne_nil
  have reads : readNumber (Nat.toDigits 10 value ++ rest) = some (.integer value, rest) := by
    simp [readNumber, splitBase_digits written all ends, readFraction_digits all ends,
      readDigits_digits (fun none => absurd none written) all ends, ends.endNumber,
      integerValue?_digits all, Nat.ofDigitChars_ten_toDigits]
  obtain ⟨first, others, same, isDigit⟩ := exists_digit_cons value
  rw [← reads, ← String.toList_ofList (l := Nat.toDigits 10 value),
    ← Nat.toString_eq_ofList_toDigits, same]
  refine readLiteral_of_not_mem (fun starts => ?_) _
  have noDigit : ∀ start ∈ literalStarts, start.isDigit = false :=
    List.all_iff_forall_prop.mp (by decide)
  rw [noDigit first starts] at isDigit
  contradiction

end Source
end Heirloom
