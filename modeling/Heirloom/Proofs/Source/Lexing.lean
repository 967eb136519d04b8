import Heirloom.Proofs.Source.Literal
import Heirloom.Proofs.Source.Names

/-!
# Lexemes read back

A name, a literal, a mark, a delimiter or a blank is scanned as itself when
what follows does not go on with it. Scanning a text piece by piece gives the
tokens whose lexemes the pieces are.
-/

namespace Heirloom
namespace Source

/-! ## Classes of characters -/

/-- Marks, quotes and delimiters are no part of names. -/
def punctuation : List Char := '"' :: markChars ++ "()[]\x7b\x7d".toList

theorem not_ident_of_punctuation :
    ∀ c ∈ punctuation, Text.isIdentStart c = false ∧ Text.isIdentContinue c = false :=
  Text.not_ident_of_ascii (by decide)

theorem not_separator_of_punctuation :
    ∀ c ∈ punctuation, isSeparator c = false :=
  List.all_iff_forall_prop.mp (by decide)

theorem not_mem_punctuation
    {c : Char}
    (starts : Text.isIdentStart c) :
    c ∉ punctuation := by
  intro mem
  rw [(not_ident_of_punctuation c mem).1] at starts
  contradiction

theorem joiners_subset_punctuation : joiners ⊆ punctuation := by decide

theorem not_mem_joiners
    {c : Char}
    (continues : Text.isIdentContinue c) :
    c ∉ joiners := by
  intro mem
  rw [(not_ident_of_punctuation c (joiners_subset_punctuation mem)).2] at continues
  contradiction

/-- What is false of the ten digits is false of all digits. -/
theorem eq_false_of_isDigit
    {c : Char}
    {test : Char → Bool}
    (isDigit : c.isDigit)
    (none : ∀ value < 10, test (Char.ofNat ('0'.toNat + value)) = false) :
    test c = false := by
  obtain ⟨value, small, -, same⟩ := digitValue?_of_isDigit isDigit
  have low : '0'.toNat ≤ c.toNat := of_decide_eq_true (Bool.and_eq_true_iff.mp isDigit).1
  have isNone := none value small
  rwa [same, Nat.add_sub_cancel' low, Char.ofNat_toNat] at isNone

/-- No name starts with a digit. -/
theorem not_isDigit_of_isIdentStart
    {c : Char}
    (starts : Text.isIdentStart c) :
    c.isDigit = false := by
  refine Bool.eq_false_iff.mpr fun isDigit => ?_
  have ascii : c.toNat < 0x80 := by
    have atMost : c.toNat ≤ '9'.toNat := of_decide_eq_true (Bool.and_eq_true_iff.mp isDigit).2
    exact Nat.lt_of_le_of_lt atMost (by decide)
  have noLetter : (c.isAlpha || c == '_') = false :=
    @eq_false_of_isDigit c (fun c => c.isAlpha || c == '_') isDigit (by decide)
  rw [(Text.isIdent_of_ascii ascii).1, noLetter] at starts
  cases starts

/-- Whether no character lies in a range of both sets. -/
def areApart (ranges others : Text.Ranges) : Bool :=
  ranges.all fun range => others.all fun other => range.2 < other.1 || other.2 < range.1

theorem contains_eq_false_of_apart
    {ranges others : Text.Ranges}
    {c : Char}
    (apart : areApart ranges others)
    (holds : ranges.contains c) :
    others.contains c = false := by
  simp only [areApart, Text.Ranges.contains, List.all_eq_true, List.any_eq_true, List.any_eq_false,
    Bool.and_eq_true, Bool.or_eq_true, decide_eq_true_eq, not_and] at *
  obtain ⟨range, mem, low, high⟩ := holds
  intro other memOther atLeast
  have := apart range mem other memOther
  omega

/-- Every character that can start a name, as ranges. -/
def nameStarts : Text.Ranges :=
  (0x41, 0x5A) :: (0x5F, 0x5F) :: (0x61, 0x7A) :: Text.identStartRanges

theorem contains_nameStarts
    {c : Char}
    (starts : Text.isIdentStart c) :
    nameStarts.contains c := by
  simp only [Text.isIdentStart, Bool.or_eq_true, beq_iff_eq] at starts
  simp only [nameStarts, Text.Ranges.contains_cons, Bool.or_eq_true, Bool.and_eq_true,
    decide_eq_true_eq]
  rcases starts with (letter | rfl) | listed
  · rcases Bool.or_eq_true_iff.mp letter with upper | lower
    · exact .inl (of_decide_eq_true upper)
    · obtain ⟨low, high⟩ := Bool.and_eq_true_iff.mp lower
      exact .inr (.inr (.inl ⟨of_decide_eq_true low, of_decide_eq_true high⟩))
  · exact .inr (.inl (by decide))
  · exact .inr (.inr (.inr listed))

/-- No name starts with a separator. -/
theorem not_separator_of_isIdentStart
    {c : Char}
    (starts : Text.isIdentStart c) :
    isSeparator c = false := by
  have apart : areApart nameStarts ((0x200E, 0x200F) :: Text.blankRanges) := by decide +kernel
  have notBlank := contains_eq_false_of_apart apart (contains_nameStarts starts)
  rw [Text.Ranges.contains_cons, Bool.or_eq_false_iff] at notBlank
  have noMark : c.toNat ≠ 0x200E ∧ c.toNat ≠ 0x200F := by
    constructor <;> (intro same; simp [same] at notBlank)
  rw [isSeparator, Text.isBlank, notBlank.2, beq_false_of_ne noMark.1, beq_false_of_ne noMark.2]
  rfl

/-! ## Names -/

section Names

variable
  {first : Char}
  {others word plain rest : List Char}

/-- After the first characters of a name comes no joiner. -/
theorem head_not_mem_joiners
    (continues : others.all Text.isIdentContinue)
    (ends : EndsWord rest) :
    ∀ c ∈ (others ++ rest).head?, c ∉ joiners := by
  cases others with
  | nil => exact fun c isHead => (ends c isHead).2.2
  | cons c others =>
      rintro _ ⟨⟩
      exact not_mem_joiners (Bool.and_eq_true_iff.mp continues).1

/-- A word with a joiner after it is no start of a name. -/
theorem not_isPrefix_of_joiner
    {joiner : Char}
    {more : List Char}
    (isJoiner : joiner ∈ joiners)
    (isWord : word.all Text.isIdentContinue)
    (continues : plain.all Text.isIdentContinue)
    (ends : EndsWord rest) :
    ¬ (word ++ joiner :: more) <+: (plain ++ rest) := by
  induction word generalizing plain with
  | nil =>
      rintro ⟨after, same⟩
      refine head_not_mem_joiners continues ends joiner ?_ isJoiner
      rw [← same]
      rfl
  | cons c word inductionHypothesis =>
      obtain ⟨isContinue, others⟩ := Bool.and_eq_true_iff.mp isWord
      cases plain with
      | nil =>
          rintro ⟨after, rfl⟩
          rw [(ends c rfl).2.1] at isContinue
          contradiction
      | cons other plain =>
          intro begins
          obtain ⟨-, begins⟩ := List.cons_prefix_cons.mp begins
          exact inductionHypothesis others (Bool.and_eq_true_iff.mp continues).2 begins

theorem readRawText_word
    (kind : TextKind)
    (continues : others.all Text.isIdentContinue)
    (ends : EndsWord rest) :
    readRawText kind (others ++ rest) = none := by
  have noJoiner := head_not_mem_joiners continues ends
  unfold readRawText
  cases same : others ++ rest with
  | nil => rfl
  | cons c after =>
      have noJoiner := noJoiner c (by simp [same])
      simp only [joiners, List.mem_cons, List.not_mem_nil, or_false, not_or] at noJoiner
      simp [noJoiner]

theorem readText_word
    (starts : Text.isIdentStart first)
    (continues : others.all Text.isIdentContinue)
    (ends : EndsWord rest) :
    readText (first :: (others ++ rest)) = none := by
  have noQuote : ∀ after, others ++ rest ≠ '"' :: after := by
    intro after same
    exact head_not_mem_joiners continues ends '"' (by simp [same]) (by decide)
  have raw : ∀ kind after, others ++ rest = 'r' :: after → readRawText kind after = none := by
    intro kind after same
    cases others with
    | nil =>
        rw [List.nil_append] at same
        obtain ⟨-, stops, -⟩ := ends 'r' (by simp [same])
        exact absurd stops (by decide)
    | cons c others =>
        obtain ⟨-, rfl⟩ := List.cons.inj same
        exact readRawText_word kind (Bool.and_eq_true_iff.mp continues).2 ends
  unfold readText
  split
  · next same =>
      obtain ⟨rfl, -⟩ := List.cons.inj same
      exact absurd (by decide) (not_mem_punctuation starts)
  · next same =>
      obtain ⟨-, rfl⟩ := List.cons.inj same
      rw [readRawText_word _ continues ends, Option.map_none]
  · next same => exact absurd (List.cons.inj same).2 (noQuote _)
  · next same => rw [raw _ _ (List.cons.inj same).2, Option.map_none]
  · next same => exact absurd (List.cons.inj same).2 (noQuote _)
  · next same => rw [raw _ _ (List.cons.inj same).2, Option.map_none]
  · rfl

/-- Every number starts with a digit. -/
theorem readNumber_of_not_isDigit
    (noDigit : first.isDigit = false) :
    readNumber (first :: rest) = none := by
  have base : splitBase (first :: rest) = (10, first :: rest) := by
    unfold splitBase
    split
    · next same =>
        obtain ⟨rfl, -⟩ := List.cons.inj same
        cases noDigit
    · next same =>
        obtain ⟨rfl, -⟩ := List.cons.inj same
        cases noDigit
    · next same =>
        obtain ⟨rfl, -⟩ := List.cons.inj same
        cases noDigit
    · rfl
  have noFraction : readFraction (first :: rest) = none := by
    simp [readFraction, noDigit]
  have noDigits : readDigits 10 true (first :: rest) = none := by
    have large : ∀ value, digitValue? first = some value → ¬ value < 10 := by
      intro value isValue
      simp only [digitValue?, noDigit, Bool.false_eq_true, if_false] at isValue
      split_ifs at isValue <;> (cases isValue; omega)
    cases isValue : digitValue? first with
    | none => simp [readDigits, isValue]
    | some value => simp [readDigits, isValue, large value isValue]
  simp [readNumber, base, noFraction, noDigits]

/-- What starts as a name is no literal. -/
theorem readLiteral_word
    (starts : Text.isIdentStart first)
    (continues : others.all Text.isIdentContinue)
    (ends : EndsWord rest) :
    readLiteral (first :: (others ++ rest)) = none := by
  have noQuote : ∀ after, first :: (others ++ rest) ≠ 'b' :: '\'' :: after := by
    intro after same
    exact head_not_mem_joiners continues ends '\'' (by simp [(List.cons.inj same).2]) (by decide)
  have noChar : first ≠ '\'' := by
    rintro rfl
    exact absurd (by decide) (not_mem_punctuation starts)
  unfold readLiteral
  rw [readText_word starts continues ends]
  split
  · next same => cases same
  · next same => cases same
  · split
    · next same => exact absurd same (noQuote _)
    · next same => exact absurd (List.cons.inj same).1 noChar
    · exact readNumber_of_not_isDigit (not_isDigit_of_isIdentStart starts)

theorem readPlainIdent_word
    (starts : Text.isIdentStart first)
    (continues : others.all Text.isIdentContinue)
    (ends : EndsWord rest) :
    readPlainIdent (first :: (others ++ rest)) = some (first :: others, rest) := by
  have all : ∀ c ∈ others, Text.isIdentContinue c := List.all_eq_true.mp continues
  have stops : rest.takeWhile Text.isIdentContinue = [] ∧
      rest.dropWhile Text.isIdentContinue = rest := by
    cases rest with
    | nil => exact ⟨rfl, rfl⟩
    | cons c rest => simp [(ends c rfl).2.1]
  rw [readPlainIdent, if_pos starts, List.takeWhile_append_of_pos all,
    List.dropWhile_append_of_pos all, stops.1, stops.2, List.append_nil]

/-- What starts as a name is no mark. -/
theorem readMark_of_isIdentStart
    (starts : Text.isIdentStart first) :
    readMark (first :: rest) = none := by
  have noMark : startsWithMark (first :: rest) = false := by
    have noPunctuation := not_mem_punctuation starts
    unfold startsWithMark
    split
    · rfl
    · rfl
    · next same =>
        cases same
        refine Bool.eq_false_iff.mpr fun isMark => noPunctuation ?_
        simp [punctuation, List.contains_iff_mem.mp isMark]
    · rfl
  unfold readMark
  rw [noMark]
  rfl

/-- No name starts as a literal does. -/
theorem not_literalOpening
    (continues : others.all Text.isIdentContinue)
    (ends : EndsWord rest) :
    literalOpenings.any (·.isPrefixOf (first :: (others ++ rest))) = false := by
  have shape : ∀ opening ∈ literalOpenings, ∃ letter, ∃ word ∈ [[], ['r']], ∃ joiner ∈ joiners,
      ∃ more, opening = letter :: (word ++ joiner :: more) := by
    simp [literalOpenings, joiners]
  have isWord : ∀ word ∈ [[], ['r']], word.all Text.isIdentContinue := by decide
  simp only [List.any_eq_false, List.isPrefixOf_iff_prefix]
  intro opening listed begins
  obtain ⟨letter, word, isShort, joiner, isJoiner, more, rfl⟩ := shape opening listed
  exact not_isPrefix_of_joiner isJoiner (isWord word isShort) continues ends
    (List.cons_prefix_cons.mp begins).2

theorem readIdent_word
    (starts : Text.isIdentStart first)
    (continues : others.all Text.isIdentContinue)
    (ends : EndsWord rest) :
    readIdent (first :: (others ++ rest)) = some (first :: others, rest) := by
  have noRawMark : ∀ after, first :: (others ++ rest) ≠ 'r' :: '#' :: after := by
    intro after same
    exact head_not_mem_joiners continues ends '#' (by simp [(List.cons.inj same).2]) (by decide)
  unfold readIdent
  split
  · next same => exact absurd same (noRawMark _)
  · exact readPlainIdent_word starts continues ends

theorem readLeaf_word
    (starts : Text.isIdentStart first)
    (continues : others.all Text.isIdentContinue)
    (ends : EndsWord rest) :
    readLeaf (first :: (others ++ rest)) =
      some (.ident (String.ofList (first :: others)), rest) := by
  unfold readLeaf
  rw [readLiteral_word starts continues ends, readMark_of_isIdentStart starts,
    not_literalOpening continues ends, readIdent_word starts continues ends]
  rfl

/-- A name with the raw mark is read with its mark. -/
theorem readLeaf_raw
    (starts : Text.isIdentStart first)
    (continues : others.all Text.isIdentContinue)
    (allowed : first :: others ∉ neverRawNames)
    (ends : EndsWord rest) :
    readLeaf ('r' :: '#' :: first :: (others ++ rest)) =
      some (.ident (String.ofList ('r' :: '#' :: first :: others)), rest) := by
  have noPunctuation := not_mem_punctuation starts
  have noHash : '#' ≠ first := fun same => noPunctuation (same ▸ by decide)
  have noQuote : '"' ≠ first := fun same => noPunctuation (same ▸ by decide)
  have noLiteral : readLiteral ('r' :: '#' :: first :: (others ++ rest)) = none := by
    have noText : readText ('r' :: '#' :: first :: (others ++ rest)) = none := by
      have noRaw : readRawText .text ('#' :: first :: (others ++ rest)) = none := by
        simp [readRawText, noHash.symm, noQuote.symm]
      rw [readText, noRaw, Option.map_none]
    unfold readLiteral
    rw [noText]
    exact readNumber_of_not_isDigit (by decide)
  have noOpening :
      literalOpenings.any (·.isPrefixOf ('r' :: '#' :: first :: (others ++ rest))) = false := by
    simp [literalOpenings, List.isPrefixOf, noHash, noQuote]
  unfold readLeaf
  rw [noLiteral, readMark_of_isIdentStart (by decide), noOpening]
  simp [readIdent, readPlainIdent_word starts continues ends, allowed]

end Names

/-! ## Scanning -/

section Scanning

variable
  {first : Char}
  {rest after : List Char}
  {lexeme : Lexeme}

theorem readComment_of_ne
    (noSlash : first ≠ '/') :
    readComment (first :: rest) = none := by
  simp [readComment, noSlash]

/-- A leaf is scanned unless it starts as something else does. -/
theorem scan_leaf
    (noComment : readComment (first :: rest) = none)
    (noGap : isSeparator first = false)
    (noDelimiter : delimiter? first = none)
    (reads : readLeaf (first :: rest) = some (lexeme, after)) :
    scan (first :: rest) = .unit lexeme after := by
  simp [scan, scanUnit, noComment, noGap, noDelimiter, reads]

theorem mem_punctuation_of_delimiter?
    {delimiter : Delimiter × Bool}
    (isDelimiter : delimiter? first = some delimiter) :
    first ∈ punctuation ∧ first ≠ '/' := by
  unfold delimiter? at isDelimiter
  split at isDelimiter
  all_goals first
    | cases isDelimiter
      done
    | exact ⟨by decide, by decide⟩

/-- A leaf that starts as a name or a number does is scanned. -/
theorem scan_word
    (noGap : isSeparator first = false)
    (noPunctuation : first ∉ punctuation)
    (reads : readLeaf (first :: rest) = some (lexeme, after)) :
    scan (first :: rest) = .unit lexeme after := by
  have noDelimiter : delimiter? first = none := by
    cases isDelimiter : delimiter? first with
    | none => rfl
    | some delimiter => exact absurd (mem_punctuation_of_delimiter? isDelimiter).1 noPunctuation
  refine scan_leaf (readComment_of_ne ?_) noGap noDelimiter reads
  rintro rfl
  exact noPunctuation (by decide)

/-- A name is scanned as itself. -/
theorem scan_name
    {name : String}
    (named : IsName name)
    (ends : EndsWord rest) :
    scan (name.toList ++ rest) = .unit (.ident name) rest := by
  have same : String.ofList name.toList = name := String.ofList_toList
  rcases named with ident | ⟨plain, written, ident, allowed⟩
  · cases letters : name.toList with
    | nil =>
        rw [letters] at ident
        cases ident
    | cons first others =>
        rw [letters] at ident same
        obtain ⟨starts, continues⟩ := Bool.and_eq_true_iff.mp ident
        rw [List.cons_append, ← same]
        exact scan_word (not_separator_of_isIdentStart starts) (not_mem_punctuation starts)
          (readLeaf_word starts continues ends)
  · cases plain with
    | nil => cases ident
    | cons first others =>
        rw [written] at same
        obtain ⟨starts, continues⟩ := Bool.and_eq_true_iff.mp ident
        rw [written, ← same]
        exact scan_word (not_separator_of_isIdentStart (by decide))
          (not_mem_punctuation (by decide)) (readLeaf_raw starts continues allowed ends)

/-- A quotation mark or an apostrophe starts nothing but what it quotes. -/
theorem scan_quoted
    {quote : Char}
    {value : Literal}
    (isQuote : quote = '"' ∨ quote = '\'')
    (reads : readLiteral (quote :: rest) = some (value, after)) :
    scan (quote :: rest) = .unit (.literal value) after := by
  have readsLeaf : readLeaf (quote :: rest) = some (.literal value, after) := by
    unfold readLeaf
    rw [reads]
  rcases isQuote with rfl | rfl
  · exact scan_leaf rfl rfl rfl readsLeaf
  · exact scan_leaf rfl rfl rfl readsLeaf

/-- A written text is scanned as itself. -/
theorem scan_text
    (text : String)
    (ends : EndsLiteral rest) :
    scan ((Text.Quoted.text text).toList ++ rest) = .unit (.literal (.text text)) rest := by
  have reads := readLiteral_text text ends
  rw [Text.Quoted.text, String.toList_ofList] at reads ⊢
  exact scan_quoted (.inl rfl) reads

/-- A written character is scanned as itself. -/
theorem scan_char
    (c : Char)
    (ends : EndsLiteral rest) :
    scan ((Text.Quoted.char c).toList ++ rest) = .unit (.literal (.char c)) rest := by
  have reads := readLiteral_char c ends
  rw [Text.Quoted.char, String.toList_ofList] at reads ⊢
  exact scan_quoted (.inr rfl) reads

/-- The digits of a number are scanned as the number. -/
theorem scan_number
    (value : Nat)
    (ends : EndsWord rest) :
    scan ((toString value).toList ++ rest) = .unit (.literal (.integer value)) rest := by
  have reads := readLiteral_number value ends
  obtain ⟨first, others, same, isDigit⟩ := exists_digit_cons value
  rw [same, List.cons_append] at reads ⊢
  refine scan_word (eq_false_of_isDigit isDigit (by decide +kernel)) (fun mem => ?_) ?_
  · have noDigit : ∀ c ∈ punctuation, c.isDigit = false :=
      List.all_iff_forall_prop.mp (by decide)
    rw [noDigit first mem] at isDigit
    contradiction
  · unfold readLeaf
    rw [reads]

/-- A mark is scanned as itself, unless it starts a label or a comment. -/
theorem scan_mark
    (isMark : first ∈ markChars)
    (noLabel : first ≠ '\'')
    (noComment : first = '/' → ∀ c ∈ rest.head?, c ≠ '/' ∧ c ≠ '*') :
    scan (first :: rest) = .unit (.mark first (startsWithMark rest)) rest := by
  have isPunctuation : first ∈ punctuation := by
    simp [punctuation, isMark]
  have noDelimiter : ∀ c ∈ markChars, delimiter? c = none :=
    List.all_iff_forall_prop.mp (by decide)
  have noStart : ∀ c ∈ markChars, c ≠ '\'' → c ∉ literalStarts :=
    List.all_iff_forall_prop.mp (by decide)
  have noDigit : ∀ c ∈ markChars, c.isDigit = false :=
    List.all_iff_forall_prop.mp (by decide)
  have noLiteral : readLiteral (first :: rest) = none := by
    rw [readLiteral_of_not_mem (noStart first isMark noLabel)]
    exact readNumber_of_not_isDigit (noDigit first isMark)
  have noSlash : ∀ after, first :: rest ≠ '/' :: '/' :: after := by
    intro after same
    obtain ⟨rfl, rfl⟩ := List.cons.inj same
    exact (noComment rfl '/' rfl).1 rfl
  have noStar : ∀ after, first :: rest ≠ '/' :: '*' :: after := by
    intro after same
    obtain ⟨rfl, rfl⟩ := List.cons.inj same
    exact (noComment rfl '*' rfl).2 rfl
  have starts : startsWithMark (first :: rest) = true := by
    unfold startsWithMark
    split
    · next same => exact absurd same (noSlash _)
    · next same => exact absurd same (noStar _)
    · next same =>
        obtain ⟨rfl, -⟩ := List.cons.inj same
        exact List.contains_iff_mem.mpr isMark
    · next same => cases same
  have readsMark : readMark (first :: rest) = some (.mark first (startsWithMark rest), rest) := by
    simp [readMark, starts]
  refine scan_leaf ?_ (not_separator_of_punctuation first isPunctuation)
    (noDelimiter first isMark) ?_
  · unfold readComment
    split
    all_goals first
      | exact rfl
      | next same => exact absurd same (noSlash _)
      | next same => exact absurd same (noStar _)
  · unfold readLeaf
    rw [noLiteral, readsMark]

/-- An opening delimiter is scanned as itself, as no comment follows it. -/
theorem scan_opening
    {delimiter : Delimiter}
    (opens : delimiter? first = some (delimiter, true))
    (noComment : first = '(' → ∀ after, rest ≠ '/' :: '*' :: after) :
    scan (first :: rest) = .unit (.opening delimiter) rest := by
  have noError : errorGroup.isPrefixOf (first :: rest) = false := by
    refine Bool.eq_false_iff.mpr fun begins => ?_
    obtain ⟨after, same⟩ := List.isPrefixOf_iff_prefix.mp begins
    obtain ⟨isParen, rfl⟩ := List.cons.inj same
    exact noComment isParen.symm _ rfl
  obtain ⟨isPunctuation, noSlash⟩ := mem_punctuation_of_delimiter? opens
  simp only [scan, readComment_of_ne noSlash, not_separator_of_punctuation first isPunctuation,
    Bool.false_eq_true, if_false, scanUnit, opens, noError]

/-- A closing delimiter is scanned as itself. -/
theorem scan_closing
    {delimiter : Delimiter}
    (closes : delimiter? first = some (delimiter, false)) :
    scan (first :: rest) = .unit (.closing delimiter) rest := by
  obtain ⟨isPunctuation, noSlash⟩ := mem_punctuation_of_delimiter? closes
  simp only [scan, readComment_of_ne noSlash, not_separator_of_punctuation first isPunctuation,
    Bool.false_eq_true, if_false, scanUnit, closes]

end Scanning

end Source
end Heirloom
