import Heirloom.Proofs.Lowering
import Heirloom.Proofs.Source.Printing

/-!
# Printed literals and keys read back

A scalar or a range of characters is printed as a text of its own, which is read as one
pattern that compiles to it again. An object key is printed without quotes if it consists
of letters, numbers and underscores. It is read as a name then if it is an identifier,
which it is if it has ASCII characters only. Any other key is printed between quotation
marks and read as a text.
-/

namespace Heirloom
namespace Source

/-! ## Whole texts -/

/-- What is read up to the end of a text is tokenized. -/
theorem Reads.tokenize_whole
    {text : String}
    {good : List Token → Prop}
    (reads : Reads (text.toList ++ []) [] good)
    (noMark : ∀ c ∈ text.toList.head?, c.toNat ≠ 0xFEFF) :
    ∃ tokens, Source.tokenize text = .ok tokens ∧ good tokens := by
  rw [List.append_nil] at reads
  exact reads.tokenize noMark

/-- Tokens that stand for a pattern are read as it to their end. -/
theorem Forms.readPattern_whole
    {pattern : Pattern}
    {tokens : List Token}
    (forms : Forms (.alternatives pattern) tokens)
    (close : Position) :
    Source.readPattern close tokens = .ok (pattern, []) := by
  have reads := forms.readPattern .nil close
  rwa [List.append_nil] at reads

/-- An atom by itself is a whole pattern. -/
theorem Forms.alone
    {pattern : Pattern}
    {tokens : List Token}
    (forms : Forms (.atom pattern) tokens) :
    Forms (.alternatives pattern) tokens := by
  have terms : Forms (.terms [pattern]) (tokens ++ []) :=
    .terms (.unbound (.once (.unsigned forms))) .noTerms
  rw [List.append_nil] at terms
  exact .alternatives (.sequence terms)

/-! ## Literals -/

/-- The text is read to its end as one pattern, which compiles to the expression in any
builder and installs no rule. -/
def ReadsAs (text : String) (expr : Expr) : Prop :=
  ∃ tokens pattern, tokenize text = .ok tokens ∧
    (∀ close, readPattern close tokens = .ok (pattern, [])) ∧
    ∀ builder, ∃ after, (lower pattern).run.run builder = (.ok expr, after) ∧
      after.rules = builder.rules

/-- Nothing follows at the end of a text. -/
theorem EndsOperand.nil
    {expr : Expr}
    {level : Nat} :
    EndsOperand expr level [] := nofun

/-- An expression that is read back is read as itself if it has no part that could have
another name. -/
theorem ReadsBack.readsAs
    {expr : Expr}
    (readsBack : ReadsBack expr)
    (noMark : ∀ c ∈ expr.render.toList.head?, c.toNat ≠ 0xFEFF)
    (alone : ∀ again : Expr, again.anonymous = expr → again = expr)
    (noNames : expr.inlineNames = []) :
    ReadsAs expr.render expr := by
  obtain ⟨tokens, isAll, stands⟩ := (readsBack [] .nil).tokenize_whole noMark
  obtain ⟨pattern, outlines, forms⟩ := (stands.of_le (Nat.zero_le _)).alternatives
  refine ⟨tokens, pattern, isAll, forms.readPattern_whole, fun builder => ?_⟩
  have goes := lower_goesBy pattern builder
  rw [outlines] at goes
  obtain ⟨again, after, lowers, same, adds⟩ := goes
  obtain rfl := alone again same
  obtain ⟨added, rules, named⟩ := adds.rules
  rw [noNames] at named
  obtain rfl : added = [] := List.eq_nil_iff_forall_not_mem.mpr fun rule mem =>
    absurd (named rule mem).1 List.not_mem_nil
  exact ⟨after, lowers, by rw [rules, List.append_nil]⟩

/-- No scalar is printed with a byte order mark in front. -/
theorem head_render_prim
    {value : Value}
    (scalar : value.IsScalar) :
    ∀ c ∈ (Expr.prim value).render.toList.head?, c.toNat ≠ 0xFEFF := by
  rw [Expr.render]
  cases value with
  | undefined | null =>
      rintro _ ⟨⟩
      decide
  | bool value =>
      cases value <;> rintro _ ⟨⟩ <;> decide
  | char | str =>
      rw [Value.render]
      simp [Text.Quoted.char, Text.Quoted.text, Text.Quoted.encode]
  | int number =>
      rw [Value.render, Value.renderInt]
      cases number.toInt with
      | ofNat value =>
          obtain ⟨first, others, written, digit⟩ := exists_digit_cons value
          have starts : (toString (Int.ofNat value)).toList = first :: others := written
          rw [starts]
          rintro _ ⟨⟩ isMark
          obtain rfl : first = '\uFEFF' := Char.toNat_inj.mp isMark
          cases digit
      | negSucc value =>
          have starts : (toString (Int.negSucc value)).toList =
              '-' :: (toString (value + 1)).toList := by
            change ("-" ++ toString (value + 1)).toList = _
            rw [String.toList_append]
            rfl
          rw [starts]
          rintro _ ⟨⟩
          decide
  | list | object => exact absurd scalar not_false

/-- Every scalar and every range of characters is printed as a text that is read as the
same literal. -/
theorem scalars_read_back :
    (∀ value : Value, value.IsScalar → ReadsAs (Expr.prim value).render (.prim value)) ∧
    ∀ chars : CharRange, chars.first ≤ chars.last →
      ReadsAs (Expr.range chars).render (.range chars) := by
  refine ⟨fun value scalar => ?_, fun chars ordered => ?_⟩
  · refine (reads_prim scalar).readsAs (head_render_prim scalar) (fun again same => ?_) rfl
    cases again <;> first | exact same | cases same
  · refine (reads_range ordered).readsAs ?_ (fun again same => ?_) rfl
    · simp [Expr.render, CharRange.render, Text.Quoted.char, Text.Quoted.encode]
    · cases again <;> first | exact same | cases same

/-- The least integer, a text with a quotation mark, a backslash, a line feed and a
combining accent, and the range of all small letters. -/
theorem extreme_scalars_read_back :
    ReadsAs "-9223372036854775808" (.prim (.int Int64.minValue)) ∧
    ReadsAs "\"\\\"\\\\\\n\\u\x7b301\x7d\"" (.prim (.str "\"\\\n\u0301")) ∧
    ReadsAs "'a'..='z'" (.range ⟨'a', 'z'⟩) := by
  have least : (Expr.prim (.int Int64.minValue)).render = "-9223372036854775808" := by
    decide +kernel
  have escaped : (Expr.prim (.str "\"\\\n\u0301")).render =
      "\"\\\"\\\\\\n\\u\x7b301\x7d\"" := by
    decide +kernel
  have letters : (Expr.range ⟨'a', 'z'⟩).render = "'a'..='z'" := by
    decide +kernel
  refine ⟨?_, ?_, ?_⟩
  · rw [← least]
    exact scalars_read_back.1 _ trivial
  · rw [← escaped]
    exact scalars_read_back.1 _ trivial
  · rw [← letters]
    exact scalars_read_back.2 _ (by decide)

/-! ## Keys -/

section Keys

variable
  {key name : String}
  {properties : List (String × Expr)}
  {lenient : Bool}

/-- No name starts with a byte order mark. -/
theorem head_of_isName
    (named : IsName name) :
    ∀ c ∈ name.toList.head?, c.toNat ≠ 0xFEFF := by
  rcases named with ident | ⟨plain, raw, -⟩
  · have noMark : Text.isIdentStart '\uFEFF' = false := by decide +kernel
    intro c isHead isMark
    obtain rfl : c = '\uFEFF' := Char.toNat_inj.mp isMark
    obtain ⟨others, same⟩ := List.head?_eq_some_iff.mp isHead
    rw [same, Text.isIdent, noMark] at ident
    cases ident
  · rw [raw]
    rintro _ ⟨⟩
    decide

/-- A name by itself is one token. -/
theorem tokenize_of_isName
    (named : IsName name) :
    ∃ position, tokenize name = .ok [.ident position name] := by
  have reads : Reads (name.toList ++ []) [] _ := .ident named nofun
  obtain ⟨_, isAll, position, rfl⟩ := reads.tokenize_whole (head_of_isName named)
  exact ⟨position, isAll⟩

/-- A quoted text by itself is one token. -/
theorem tokenize_quoted (text : String) :
    ∃ position, tokenize (Text.Quoted.text text) = .ok [.literal position (.text text)] := by
  have reads : Reads ((Text.Quoted.text text).toList ++ []) [] _ := .text text nofun
  have noMark : ∀ c ∈ (Text.Quoted.text text).toList.head?, c.toNat ≠ 0xFEFF := by
    simp [Text.Quoted.text, Text.Quoted.encode]
  obtain ⟨_, isAll, position, rfl⟩ := reads.tokenize_whole noMark
  exact ⟨position, isAll⟩

/-- A key that is written without quotes has no mark in it, so it is no raw name. -/
theorem isIdent_of_isName
    (plain : Expr.isPlainKey key)
    (named : IsName key) :
    Text.isIdent key.toList := by
  rcases named with ident | ⟨name, raw, -⟩
  · exact ident
  · have noMark : Text.isAlphanumeric '#' = false := by decide +kernel
    rw [Expr.isPlainKey, raw] at plain
    simp [noMark] at plain

/-- Among ASCII characters the letters and numbers of a plain key are those of an
identifier. -/
theorem isIdent_of_isPlainKey
    (plain : Expr.isPlainKey key)
    (ascii : ∀ c ∈ key.toList, c.toNat < 0x80) :
    Text.isIdent key.toList := by
  unfold Expr.isPlainKey at plain
  split at plain
  · cases plain
  · next first others same =>
      rw [same] at ascii ⊢
      obtain ⟨asciiFirst, asciiOthers⟩ := List.forall_mem_cons.mp ascii
      simp only [Bool.and_eq_true, List.all_eq_true] at plain
      obtain ⟨⟨starts, -⟩, continues⟩ := plain
      refine Bool.and_eq_true_iff.mpr ⟨?_, List.all_eq_true.mpr fun c mem => ?_⟩
      · rw [(Text.isIdent_of_ascii asciiFirst).1]
        rwa [(Text.isAlphanumeric_of_ascii asciiFirst).1] at starts
      · rw [(Text.isIdent_of_ascii (asciiOthers c mem)).2]
        have := continues c mem
        rwa [(Text.isAlphanumeric_of_ascii (asciiOthers c mem)).2] at this

/-- A plain key by itself is read as a name only if it is an identifier. -/
theorem tokenize_iff_isIdent
    (plain : Expr.isPlainKey key) :
    (∃ position, tokenize key = .ok [.ident position key]) ↔ Text.isIdent key.toList := by
  constructor
  · rintro ⟨position, reads⟩
    have named := named_of_tokenize reads _ (List.mem_singleton_self _)
    exact isIdent_of_isName plain named.name
  · exact fun ident => tokenize_of_isName (.inl ident)

/-- An object pattern is read with the keys that it was printed with. -/
theorem readPattern_render_obj
    (legible : ∀ property ∈ properties,
      Expr.isPlainKey property.1 → Text.isIdent property.1.toList)
    (readBack : ∀ property ∈ properties, ReadsBack property.2) :
    ∃ tokens members, tokenize (Expr.obj properties lenient).render = .ok tokens ∧
      (∀ close, readPattern close tokens = .ok (.object members lenient, [])) ∧
      Pattern.outlineProperties? members = some properties := by
  have reads : Reads ((Expr.obj properties lenient).render.toList ++ []) [] _ :=
    reads_braces legible readBack
  have noMark : ∀ c ∈ (Expr.obj properties lenient).render.toList.head?, c.toNat ≠ 0xFEFF := by
    cases lenient <;> cases properties <;> simp [Expr.render]
  obtain ⟨_, isAll, opening, closing, content, rfl, members, outlines, forms⟩ :=
    reads.tokenize_whole noMark
  exact ⟨_, members, isAll, (Forms.object forms).alone.readPattern_whole, outlines⟩

end Keys

/-- A plain key is printed as it is, and it is read as a name if and only if it is an
identifier, as every plain key of ASCII characters is. Any other key is printed as a text
and read as one. So an object pattern is read with the keys that it was printed with, if
its plain keys are identifiers. -/
theorem keys_read_back (key : String) (properties : List (String × Expr)) (lenient : Bool) :
    (Expr.isPlainKey key →
      Expr.renderKey key = key ∧
        ((∃ position, tokenize key = .ok [.ident position key]) ↔ Text.isIdent key.toList) ∧
        ((∀ c ∈ key.toList, c.toNat < 0x80) → Text.isIdent key.toList)) ∧
    (Expr.isPlainKey key = false →
      Expr.renderKey key = Text.Quoted.text key ∧
        ∃ position, tokenize (Expr.renderKey key) = .ok [.literal position (.text key)]) ∧
    ((∀ property ∈ properties, Expr.isPlainKey property.1 → Text.isIdent property.1.toList) →
      (∀ property ∈ properties, property.2.Outlined ∧ property.2.isLegible) →
      ∃ tokens members, tokenize (Expr.obj properties lenient).render = .ok tokens ∧
        (∀ close, readPattern close tokens = .ok (.object members lenient, [])) ∧
        Pattern.outlineProperties? members = some properties ∧
        members.map (fun member => member.1.name) = properties.map Prod.fst) := by
  refine ⟨fun plain => ⟨?_, tokenize_iff_isIdent plain, isIdent_of_isPlainKey plain⟩,
    fun quoted => ?_, fun legible parts => ?_⟩
  · rw [Expr.renderKey, if_pos plain]
  · have same : Expr.renderKey key = Text.Quoted.text key := by
      rw [Expr.renderKey, if_neg (Bool.eq_false_iff.mp quoted)]
    exact ⟨same, same ▸ tokenize_quoted key⟩
  · obtain ⟨tokens, members, isAll, reads, outlines⟩ := readPattern_render_obj legible
      fun property mem => readsBack_of_outlined (parts property mem).1 (parts property mem).2
    exact ⟨tokens, members, isAll, reads, outlines,
      (Pattern.keys_of_outlineProperties? outlines).symm⟩

/-- A key with an umlaut is read as a name, and one with a space is read as a text. -/
theorem unquoted_and_quoted_keys_read_back :
    (∃ position, tokenize "größe_1" = .ok [.ident position "größe_1"]) ∧
    (∃ position, tokenize "\"a b\"" = .ok [.literal position (.text "a b")]) ∧
    ∃ tokens members, tokenize "\x7bgröße_1: _, \"a b\": 'x', ...\x7d" = .ok tokens ∧
      (∀ close, readPattern close tokens = .ok (.object members true, [])) ∧
      members.map (fun member => member.1.name) = ["größe_1", "a b"] := by
  have plain : Expr.isPlainKey "größe_1" := by decide +kernel
  have ident : Text.isIdent "größe_1".toList := by decide +kernel
  have spaced : Expr.isPlainKey "a b" = false := by decide +kernel
  have quoted : Expr.renderKey "a b" = "\"a b\"" := by decide +kernel
  have printed : (Expr.obj [("größe_1", .any), ("a b", .prim (.char 'x'))] true).render =
      "\x7bgröße_1: _, \"a b\": 'x', ...\x7d" := by
    decide +kernel
  have legible : ∀ property ∈ [("größe_1", Expr.any), ("a b", .prim (.char 'x'))],
      Expr.isPlainKey property.1 → Text.isIdent property.1.toList :=
    List.forall_mem_cons.mpr ⟨fun _ => ident, by simp [spaced]⟩
  refine ⟨((keys_read_back "größe_1" [] false).1 plain).2.1.mpr ident, ?_, ?_⟩
  · rw [← quoted]
    exact ((keys_read_back "a b" [] false).2.1 spaced).2
  · rw [← printed]
    obtain ⟨tokens, members, isAll, reads, -, keys⟩ := (keys_read_back "" _ true).2.2 legible
      (by simpa [Expr.isLegible] using ⟨Expr.Outlined.any, .prim trivial⟩)
    exact ⟨tokens, members, isAll, reads, keys⟩

/-- The superscript two is a number, so a key with it is plain, but it is no part of an
identifier. The object pattern that is printed with this key is no text of tokens. -/
theorem key_with_superscript_is_not_read_back :
    Expr.isPlainKey "a²" ∧ Expr.renderKey "a²" = "a²" ∧
      (¬∃ position, tokenize "a²" = .ok [.ident position "a²"]) ∧
      ∀ tokens, tokenize (Expr.obj [("a²", .any)] false).render ≠ .ok tokens := by
  have plain : Expr.isPlainKey "a²" := by decide +kernel
  have noIdent : ¬Text.isIdent "a²".toList := by decide +kernel
  have refused : (tokenize (Expr.obj [("a²", .any)] false).render).isOk = false := by
    decide +kernel
  refine ⟨plain, by decide +kernel, fun reads => noIdent ((tokenize_iff_isIdent plain).mp reads),
    fun tokens isAll => ?_⟩
  rw [isAll] at refused
  cases refused

end Source
end Heirloom
