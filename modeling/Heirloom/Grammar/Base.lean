import Heirloom.Grammar

/-!
# The base grammar

The grammar that every grammar read from source inherits from unless it names
another. Its rules are ordinary rules, so descendants may override or extend
them; extending the skip rule is how comments are taught to syntactic rules.
-/

namespace Heirloom

/-- The rules of the base grammar. -/
def baseRules : List Rule := [
  ⟨"anything", .any⟩,
  ⟨"end", .not .any⟩,
  ⟨"empty", .seq []⟩,
  ⟨"char", .range ⟨'\x00', Char.ofNat 0x10FFFF⟩⟩,
  ⟨"digit", .range ⟨'0', '9'⟩⟩,
  ⟨"lower", .range ⟨'a', 'z'⟩⟩,
  ⟨"upper", .range ⟨'A', 'Z'⟩⟩,
  ⟨"letter", .alt (.app "lower") (.app "upper")⟩,
  ⟨"alnum", .alt (.app "letter") (.app "digit")⟩,
  ⟨"space", .alt (.prim (.char ' ')) (.range ⟨'\t', '\r'⟩)⟩,
  ⟨skipRuleName, .many (.app "space") 0⟩]

/-- The base grammar. -/
def baseGrammar : Grammar :=
  { serial := 0, name := baseGrammarName, rules := baseRules, parent := none }

end Heirloom
