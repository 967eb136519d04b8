import Heirloom.Regex.Basic
import Mathlib.Data.List.Basic

/-!
# What regular expressions match

The language of an expression says which texts it matches between which others,
whatever it prefers. Expressions in normal form are built so that they keep their
languages: a concatenation matches what its parts match one after the other, and an
alternation what one of its branches matches.
-/

namespace Heirloom

namespace Regex

open Text (CharSet)

/-! ## Languages -/

/-- Which texts are matched between a text before, the nearest character first, and a
text after. -/
abbrev Language := List Char → List Char → List Char → Prop

namespace Language

/-- The empty text, anywhere. -/
def nothing : Language := fun _ text _ => text = []

/-- One text after the other. -/
def followedBy (left right : Language) : Language := fun before text after =>
  ∃ first second, text = first ++ second ∧
    left before first (second ++ after) ∧ right (first.reverse ++ before) second after

/-- A number of texts, one after the other. -/
def rounds (body : Language) : Nat → Language
  | 0 => nothing
  | count + 1 => body.followedBy (rounds body count)

/-- Any number of texts, one after the other. -/
def star (body : Language) : Language := fun before text after =>
  ∃ count, body.rounds count before text after

/-- A limited number of texts, one after the other. -/
def upTo (body : Language) (limit : Nat) : Language := fun before text after =>
  ∃ count ≤ limit, body.rounds count before text after

/-- A text of either language. -/
def either (left right : Language) : Language := fun before text after =>
  left before text after ∨ right before text after

/-- Texts of the languages in order, one after the other. -/
def all (languages : List Language) : Language :=
  languages.foldr followedBy nothing

/-- The texts of some of the languages. -/
def any (languages : List Language) : Language := fun before text after =>
  ∃ language ∈ languages, language before text after

@[simp] theorem nothing_followedBy (language : Language) :
    nothing.followedBy language = language := by
  funext before text after
  refine propext ⟨?_, fun matched => ⟨[], text, rfl, rfl, matched⟩⟩
  rintro ⟨_, second, rfl, rfl, matched⟩
  exact matched

@[simp] theorem followedBy_nothing (language : Language) :
    language.followedBy nothing = language := by
  funext before text after
  refine propext ⟨?_, fun matched => ⟨text, [], by simp, by simpa using matched, rfl⟩⟩
  rintro ⟨first, _, rfl, matched, rfl⟩
  simpa using matched

theorem followedBy_assoc (first second third : Language) :
    (first.followedBy second).followedBy third = first.followedBy (second.followedBy third) := by
  funext before text after
  refine propext ⟨?_, ?_⟩
  · rintro ⟨_, last, rfl, ⟨lead, middle, rfl, leads, follows⟩, ends⟩
    refine ⟨lead, middle ++ last, by simp, by simpa using leads, middle, last, rfl, follows, ?_⟩
    simpa using ends
  · rintro ⟨lead, _, rfl, leads, middle, last, rfl, follows, ends⟩
    refine ⟨lead ++ middle, last, by simp, ⟨lead, middle, rfl, by simpa using leads, follows⟩, ?_⟩
    simpa using ends

/-- Some rounds and then some more. -/
theorem rounds_add (body : Language) (first second : Nat) :
    body.rounds (first + second) = (body.rounds first).followedBy (body.rounds second) := by
  induction first with
  | zero => rw [Nat.zero_add, rounds, nothing_followedBy]
  | succ first inductionHypothesis =>
      rw [Nat.succ_add, rounds, inductionHypothesis, rounds, followedBy_assoc]

/-- Any number of rounds is one and then any number, or none. -/
theorem star_eq (body : Language) : body.star = (body.followedBy body.star).either nothing := by
  funext before text after
  refine propext ⟨?_, ?_⟩
  · rintro ⟨_ | count, matched⟩
    · exact .inr matched
    · obtain ⟨first, second, rfl, leads, follows⟩ := matched
      exact .inl ⟨first, second, rfl, leads, count, follows⟩
  · rintro (⟨first, second, rfl, leads, count, follows⟩ | matched)
    · exact ⟨count + 1, first, second, rfl, leads, follows⟩
    · exact ⟨0, matched⟩

/-- No round is none. -/
theorem upTo_zero (body : Language) : body.upTo 0 = nothing := by
  funext before text after
  refine propext ⟨?_, fun matched => ⟨0, Nat.le_refl 0, matched⟩⟩
  rintro ⟨count, limited, matched⟩
  obtain rfl := Nat.le_zero.mp limited
  exact matched

/-- Rounds up to a limit are one and then rounds up to a lower one, or none. -/
theorem upTo_succ (body : Language) (limit : Nat) :
    body.upTo (limit + 1) = (body.followedBy (body.upTo limit)).either nothing := by
  funext before text after
  refine propext ⟨?_, ?_⟩
  · rintro ⟨_ | count, limited, matched⟩
    · exact .inr matched
    · obtain ⟨first, second, rfl, leads, follows⟩ := matched
      exact .inl ⟨first, second, rfl, leads, count, Nat.le_of_succ_le_succ limited, follows⟩
  · rintro (⟨first, second, rfl, leads, count, limited, follows⟩ | matched)
    · exact ⟨count + 1, Nat.succ_le_succ limited, first, second, rfl, leads, follows⟩
    · exact ⟨0, Nat.zero_le _, matched⟩

@[simp] theorem all_nil : all [] = nothing := rfl

@[simp] theorem all_cons (language : Language) (languages : List Language) :
    all (language :: languages) = language.followedBy (all languages) := rfl

@[simp] theorem all_append (left right : List Language) :
    all (left ++ right) = (all left).followedBy (all right) := by
  induction left with
  | nil => simp
  | cons language left inductionHypothesis =>
      rw [List.cons_append, all_cons, inductionHypothesis, all_cons, followedBy_assoc]

@[simp] theorem any_nil : any [] = fun _ _ _ => False := by
  funext before text after
  simp [any]

@[simp] theorem any_cons (language : Language) (languages : List Language) :
    any (language :: languages) = language.either (any languages) := by
  funext before text after
  simp [any, either]

@[simp] theorem any_singleton (language : Language) : any [language] = language := by
  funext before text after
  simp [any]

/-- What one of two lists of languages matches. -/
theorem any_append (left right : List Language) :
    any (left ++ right) = (any left).either (any right) := by
  funext before text after
  simp [any, either, or_and_right, exists_or]

/-- A language in front of some others is in front of each. -/
theorem followedBy_any (lead : Language) (languages : List Language) :
    lead.followedBy (any languages) = any (languages.map lead.followedBy) := by
  funext before text after
  refine propext ⟨?_, ?_⟩
  · rintro ⟨first, second, rfl, leads, language, member, follows⟩
    exact ⟨_, List.mem_map_of_mem member, first, second, rfl, leads, follows⟩
  · rintro ⟨_, mapped, follows⟩
    obtain ⟨language, listed, rfl⟩ := List.mem_map.mp mapped
    obtain ⟨first, second, rfl, leads, ends⟩ := follows
    exact ⟨first, second, rfl, leads, language, listed, ends⟩

end Language

/-- The language of an expression. -/
def language : Regex → Language
  | empty => .nothing
  | literal chars => fun _ text _ => text = chars
  | set members => fun _ text _ => ∃ c, text = [c] ∧ members.contains c = true
  | look assertion => fun before text after => text = [] ∧ assertion.holds before after = true
  | seq left right => left.language.followedBy right.language
  | alt left right => left.language.either right.language
  | rep min max _ body => fun before text after =>
      ∃ count, min ≤ count ∧ (∀ limit ∈ max, count ≤ limit ∨ count = min) ∧
        body.language.rounds count before text after
  | capture _ body => body.language

/-- A repetition without an upper bound goes on after its least number of rounds. -/
theorem language_rep_none (min : Nat) (greedy : Bool) (body : Regex) :
    (rep min none greedy body).language =
      (body.language.rounds min).followedBy body.language.star := by
  funext before text after
  refine propext ⟨?_, ?_⟩
  · rintro ⟨count, least, -, matched⟩
    obtain ⟨more, rfl⟩ := Nat.exists_eq_add_of_le least
    rw [Language.rounds_add] at matched
    obtain ⟨first, second, rfl, leads, follows⟩ := matched
    exact ⟨first, second, rfl, leads, more, follows⟩
  · rintro ⟨first, second, rfl, leads, more, follows⟩
    refine ⟨min + more, Nat.le_add_right _ _, nofun, ?_⟩
    rw [Language.rounds_add]
    exact ⟨first, second, rfl, leads, follows⟩

/-- A repetition with an upper bound goes on up to it after its least number of rounds. -/
theorem language_rep_some (min max : Nat) (greedy : Bool) (body : Regex) :
    (rep min (some max) greedy body).language =
      (body.language.rounds min).followedBy (body.language.upTo (max - min)) := by
  funext before text after
  refine propext ⟨?_, ?_⟩
  · rintro ⟨count, least, most, matched⟩
    obtain ⟨more, rfl⟩ := Nat.exists_eq_add_of_le least
    have limited := most max rfl
    rw [Language.rounds_add] at matched
    obtain ⟨first, second, rfl, leads, follows⟩ := matched
    exact ⟨first, second, rfl, leads, more, by omega, follows⟩
  · rintro ⟨first, second, rfl, leads, more, limited, follows⟩
    refine ⟨min + more, Nat.le_add_right _ _, ?_, ?_⟩
    · rintro _ ⟨⟩
      omega
    · rw [Language.rounds_add]
      exact ⟨first, second, rfl, leads, follows⟩

/-! ## Expressions in normal form -/

/-- A set matches its characters, however it is written. -/
theorem language_ofSet (members : CharSet) :
    (ofSet members).language = (set members).language := by
  unfold ofSet
  split
  · next c single =>
      funext before text after
      simp only [language, CharSet.contains_of_single? single, exists_eq_right]
  · rfl

/-- The parts of a concatenation match what it matches. -/
theorem language_parts (regex : Regex) :
    Language.all (regex.parts.map language) = regex.language := by
  induction regex with
  | empty => rfl
  | seq left right leftHypothesis rightHypothesis =>
      rw [parts, List.map_cons, Language.all_cons, rightHypothesis]
      rfl
  | _ => exact Language.followedBy_nothing _

/-- A concatenation matches what its parts match one after the other. -/
theorem language_ofParts (items : List Regex) :
    (ofParts items).language = Language.all (items.map language) := by
  induction items using ofParts.induct with
  | case1 => rfl
  | case2 part => exact (Language.followedBy_nothing _).symm
  | case3 part rest more inductionHypothesis =>
      rw [ofParts, language, inductionHypothesis]
      · rfl
      · exact more

/-- Joining literals keeps what they match. -/
theorem language_attach (part : Regex) (rest : List Regex) :
    Language.all ((attach part rest).map language) =
      part.language.followedBy (Language.all (rest.map language)) := by
  unfold attach
  split
  · next front back rest =>
      have joined : (literal (front ++ back)).language =
          (literal front).language.followedBy (literal back).language := by
        funext before text after
        simp only [language, Language.followedBy, exists_eq_right_right]
        simp
      simp only [List.map_cons, Language.all_cons, joined, Language.followedBy_assoc]
  · rfl

/-- A concatenation matches what its expressions match one after the other. -/
theorem language_concat (items : List Regex) :
    (concat items).language = Language.all (items.map language) := by
  have joined (parts : List Regex) :
      Language.all ((parts.foldr attach []).map language) = Language.all (parts.map language) := by
    induction parts with
    | nil => rfl
    | cons part parts inductionHypothesis =>
        rw [List.foldr_cons, language_attach, inductionHypothesis, List.map_cons, Language.all_cons]
  rw [concat, language_ofParts, joined]
  induction items with
  | nil => rfl
  | cons item items inductionHypothesis =>
      rw [List.flatMap_cons, List.map_append, Language.all_append, inductionHypothesis,
        language_parts, List.map_cons, Language.all_cons]

/-- The branches of an alternation match what it matches. -/
theorem language_branches (regex : Regex) :
    Language.any (regex.branches.map language) = regex.language := by
  induction regex with
  | alt left right leftHypothesis rightHypothesis =>
      rw [branches, List.map_cons, Language.any_cons, rightHypothesis]
      rfl
  | _ => exact Language.any_singleton _

/-- An alternation matches what one of its branches matches. -/
theorem language_ofBranches (items : List Regex) :
    (ofBranches items).language = Language.any (items.map language) := by
  induction items using ofBranches.induct with
  | case1 =>
      funext before text after
      simp [ofBranches, language, Language.any]
  | case2 branch => exact (Language.any_singleton _).symm
  | case3 branch rest more inductionHypothesis =>
      rw [ofBranches, language, inductionHypothesis]
      · rw [List.map_cons, Language.any_cons]
      · exact more

/-- What a list stands for piece by piece comes from it piece by piece. -/
theorem map_of_mapM
    {α β γ : Type}
    {find : α → Option β}
    {left : α → γ}
    {right : β → γ}
    (agree : ∀ {item found}, find item = some found → left item = right found)
    {items : List α} :
    ∀ {results : List β}, items.mapM find = some results → items.map left = results.map right := by
  induction items with
  | nil =>
      rintro results found
      cases found
      rfl
  | cons item items inductionHypothesis =>
      intro results found
      simp only [List.mapM_cons, Option.bind_eq_bind, Option.bind_eq_some_iff, Option.pure_def,
        Option.some.injEq] at found
      obtain ⟨first, isFirst, rest, isRest, rfl⟩ := found
      rw [List.map_cons, List.map_cons, agree isFirst, inductionHypothesis isRest]

/-- The parts of a concatenation of two or more are those of the expression. -/
theorem parts_of_seqParts?
    {regex : Regex}
    {items : List Regex}
    (found : regex.seqParts? = some items) :
    regex.parts = items := by
  cases regex <;> simp_all [seqParts?, parts]

/-- Two lists start with what they start with in common. -/
theorem commonLead_prefix (left right : List Regex) :
    commonLead left right <+: left ∧ commonLead left right <+: right := by
  induction left, right using commonLead.induct with
  | case1 lefts part rights inductionHypothesis =>
      rw [commonLead, if_pos rfl]
      exact ⟨(List.prefix_cons_inj part).mpr inductionHypothesis.1,
        (List.prefix_cons_inj part).mpr inductionHypothesis.2⟩
  | case2 left lefts right rights other =>
      rw [commonLead, if_neg other]
      exact ⟨List.nil_prefix, List.nil_prefix⟩
  | case3 left right more =>
      rw [commonLead]
      · exact ⟨List.nil_prefix, List.nil_prefix⟩
      · exact more

/-- Several lists start with what they start with in common. -/
theorem foldl_commonLead_prefix (lists : List (List Regex)) :
    ∀ first, lists.foldl commonLead first <+: first ∧
      ∀ list ∈ lists, lists.foldl commonLead first <+: list := by
  induction lists with
  | nil => exact fun first => ⟨List.prefix_refl first, nofun⟩
  | cons list lists inductionHypothesis =>
      intro first
      obtain ⟨leads, others⟩ := inductionHypothesis (commonLead first list)
      have common := commonLead_prefix first list
      refine ⟨leads.trans common.1, ?_⟩
      rintro other (_ | ⟨_, member⟩)
      · exact leads.trans common.2
      · exact others other member

/-- What branches have in common can be written in front of them. -/
theorem language_of_splitLead?
    {items lead rests : List Regex}
    (found : splitLead? items = some (lead, rests)) :
    (Language.all (lead.map language)).followedBy (Language.any (rests.map language)) =
      Language.any (items.map language) := by
  unfold splitLead? at found
  split at found
  · next first second others listed =>
      dsimp only at found
      split at found
      · cases found
      · have leads := foldl_commonLead_prefix (second :: others) first
        obtain ⟨rfl, rfl⟩ := Prod.mk.inj (Option.some.inj found)
        have whole : items.map parts = (first :: second :: others).map id :=
          map_of_mapM (fun found => parts_of_seqParts? found) listed
        generalize (second :: others).foldl commonLead first = lead at leads ⊢
        have split : ∀ list ∈ items.map parts,
            (Language.all (lead.map language)).followedBy
              (concat (list.drop lead.length)).language = Language.all (list.map language) := by
          intro list member
          have starts : lead <+: list := by
            rw [whole, List.map_id] at member
            rcases member with _ | ⟨_, member⟩
            · exact leads.1
            · exact leads.2 list member
          obtain ⟨rest, rfl⟩ := starts
          rw [List.drop_left, language_concat, List.map_append, Language.all_append]
        rw [List.map_id] at whole
        rw [Language.followedBy_any, ← whole, List.map_map, List.map_map, List.map_map]
        refine congrArg Language.any (List.map_congr_left fun item member => ?_)
        exact (split _ (List.mem_map_of_mem member)).trans (language_parts item)
  · cases found

/-- A set that branches stand for matches what they match. -/
theorem language_of_unitedSet?
    {items : List Regex}
    {members : CharSet}
    (found : unitedSet? items = some members) :
    (ofSet members).language = Language.any (items.map language) := by
  have united {sets : List CharSet}
      (same : items.map language = sets.map fun members => (set members).language) :
      (set (CharSet.unions sets)).language = Language.any (items.map language) := by
    rw [same]
    funext before text after
    refine propext ⟨?_, ?_⟩
    · rintro ⟨c, rfl, member⟩
      rw [CharSet.contains_unions, List.any_eq_true] at member
      obtain ⟨members, listed, member⟩ := member
      exact ⟨_, List.mem_map_of_mem listed, c, rfl, member⟩
    · rintro ⟨_, mapped, matched⟩
      obtain ⟨members, listed, rfl⟩ := List.mem_map.mp mapped
      obtain ⟨c, rfl, member⟩ := matched
      refine ⟨c, rfl, ?_⟩
      rw [CharSet.contains_unions, List.any_eq_true]
      exact ⟨members, listed, member⟩
  rw [language_ofSet]
  change Option.orElse _ _ = _ at found
  rw [← Option.or_eq_orElse, Option.or_eq_some_iff] at found
  rcases found with found | ⟨-, found⟩
  · obtain ⟨chars, listed, rfl⟩ := Option.map_eq_some_iff.mp found
    refine united ?_
    rw [List.map_map]
    refine map_of_mapM ?_ listed
    intro item c isChar
    unfold onlyChar? at isChar
    split at isChar
    · obtain rfl := Option.some.inj isChar
      funext before text after
      simp [language]
    · cases isChar
  · obtain ⟨sets, listed, rfl⟩ := Option.map_eq_some_iff.mp found
    refine united (map_of_mapM ?_ listed)
    intro item members isSet
    unfold members? at isSet
    split at isSet
    · obtain rfl := Option.some.inj isSet
      rfl
    · cases isSet

/-- The branches of expressions match what the expressions match. -/
theorem language_flatMap_branches (items : List Regex) :
    Language.any ((items.flatMap branches).map language) = Language.any (items.map language) := by
  induction items with
  | nil => rfl
  | cons item items inductionHypothesis =>
      rw [List.flatMap_cons, List.map_append, Language.any_append, language_branches,
        inductionHypothesis, List.map_cons, Language.any_cons]

/-- Branches that are united match what one of them matches. -/
theorem language_unite (items : List Regex) :
    (unite items).language = Language.any (items.map language) := by
  rw [← language_flatMap_branches, unite]
  split
  · next found => exact language_of_unitedSet? found
  · exact language_ofBranches _

/-- An alternation matches what one of its expressions matches. -/
theorem language_alternation (items : List Regex) :
    (alternation items).language = Language.any (items.map language) := by
  rw [← language_flatMap_branches, alternation]
  split
  · next found => exact language_of_unitedSet? found
  · split
    · next lead rests found =>
        rw [language_concat, List.map_append, Language.all_append, List.map_singleton,
          Language.all_cons, Language.all_nil, Language.followedBy_nothing, language_unite,
          language_of_splitLead? found]
    · exact language_ofBranches _

end Regex
end Heirloom
