import Mathlib.Data.List.Find
import Mathlib.Data.List.Nodup
import Heirloom.Matching.Matcher
import Heirloom.Proofs.Matching.Report

/-!
# Objects are matched by key

The pattern of an object finds the field of each of its properties by its key
and matches the value as a stream of its own, apart from the memory of the
stream that the object is in. So where nothing is skipped, it sees neither the
order of the fields nor, if it is lenient, the fields that it does not name.
-/

namespace Heirloom
namespace Matching

/-! ## Runs apart from the memory -/

/-- A run that has nothing to do with the memory of its stream: it ends alike
from every memory and leaves it as it is. -/
def Apart (run : Run α) : Prop :=
  ∀ memo, (run memo).ending = ((run Memo.empty).outcome, memo)

namespace Apart

variable {α β γ : Type}

theorem pure (result : α) : Apart (Pure.pure result : Run α) := fun _ => rfl

theorem mismatch : Apart (Run.mismatch : Run α) := fun _ => rfl

/-- A run on another stream is apart. -/
theorem within (run : Run α) : Apart (Run.within run) := fun _ => rfl

theorem bind
    {run : Run α}
    {next : α → Run β}
    (first : Apart run)
    (following : ∀ result, Apart (next result)) :
    Apart (run >>= next) := by
  intro memo
  have start := first memo
  have empty := first Memo.empty
  cases ends : (run Memo.empty).outcome with
  | matched result =>
      rw [ends] at start empty
      rw [Run.ending_bind_of_matched start,
        Report.outcome_of_ending (Run.ending_bind_of_matched empty)]
      exact following result memo
  | mismatch =>
      rw [ends] at start empty
      rw [Run.ending_bind_of_mismatch start,
        Report.outcome_of_ending (Run.ending_bind_of_mismatch empty)]
  | fault fault =>
      rw [ends] at start empty
      rw [Run.ending_bind_of_fault start,
        Report.outcome_of_ending (Run.ending_bind_of_fault empty)]

/-- What is made of the results of a run apart does not depend on the memory. -/
theorem rel_bind_pure
    {run : Run α}
    (apart : Apart run)
    {same : β → γ → Prop}
    {left : α → β}
    {right : α → γ}
    (results : ∀ result, same (left result) (right result))
    (memo otherMemo : Memo) :
    Outcome.Rel same
      ((run >>= fun result => Pure.pure (left result)) memo).outcome
      ((run >>= fun result => Pure.pure (right result)) otherMemo).outcome := by
  have start := apart memo
  have otherStart := apart otherMemo
  cases ends : (run Memo.empty).outcome with
  | matched result =>
      rw [ends] at start otherStart
      rw [Report.outcome_of_ending (Run.ending_bind_of_matched start),
        Report.outcome_of_ending (Run.ending_bind_of_matched otherStart)]
      exact .matched (results result)
  | mismatch =>
      rw [ends] at start otherStart
      rw [Report.outcome_of_ending (Run.ending_bind_of_mismatch start),
        Report.outcome_of_ending (Run.ending_bind_of_mismatch otherStart)]
      exact .mismatch
  | fault fault =>
      rw [ends] at start otherStart
      rw [Report.outcome_of_ending (Run.ending_bind_of_fault start),
        Report.outcome_of_ending (Run.ending_bind_of_fault otherStart)]
      exact .fault fault

end Apart

/-! ## Fields by key -/

/-- The fields of an object that a pattern names. -/
def namedFields
    (properties : List (String × Expr))
    (fields : List (String × Value)) : List (String × Value) :=
  fields.filter fun field => properties.any fun property => property.1 == field.1

/-- Only named fields are left. -/
theorem allNamed_namedFields
    (properties : List (String × Expr))
    (fields : List (String × Value)) :
    allNamed properties (namedFields properties fields) = true := by
  simp [allNamed, namedFields]

/-- A field that a pattern names is found among the named fields. -/
theorem find?_namedFields
    {properties : List (String × Expr)}
    {property : String × Expr}
    (listed : property ∈ properties)
    (fields : List (String × Value)) :
    (namedFields properties fields).find? (fun field => field.1 == property.1) =
      fields.find? fun field => field.1 == property.1 := by
  rw [namedFields, List.find?_filter]
  congr 1
  funext field
  by_cases named : field.1 = property.1
  · have among : (properties.any fun other => other.1 == field.1) = true :=
      List.any_eq_true.mpr ⟨property, listed, beq_iff_eq.mpr named.symm⟩
    simp only [among, true_and, Bool.decide_eq_true]
  · simp [named]

/-- The fields of an object with distinct keys are found in any order. -/
theorem find?_of_perm
    {fields reordered : List (String × Value)}
    (distinct : (fields.map Prod.fst).Nodup)
    (same : reordered.Perm fields)
    (key : String) :
    reordered.find? (fun field => field.1 == key) =
      fields.find? fun field => field.1 == key := by
  refine (List.find?_eq_find?_of_perm same.symm ?_).symm
  rintro left ⟨leftIn, leftKey⟩ right ⟨rightIn, rightKey⟩
  refine List.inj_on_of_nodup_map distinct leftIn rightIn ?_
  rw [beq_iff_eq.mp leftKey, beq_iff_eq.mp rightKey]

/-- Properties depend on the fields of their names only. -/
theorem evalProperties_congr
    (context : Context)
    {properties : List (String × Expr)}
    {fields others : List (String × Value)}
    (same : ∀ property ∈ properties,
      fields.find? (fun field => field.1 == property.1) =
        others.find? fun field => field.1 == property.1)
    (scope : Bindings) :
    evalProperties context properties fields scope =
      evalProperties context properties others scope := by
  induction properties generalizing scope with
  | nil => rfl
  | cons property properties inductionHypothesis =>
      have rest (scope : Bindings) := inductionHypothesis
        (fun property listed => same property (List.mem_cons_of_mem _ listed)) scope
      rw [evalProperties, evalProperties, same property List.mem_cons_self]
      simp only [rest]

/-- The properties of an object are matched apart from the memory. -/
theorem apart_evalProperties
    (context : Context)
    (properties : List (String × Expr))
    (fields : List (String × Value))
    (scope : Bindings) :
    Apart (evalProperties context properties fields scope) := by
  induction properties generalizing scope with
  | nil =>
      rw [evalProperties]
      exact .pure scope
  | cons property properties inductionHypothesis =>
      rw [evalProperties]
      cases fields.find? fun field => field.1 == property.1 with
      | none => exact .mismatch
      | some field => exact .bind (.within _) fun step => inductionHypothesis step.scope

/-! ## Patterns of objects -/

/-- Matches that end at the same position and have bound the same. -/
def Step.SameEffect (step other : Step) : Prop :=
  step.position = other.position ∧ step.scope = other.scope

variable
  {context : Context}
  {properties : List (String × Expr)}
  {stream otherStream : List Value}
  {position : Nat}
  {fields others : List (String × Value)}

/-- Where nothing is skipped, the pattern of an object matches the element. -/
theorem eval_obj
    (lexical : context.skipRule = none)
    (current : stream[position]? = some (.object fields))
    (lenient : Bool)
    (scope : Bindings) :
    eval context (.obj properties lenient) stream position scope =
      if lenient || allNamed properties fields then do
        let scope ← evalProperties context properties fields scope
        return ⟨.object fields, position + 1, scope⟩
      else
        Run.mismatch := by
  simp only [eval, Context.skip, lexical, pure_bind, current]

/-- Patterns that admit their objects and find the same fields do the same. -/
theorem sameEffect_of_find?
    (lexical : context.skipRule = none)
    (current : stream[position]? = some (.object fields))
    (otherCurrent : otherStream[position]? = some (.object others))
    {lenient otherLenient : Bool}
    (admits : (lenient || allNamed properties fields) =
      (otherLenient || allNamed properties others))
    (same : ∀ property ∈ properties,
      fields.find? (fun field => field.1 == property.1) =
        others.find? fun field => field.1 == property.1)
    (scope : Bindings)
    (memo otherMemo : Memo) :
    Outcome.Rel Step.SameEffect
      (eval context (.obj properties lenient) stream position scope memo).outcome
      (eval context (.obj properties otherLenient) otherStream position scope
        otherMemo).outcome := by
  rw [eval_obj lexical current, eval_obj lexical otherCurrent, ← admits,
    ← evalProperties_congr context same]
  split
  · exact (apart_evalProperties context properties fields scope).rel_bind_pure
      (fun bound => ⟨rfl, rfl⟩) memo otherMemo
  · exact .mismatch

end Matching

open Matching

/-- Where nothing is skipped, the pattern of an object with distinct keys sees the keys and not
their order: on the object with its fields reordered, in any other stream state at the same
position, it matches, does not match or fails as before, and binds the same. A lenient pattern
does what the strict one does on the object with only the fields that are named. -/
theorem objects_are_matched_by_key
    {context : Context}
    (lexical : context.skipRule = none)
    {stream : List Value}
    {position : Nat}
    {fields : List (String × Value)}
    (current : stream[position]? = some (.object fields))
    (distinct : (fields.map Prod.fst).Nodup)
    (properties : List (String × Expr))
    (scope : Bindings)
    (memo otherMemo : Memo) :
    (∀ lenient, ∀ reordered : List (String × Value), reordered.Perm fields →
      Outcome.Rel Step.SameEffect
        (eval context (.obj properties lenient) stream position scope memo).outcome
        (eval context (.obj properties lenient) (stream.set position (.object reordered))
          position scope otherMemo).outcome) ∧
      Outcome.Rel Step.SameEffect
        (eval context (.obj properties true) stream position scope memo).outcome
        (eval context (.obj properties false)
          (stream.set position (.object (namedFields properties fields)))
          position scope otherMemo).outcome := by
  have replaced (others : List (String × Value)) :
      (stream.set position (.object others))[position]? = some (.object others) := by
    rw [List.getElem?_set_self', current]
    rfl
  constructor
  · intro lenient reordered same
    refine sameEffect_of_find? lexical current (replaced reordered) ?_ ?_ scope memo otherMemo
    · rw [allNamed, allNamed, same.all_eq]
    · exact fun property _ => (find?_of_perm distinct same property.1).symm
  · refine sameEffect_of_find? lexical current (replaced _) ?_ ?_ scope memo otherMemo
    · rw [allNamed_namedFields]
      rfl
    · exact fun property listed => (find?_namedFields listed fields).symm

/-- The coordinates of a labelled point are bound in the order of the pattern. -/
theorem point_is_matched_by_key :
    let matcher : Matcher := { grammar := ⟨1, "O", [], none⟩ }
    let context := matcher.contextFor (matcher.applyWithin 1) ⟨"point", .any⟩
    let coordinates : List (String × Expr) := [("x", .bind .any "x"), ("y", .bind .any "y")]
    let fields : List (String × Value) := [("y", .int 3), ("x", .int 4), ("label", .char 'p')]
    let reordered : List (String × Value) := [("label", .char 'p'), ("x", .int 4), ("y", .int 3)]
    let stream : List Value := [.char 'c', .object fields]
    (evalProperties context coordinates fields [] Memo.empty).outcome =
      .matched [("x", .int 4), ("y", .int 3)] ∧
    (∀ lenient,
      Outcome.Rel Step.SameEffect
        (eval context (.obj coordinates lenient) stream 1 [] Memo.empty).outcome
        (eval context (.obj coordinates lenient) [.char 'c', .object reordered] 1 []
          Memo.empty).outcome) ∧
    Outcome.Rel Step.SameEffect
      (eval context (.obj coordinates true) stream 1 [] Memo.empty).outcome
      (eval context (.obj coordinates false)
        [.char 'c', .object [("y", .int 3), ("x", .int 4)]] 1 [] Memo.empty).outcome := by
  intro matcher context coordinates fields reordered stream
  have lexical : context.skipRule = none := by decide +kernel
  have current : stream[1]? = some (.object fields) := rfl
  have distinct : (fields.map Prod.fst).Nodup := by decide
  have ⟨ordered, named⟩ := objects_are_matched_by_key lexical current distinct coordinates []
    Memo.empty Memo.empty
  have turned : reordered.Perm fields := List.reverse_perm fields
  exact ⟨by decide +kernel, fun lenient => ordered lenient reordered turned, named⟩

end Heirloom
