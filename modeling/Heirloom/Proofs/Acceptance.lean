import Heirloom.Proofs.Inlining
import Heirloom.Proofs.Registry.Atomicity
import Heirloom.Proofs.Source.Parts

/-!
# Declarations that load

A declaration is loaded if and only if its super-grammar is found, its patterns stand for
expressions, the operator of each rule suits the rules before it and, where that is asked
for, every rule applied in the grammar is found. Inline patterns add rules while the others
are installed, but none under a name that can be written, so they neither take a name nor
provide one. What the check of a declaration refuses is refused here too. The other way
round, an integer with two signs passes the check and is never loaded.
-/

namespace Heirloom

open Source.Pattern (outline?)

/-! ## Conditions on declarations -/

namespace Source

/-- The operator of a rule suits the rules before it: a new rule has a new name, and a
rule that changes another has the name of one before it or of an inherited one. -/
def RuleDeclaration.Suits
    (parent : Grammar)
    (names : List String)
    (rule : RuleDeclaration) : Prop :=
  match rule.operator with
  | .define => rule.name ∉ names
  | .override | .extend => rule.name ∈ names ∨ (parent.rule? rule.name).isSome

/-- What is asked of a declaration over its super-grammar. -/
structure Declaration.Fits (parent : Grammar) (declaration : Declaration) : Prop where
  checked : ∀ rule ∈ declaration.rules, ∀ part ∈ rule.body.parts, part.Checked
  valued : ∀ rule ∈ declaration.rules, ∀ part ∈ rule.body.parts, part.Valued
  suits : ∀ earlier rule later, declaration.rules = earlier ++ rule :: later →
    rule.Suits parent (earlier.map RuleDeclaration.name)

/-- No integer in the declaration has two signs. -/
def Declaration.SignsOnce (declaration : Declaration) : Prop :=
  ∀ rule ∈ declaration.rules, rule.body.signsOnce

/-- The names that rules define anew. -/
def definedNames (rules : List RuleDeclaration) : List String :=
  (rules.filter fun rule => rule.operator = .define).map RuleDeclaration.name

/-- Rules pass the check if and only if the parts of their patterns do and no name is
defined twice. -/
theorem checkRules_eq_ok_iff
    {defined : List String}
    {rules : List RuleDeclaration} :
    checkRules defined rules = .ok () ↔
      (∀ rule ∈ rules, ∀ part ∈ rule.body.parts, part.Checked) ∧
        (definedNames rules).Nodup ∧ ∀ name ∈ definedNames rules, name ∉ defined := by
  induction rules generalizing defined with
  | nil => simp [checkRules, definedNames]
  | cons rule rules inductionHypothesis =>
      rw [checkRules, List.forall_mem_cons, ← Pattern.checkPattern_eq_ok_iff]
      by_cases defines : rule.operator = .define
      · have names : definedNames (rule :: rules) = rule.name :: definedNames rules := by
          simp [definedNames, defines]
        by_cases known : rule.name ∈ defined
        · simp [defines, known, names]
        · rw [if_pos defines, if_neg (by simpa using known), Pattern.bind_check_eq_ok_iff,
            inductionHypothesis, names, List.nodup_cons, List.forall_mem_cons]
          simp only [List.mem_cons, not_or]
          constructor
          · rintro ⟨first, others, distinct, new⟩
            exact ⟨⟨first, others⟩, ⟨fun mem => (new _ mem).1 rfl, distinct⟩, known,
              fun name mem => (new name mem).2⟩
          · rintro ⟨⟨first, others⟩, ⟨different, distinct⟩, -, new⟩
            exact ⟨first, others, distinct,
              fun name mem => ⟨fun same => different (same ▸ mem), new name mem⟩⟩
      · have names : definedNames (rule :: rules) = definedNames rules := by
          simp [definedNames, defines]
        rw [if_neg defines, Pattern.bind_check_eq_ok_iff, inductionHypothesis, names, and_assoc]

/-- A declaration passes the check if and only if the parts of its patterns do and it
defines no name twice. -/
theorem Declaration.check_eq_ok_iff {declaration : Declaration} :
    declaration.check = .ok () ↔
      (∀ rule ∈ declaration.rules, ∀ part ∈ rule.body.parts, part.Checked) ∧
        (definedNames declaration.rules).Nodup := by
  rw [Declaration.check, checkRules_eq_ok_iff]
  simp

/-- What holds of every member of a list and of those before it holds of the first one
and of the others. -/
theorem forall_split_cons_iff
    {property : List α → α → Prop}
    {first : α}
    {others : List α} :
    (∀ earlier member later, first :: others = earlier ++ member :: later →
        property earlier member) ↔
      property [] first ∧
        ∀ earlier member later, others = earlier ++ member :: later →
          property (first :: earlier) member := by
  constructor
  · intro holds
    exact ⟨holds [] first others rfl, fun earlier member later split =>
      holds (first :: earlier) member later (congrArg (first :: ·) split)⟩
  · rintro ⟨holds, holdsOthers⟩ (_ | ⟨head, earlier⟩) member later split
    · obtain ⟨rfl, -⟩ := List.cons.inj split
      exact holds
    · obtain ⟨rfl, rest⟩ := List.cons.inj split
      exact holdsOthers earlier member later rest

/-- Rules whose operators suit the rules before them define no name twice. -/
theorem nodup_definedNames
    {parent : Grammar}
    {rules : List RuleDeclaration}
    {names : List String}
    (suits : ∀ (earlier : List RuleDeclaration) (rule : RuleDeclaration)
      (later : List RuleDeclaration), rules = earlier ++ rule :: later →
        rule.Suits parent (names ++ earlier.map RuleDeclaration.name)) :
    (definedNames rules).Nodup ∧ ∀ name ∈ definedNames rules, name ∉ names := by
  induction rules generalizing names with
  | nil => simp [definedNames]
  | cons rule rules inductionHypothesis =>
      obtain ⟨suitsFirst, suitsOthers⟩ := forall_split_cons_iff.mp suits
      have appended : ∀ earlier : List RuleDeclaration,
          names ++ (rule :: earlier).map RuleDeclaration.name =
            (names ++ [rule.name]) ++ earlier.map RuleDeclaration.name := fun earlier => by simp
      simp only [appended] at suitsOthers
      obtain ⟨distinct, new⟩ := inductionHypothesis suitsOthers
      simp only [List.mem_append, List.mem_singleton, not_or] at new
      by_cases defines : rule.operator = .define
      · have isNew : rule.name ∉ names := by
          simpa [RuleDeclaration.Suits, defines] using suitsFirst
        have names : definedNames (rule :: rules) = rule.name :: definedNames rules := by
          simp [definedNames, defines]
        rw [names, List.nodup_cons, List.forall_mem_cons]
        exact ⟨⟨fun mem => (new _ mem).2 rfl, distinct⟩, isNew, fun name mem => (new name mem).1⟩
      · have names : definedNames (rule :: rules) = definedNames rules := by
          simp [definedNames, defines]
        rw [names]
        exact ⟨distinct, fun name mem => (new name mem).1⟩

/-- A declaration that fits its super-grammar passes the check. -/
theorem Declaration.Fits.check
    {parent : Grammar}
    {declaration : Declaration}
    (fits : declaration.Fits parent) :
    declaration.check = .ok () := by
  have suits : ∀ earlier rule later, declaration.rules = earlier ++ rule :: later →
      rule.Suits parent ([] ++ earlier.map RuleDeclaration.name) := fits.suits
  exact Declaration.check_eq_ok_iff.mpr ⟨fits.checked, (nodup_definedNames suits).1⟩

end Source

/-! ## Installing the rules -/

/-- The builder has rules of these names and no others besides inline rules. -/
structure Builder.Holds
    (parent : Grammar)
    (names : List String)
    (builder : Builder) : Prop where
  inherits : builder.parent = some parent
  names : ∀ name, '-' ∉ name.toList → ((builder.localRule? name).isSome ↔ name ∈ names)

section Installing

variable
  {parent : Grammar}
  {names : List String}
  {builder after : Builder}
  {rule : Source.RuleDeclaration}

namespace Builder.Holds

/-- A name is found if it belongs to one of the rules or is inherited. -/
theorem isSome_lookup?_iff
    {name : String}
    (holds : builder.Holds parent names)
    (plain : '-' ∉ name.toList) :
    (builder.lookup? name).isSome ↔ name ∈ names ∨ (parent.rule? name).isSome := by
  rw [← holds.names name plain, lookup?, holds.inherits]
  cases builder.localRule? name <;> simp

/-- Compiling a body adds no names. -/
theorem adds
    {inlineNames : List String}
    (holds : builder.Holds parent names)
    (adds : (builder.beginRule rule.name).Adds inlineNames after) :
    after.Holds parent names where
  inherits := adds.parent.trans holds.inherits
  names name plain := by
    rw [adds.localRule? plain]
    exact holds.names name plain

/-- Installing a body adds its name. -/
theorem installs
    {name : String}
    {body : Expr}
    (holds : builder.Holds parent names)
    (installs : builder.Installs name body after) :
    after.Holds parent (names ++ [name]) where
  inherits := installs.parent.trans holds.inherits
  names other plain := by
    rw [installs.localRule?, List.mem_append, List.mem_singleton, ← holds.names other plain]
    split
    · next same => simp [same]
    · next different => simp [Ne.symm different]

/-- What a rule is installed with. -/
theorem installRule
    (holds : builder.Holds parent names)
    (ends : (installRule rule).run.run builder = (.ok (), after)) :
    after.Holds parent (names ++ [rule.name]) := by
  obtain ⟨body, middle, lowers, obeys⟩ := installRule_cases ends
  have compiled := holds.adds ((lower_goesBy rule.body).of_ok lowers).2
  generalize rule.operator = operator at obeys
  cases obeys with
  | define _ installs | override installs | extend _ installs => exact compiled.installs installs

/-- A rule is installed if and only if its pattern has an outline and its operator suits
the rules of the builder. -/
theorem succeeds_installRule_iff
    (holds : builder.Holds parent names)
    (plain : '-' ∉ rule.name.toList) :
    Succeeds (Heirloom.installRule rule) builder ↔
      (outline? rule.body).isSome ∧ rule.Suits parent names := by
  have begins : Succeeds (Heirloom.installRule rule) builder ↔
      Succeeds (do
        let body ← lower rule.body
        match rule.operator with
        | .define => BuilderM.change fun builder => builder.define rule.name body
        | .override => BuilderM.change fun builder => builder.override rule.name body
        | .extend => BuilderM.change fun builder => builder.extend rule.name body)
        (builder.beginRule rule.name) := succeeds_bind_of_run rfl
  have compiles := lower_goesBy rule.body (builder.beginRule rule.name)
  rw [begins]
  cases outlined : outline? rule.body with
  | none =>
      rw [outlined] at compiles
      obtain ⟨error, failed, fails⟩ := compiles
      exact ⟨fun succeeds => absurd succeeds (not_succeeds_bind_of_run fails), nofun⟩
  | some drawn =>
      rw [outlined] at compiles
      obtain ⟨body, middle, lowers, -, adds⟩ := compiles
      have compiled := holds.adds adds
      have isLocal := compiled.names rule.name plain
      have isVisible := compiled.isSome_lookup?_iff plain
      rw [succeeds_bind_of_run lowers, Option.isSome_some, eq_self_iff_true, true_and,
        Source.RuleDeclaration.Suits]
      cases rule.operator with
      | define =>
          dsimp only
          rw [BuilderM.succeeds_change_iff, ← isLocal]
          cases known : middle.localRule? rule.name with
          | none =>
              obtain ⟨after, defines, -⟩ := Builder.define_of_absent known body
              simp [defines]
          | some other => simp [Builder.define_of_local known]
      | override =>
          dsimp only
          rw [BuilderM.succeeds_change_iff, ← isVisible]
          cases found : middle.lookup? rule.name with
          | none => simp [Builder.override_of_absent found]
          | some existing =>
              obtain ⟨after, overrides, -⟩ := Builder.override_of_found found body
              simp [overrides]
      | extend =>
          dsimp only
          rw [BuilderM.succeeds_change_iff, ← isVisible]
          cases found : middle.lookup? rule.name with
          | none => simp [Builder.extend_of_absent found]
          | some existing =>
              obtain ⟨after, extended, -⟩ := Builder.extend_of_found found body
              simp [extended]

/-- Rules are installed if and only if each of them is after those before it. -/
theorem succeeds_installRules_iff
    {rules : List Source.RuleDeclaration}
    (holds : builder.Holds parent names)
    (plain : ∀ rule ∈ rules, '-' ∉ rule.name.toList) :
    Succeeds (installRules rules) builder ↔
      (∀ rule ∈ rules, (outline? rule.body).isSome) ∧
        ∀ (earlier : List Source.RuleDeclaration) (rule : Source.RuleDeclaration)
          (later : List Source.RuleDeclaration), rules = earlier ++ rule :: later →
            rule.Suits parent (names ++ earlier.map Source.RuleDeclaration.name) := by
  induction rules generalizing builder names with
  | nil => exact ⟨fun _ => ⟨nofun, by simp⟩, fun _ => ⟨(), builder, rfl⟩⟩
  | cons rule rules inductionHypothesis =>
      obtain ⟨plainRule, plain⟩ := List.forall_mem_cons.mp plain
      have appended : ∀ earlier : List Source.RuleDeclaration,
          names ++ (rule :: earlier).map Source.RuleDeclaration.name =
            (names ++ [rule.name]) ++ earlier.map Source.RuleDeclaration.name :=
        fun earlier => by simp
      rw [List.forall_mem_cons, Source.forall_split_cons_iff, List.map_nil, List.append_nil,
        and_and_and_comm, ← holds.succeeds_installRule_iff plainRule]
      simp only [appended]
      constructor
      · intro succeeds
        obtain ⟨⟨⟩, middle, installs, installsOthers⟩ := succeeds_bind_iff.mp succeeds
        exact ⟨succeeds_of_run installs,
          (inductionHypothesis (holds.installRule installs) plain).mp installsOthers⟩
      · rintro ⟨⟨⟨⟩, middle, installs⟩, others⟩
        exact succeeds_bind_iff.mpr ⟨(), middle, installs,
          (inductionHypothesis (holds.installRule installs) plain).mpr others⟩

end Builder.Holds

/-- A declaration is assembled if and only if it fits its super-grammar and no integer in
it has two signs. -/
theorem succeeds_assemble_iff
    {declaration : Source.Declaration}
    (written : declaration.Written) :
    Succeeds (assemble parent declaration) Builder.empty ↔
      declaration.Fits parent ∧ declaration.SignsOnce := by
  have starts : (Builder.over declaration.name parent).Holds parent [] := by
    refine ⟨rfl, fun name _ => ?_⟩
    simp [Builder.over, Builder.empty, Builder.localRule?]
  have installs : Succeeds (assemble parent declaration) Builder.empty ↔
      Succeeds (installRules declaration.rules) (.over declaration.name parent) := by
    rw [Succeeds, run_assemble, Succeeds]
  rw [installs, starts.succeeds_installRules_iff fun rule mem =>
    (written.rules rule mem).name.no_hyphen]
  constructor
  · rintro ⟨outlined, suits⟩
    have parts := fun rule mem =>
      (Source.Pattern.isSome_outline?_iff _).mp (outlined rule mem)
    exact ⟨⟨fun rule mem part isPart => ((parts rule mem).1 part isPart).1,
      fun rule mem part isPart => ((parts rule mem).1 part isPart).2, suits⟩,
      fun rule mem => (parts rule mem).2⟩
  · rintro ⟨fits, signsOnce⟩
    refine ⟨fun rule mem => (Source.Pattern.isSome_outline?_iff _).mpr ⟨?_, signsOnce rule mem⟩,
      fits.suits⟩
    exact fun part isPart => ⟨fits.checked rule mem part isPart, fits.valued rule mem part isPart⟩

end Installing

/-! ## Loading -/

namespace WorkspaceM

variable
  {parent : Grammar}
  {declaration : Source.Declaration}
  {options : LoadOptions}
  {workspace : Workspace}

theorem succeeds_validate_iff
    {grammar : Grammar} :
    Succeeds (validate grammar) workspace ↔ grammar.validate.2 = none := by
  rw [validate]
  rcases grammar.validate with ⟨records, _ | error⟩
  · exact ⟨fun _ => rfl, fun _ => ⟨(), _, rfl⟩⟩
  · refine ⟨fun succeeds => ?_, nofun⟩
    exact absurd succeeds (not_succeeds_of_run rfl)

/-- What a declaration is assembled to passes its validation if and only if every rule
that it applies is found, whatever number it gets. -/
theorem validate_build_iff
    {builder : Builder}
    (assembles : (assemble parent declaration).run.run Builder.empty = (.ok (), builder))
    (serial : Nat) :
    (builder.build serial).validate.2 = none ↔
      ∀ grammar, Assembles parent declaration grammar →
        ∀ rule ∈ grammar.rules, ∀ name ∈ rule.body.references, (grammar.rule? name).isSome := by
  have sameFound : ∀ serial name,
      ((builder.build serial).rule? name).isSome = (builder.lookup? name).isSome := by
    intro serial name
    rw [builder.lookup?_eq name serial, Option.isSome_map]
  rw [Grammar.validate_eq_none_iff]
  constructor
  · rintro found _ ⟨other, otherSerial, assemblesToo, rfl⟩ rule mem name applied
    cases assembles.symm.trans assemblesToo
    rw [sameFound, ← sameFound serial]
    exact found rule mem name applied
  · exact fun found => found _ ⟨builder, serial, assembles, rfl⟩

/-- Recording always ends well. -/
theorem succeeds_record_bind_iff
    {records : List Log.Record}
    {next : Unit → WorkspaceM α} :
    Succeeds (record records >>= next) workspace ↔
      Succeeds (next ()) { workspace with log := workspace.log ++ records } :=
  succeeds_bind_of_run rfl

/-- Building always ends well. -/
theorem exists_succeeds_build_bind_iff
    (builder : Builder)
    (next : Grammar → WorkspaceM α)
    (workspace : Workspace) :
    ∃ serial after, Succeeds (build builder >>= next) workspace ↔
      Succeeds (next (builder.build serial)) after :=
  ⟨_, _, succeeds_bind_of_run rfl⟩

/-- A declaration is loaded over a super-grammar if and only if it is assembled and, where
that is asked for, every rule applied in it is found. -/
theorem succeeds_loadOver_iff :
    Succeeds (loadOver options declaration parent) workspace ↔
      Succeeds (assemble parent declaration) Builder.empty ∧
        (options.validate = true → ∀ grammar, Assembles parent declaration grammar →
          ∀ rule ∈ grammar.rules, ∀ name ∈ rule.body.references,
            (grammar.rule? name).isSome) := by
  rw [loadOver]
  rcases assembled : (assemble parent declaration).run Builder.empty with ⟨error | ⟨⟨⟩⟩, builder⟩
  · dsimp only
    rw [succeeds_record_bind_iff]
    exact ⟨fun succeeds => absurd succeeds (not_succeeds_of_run rfl),
      fun succeeds => absurd succeeds.1 (not_succeeds_of_run assembled)⟩
  · dsimp only
    obtain ⟨serial, middle, builds⟩ := exists_succeeds_build_bind_iff builder
      (fun grammar => do
        if options.validate then validate grammar
        record [.loaded grammar.render]
        return grammar)
      { workspace with log := workspace.log ++ builder.records }
    have assembles : Succeeds (assemble parent declaration) Builder.empty :=
      succeeds_of_run assembled
    have finishes : ∀ workspace, Succeeds (do
        record [.loaded (builder.build serial).render]
        return builder.build serial : WorkspaceM Grammar) workspace :=
      fun workspace => ⟨_, _, rfl⟩
    rw [succeeds_record_bind_iff, builds, ← validate_build_iff assembled serial]
    split
    · next validates =>
        constructor
        · intro succeeds
          obtain ⟨⟨⟩, last, passes, -⟩ := succeeds_bind_iff.mp succeeds
          exact ⟨assembles, fun _ => succeeds_validate_iff.mp (succeeds_of_run passes)⟩
        · rintro ⟨-, passes⟩
          have succeeds : Succeeds (validate (builder.build serial)) middle :=
            succeeds_validate_iff.mpr (passes validates)
          obtain ⟨⟨⟩, last, passed⟩ := succeeds
          exact succeeds_bind_iff.mpr ⟨(), last, passed, finishes last⟩
    · next unchecked =>
        exact ⟨fun _ => ⟨assembles, fun validates => absurd validates unchecked⟩,
          fun _ => finishes middle⟩

/-- A declaration that fails its check is never loaded. One is loaded if and only if its
super-grammar is found, it fits the super-grammar, no integer in it has two signs and,
where that is asked for, every rule applied in what it is assembled to is found. -/
theorem load_succeeds_iff_fits
    {extent : Extent}
    {source : String}
    {declarations : List Source.Declaration}
    {declaration : Source.Declaration}
    (parses : extent.declarations source = .ok declarations)
    (mem : declaration ∈ declarations)
    (space : Option String)
    (options : LoadOptions)
    (batch : List Grammar)
    (workspace : Workspace) :
    (declaration.check ≠ .ok () →
      ∃ error after,
        (load space options batch declaration).run.run workspace = (.error error, after)) ∧
    (Succeeds (load space options batch declaration) workspace ↔
      ∃ parent middle,
        (superGrammar space batch declaration).run.run workspace = (.ok parent, middle) ∧
        declaration.Fits parent ∧ declaration.SignsOnce ∧
        (options.validate = true → ∀ grammar, Assembles parent declaration grammar →
          ∀ rule ∈ grammar.rules, ∀ name ∈ rule.body.references,
            (grammar.rule? name).isSome)) := by
  have written := Extent.written_of_declarations parses declaration mem
  have loads : Succeeds (load space options batch declaration) workspace ↔
      ∃ parent middle,
        (superGrammar space batch declaration).run.run workspace = (.ok parent, middle) ∧
        declaration.Fits parent ∧ declaration.SignsOnce ∧
        (options.validate = true → ∀ grammar, Assembles parent declaration grammar →
          ∀ rule ∈ grammar.rules, ∀ name ∈ rule.body.references,
            (grammar.rule? name).isSome) := by
    simp only [load_eq, succeeds_bind_iff, succeeds_loadOver_iff, succeeds_assemble_iff written,
      and_assoc]
  refine ⟨fun refused => not_succeeds_iff.mp fun succeeds => ?_, loads⟩
  obtain ⟨parent, -, -, fits, -⟩ := loads.mp succeeds
  exact refused fits.check

/-- A declaration that overrides an inherited rule and applies it in one of its own is
loaded, so it fits the base grammar. -/
theorem load_succeeds_of_override :
    ∃ declarations declaration,
      Extent.all.declarations "grammar T\x7bspace:=_,r=space\x7d" = .ok declarations ∧
      declaration ∈ declarations ∧
      Succeeds (load none { validate := true } [] declaration) {} ∧
      ∃ parent middle,
        (superGrammar none [] declaration).run.run {} = (.ok parent, middle) ∧
        declaration.Fits parent ∧ declaration.SignsOnce ∧
        ∀ grammar, Assembles parent declaration grammar →
          ∀ rule ∈ grammar.rules, ∀ name ∈ rule.body.references,
            (grammar.rule? name).isSome := by
  obtain ⟨declarations, parses, oneLoads⟩ := exists_ok_of_any
    (by decide +kernel :
      (Extent.all.declarations "grammar T\x7bspace:=_,r=space\x7d").toOption.any
        (fun declarations => declarations.any fun declaration =>
          ((load none { validate := true } [] declaration).run.run {}).1.toOption.any
            fun _ => true) = true)
  obtain ⟨declaration, mem, loads⟩ := List.any_eq_true.mp oneLoads
  obtain ⟨grammar, after, ends, -⟩ := exists_run_eq_ok_of_any loads
  obtain ⟨parent, middle, finds, fits, signsOnce, found⟩ :=
    (load_succeeds_iff_fits parses mem none { validate := true } [] {}).2.mp (succeeds_of_run ends)
  exact ⟨declarations, declaration, parses, mem, succeeds_of_run ends, parent, middle, finds,
    fits, signsOnce, found rfl⟩

/-- A declaration with an integer of two signs, which fits when it is negated. -/
def twiceSigned (position numberPosition : Position) : Source.Declaration :=
  ⟨"T", none, [⟨"r", position, .define, .negative numberPosition true 5⟩]⟩

/-- A test for declarations with an integer of two signs. -/
def areTwiceSigned : List Source.Declaration → Bool
  | [⟨name, none, [⟨rule, _, .define, .negative _ true 5⟩]⟩] => name == "T" && rule == "r"
  | _ => false

theorem exists_eq_twiceSigned
    {declarations : List Source.Declaration}
    (passes : areTwiceSigned declarations = true) :
    ∃ position numberPosition, declarations = [twiceSigned position numberPosition] := by
  unfold areTwiceSigned at passes
  split at passes
  · next name rule position numberPosition =>
      simp only [Bool.and_eq_true, beq_iff_eq] at passes
      obtain ⟨rfl, rfl⟩ := passes
      exact ⟨position, numberPosition, rfl⟩
  · cases passes

/-- An integer with two signs passes the check and fits the base grammar, and applies no
rule, but it is not loaded. -/
theorem load_fails_for_second_sign :
    ∃ position numberPosition,
      Extent.all.declarations "grammar T\x7br=--5\x7d" =
        .ok [twiceSigned position numberPosition] ∧
      (twiceSigned position numberPosition).check = .ok () ∧
      (superGrammar none [] (twiceSigned position numberPosition)).run.run {} =
        (.ok baseGrammar, {}) ∧
      (twiceSigned position numberPosition).Fits baseGrammar ∧
      ∀ options, ¬ Succeeds (load none options [] (twiceSigned position numberPosition)) {} := by
  obtain ⟨declarations, parses, passes⟩ := exists_ok_of_any
    (by decide +kernel :
      (Extent.all.declarations "grammar T\x7br=--5\x7d").toOption.any areTwiceSigned = true)
  obtain ⟨position, numberPosition, rfl⟩ := exists_eq_twiceSigned passes
  have onlyPart : ∀ {property : Source.Pattern → Prop},
      property (.negative numberPosition true 5) →
        ∀ rule ∈ (twiceSigned position numberPosition).rules, ∀ part ∈ rule.body.parts,
          property part := by
    intro property holds rule mem part isPart
    obtain rfl := List.mem_singleton.mp mem
    obtain rfl := List.mem_singleton.mp isPart
    exact holds
  have small : 5 < Value.intLimit := by decide
  refine ⟨position, numberPosition, parses, rfl, rfl, ⟨onlyPart trivial, onlyPart small, ?_⟩,
    fun options => ?_⟩
  · exact Source.forall_split_cons_iff.mpr ⟨List.not_mem_nil, by simp⟩
  · have fails : (load none options [] (twiceSigned position numberPosition)).run.run {} =
        (.error (.malformedSource ⟨numberPosition, .invalidDigit, false⟩), _) := rfl
    exact not_succeeds_of_run fails

end WorkspaceM
end Heirloom
