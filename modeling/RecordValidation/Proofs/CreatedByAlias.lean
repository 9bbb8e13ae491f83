import RecordValidation.Proofs.CompiledEntries
import RecordValidation.Proofs.RuleForms

/-!
# Validators made by alias

A validator of a registered kind can be made in two ways: directly, by an alias with attributes and
arguments, or by compiling a rule that names all of these. The second way reads the rule, takes its
limits apart from its parameters, hands empty limits to the kind and reports arguments that do not
fit together with the rule.

None of this makes a difference to the validator. A kind makes its check of its own parameters alone
(`Arguments.check_congr`), so limits that are given and empty are as good as none
(`construct_unlimited`); `create_agrees` compares the two ways in what they give and in what they
stop with.
-/

namespace RecordValidation

open Outcome

/-! ## Limits that are empty -/

/-- The limits that a rule without any hands to its kind. -/
def noLimits : Arguments := [("on", .list []), ("except_", .list [])]

namespace Arguments

/-- Limits come before the arguments and hide none of the others. -/
theorem valueOf_noLimits (given : Arguments) {name : String}
    (isNoLimit : name ∉ noLimits.map Prod.fst) (absent : Value) :
    (noLimits ++ given).valueOf name absent = given.valueOf name absent := by
  have without : noLimits.lookup name = none := by
    refine lookup_eq_none fun argument present => ?_
    rintro rfl
    exact isNoLimit (List.mem_map_of_mem present)
  rw [valueOf, List.lookup_append, without]
  rfl

/-- Limits fit every kind, and make no other argument fit or unfit. Each kind takes limits, which is
checked kind by kind. -/
theorem misuse?_noLimits (kind : CheckKind) (names : List String) :
    misuse? kind (noLimits.map Prod.fst ++ names) = misuse? kind names := by
  have known : ∀ name ∈ noLimits.map Prod.fst, misuseOf? kind name = none := by
    cases kind <;> decide
  have none : (noLimits.map Prod.fst).findSome? (misuseOf? kind) = none :=
    List.findSome?_eq_none_iff.2 known
  have own : ownMisuse? kind (noLimits.map Prod.fst ++ names) = ownMisuse? kind names := by
    simp [ownMisuse?, noLimits, givenByPlace]
  rw [misuse?, misuse?, own, List.findSome?_append, none, Option.none_or]

end Arguments

/-- A kind builds the same with empty limits as without any. A limit that is given and empty is read
as no names, just as one that is not given; every other argument keeps its value. -/
theorem construct_unlimited (kind : CheckKind) (attributes : Value) {given : Arguments}
    (free : given.lookup "on" = none ∧ given.lookup "except_" = none) :
    construct kind attributes (noLimits ++ given) = construct kind attributes given := by
  have own : ∀ name ∈ kind.ownParameters, name ∉ noLimits.map Prod.fst := by
    cases kind <;> decide
  have checks : (noLimits ++ given).check kind = given.check kind :=
    Arguments.check_congr fun name isOwn absent => given.valueOf_noLimits (own name isOwn) absent
  have options (name : String) (isNoLimit : name ∉ noLimits.map Prod.fst) (absent : Value) :=
    given.valueOf_noLimits isNoLimit absent
  have onFree : given.valueOf "on" .null = .null := by rw [Arguments.valueOf, free.1]; rfl
  have exceptFree : given.valueOf "except_" .null = .null := by
    rw [Arguments.valueOf, free.2]; rfl
  unfold construct Arguments.fitting
  rw [List.map_append, Arguments.misuse?_noLimits]
  cases Arguments.misuse? kind (given.map Prod.fst) with
  | some misuse => rfl
  | none =>
    have on : ((noLimits ++ given).valueOf "on" .null).givenNames =
        (given.valueOf "on" .null).givenNames := by rw [onFree]; rfl
    have except : ((noLimits ++ given).valueOf "except_" .null).givenNames =
        (given.valueOf "except_" .null).givenNames := by rw [exceptFree]; rfl
    simp only [bind, Except.bind, on, except, checks, Arguments.skipOnEmpty,
      options "message" (by decide), options "skip_on_error" (by decide),
      options "skip_on_empty" (by decide), options "when" (by decide),
      options "is_empty" (by decide)]

/-! ## The rule that names an alias -/

namespace Compilation

/-- The names that arguments cannot have if they are to be parameters of a rule as well as arguments
of a validator that is made by alias: those of limits and those of what is given by place. -/
def reservedNames : List String := ["on", "except", "except_"] ++ Registry.givenByPlace

/-- Arguments as the parameters of a rule. -/
def asParams (arguments : Arguments) : List (Value × Value) :=
  arguments.map fun argument => (.text argument.1, argument.2)

/-- The declaration of a rule by an alias, attributes and parameters. -/
def byAlias (name : String) (attributes : List String) (arguments : Arguments) : Value :=
  .tuple [.list (attributes.map .text), .text name, .map (asParams arguments)]

/-- A parameter is looked up by its name as the argument is. -/
theorem lookup_asParams (arguments : Arguments) (name : String) :
    (asParams arguments).lookup (.text name) = arguments.lookup name := by
  induction arguments with
  | nil => rfl
  | cons argument rest inductionHypothesis =>
    rw [asParams, List.map_cons, List.lookup_cons, List.lookup_cons, Value.text_beq_text,
      ← inductionHypothesis]
    rfl

/-- None of some arguments has a name that is reserved. -/
def Unreserved (arguments : Arguments) : Prop :=
  ∀ argument ∈ arguments, argument.1 ∉ reservedNames

instance (arguments : Arguments) : Decidable (Unreserved arguments) :=
  inferInstanceAs (Decidable (∀ argument ∈ arguments, _))

/-- Nothing is given under a name that is reserved. -/
theorem Unreserved.lookup {arguments : Arguments} (free : Unreserved arguments) {name : String}
    (reserved : name ∈ reservedNames) : arguments.lookup name = none := by
  refine Arguments.lookup_eq_none fun argument present => ?_
  rintro rfl
  exact free argument present reserved

/-- The rule that is declared by an alias, different attributes and arguments that are not reserved
has these and no limits. Each field of what the pieces declare is checked: no parameter is a limit,
so all of them stay, and the attributes are different, so none is taken out. -/
theorem read_byAlias {name : String} {attributes : List String} {arguments : Arguments}
    (named : name ≠ "") (listed : attributes ≠ []) (unlike : attributes.Nodup)
    (free : Unreserved arguments) :
    Rule.ofDeclaration (byAlias name attributes arguments) = .ok
      { attributes := .list (attributes.map .text), validator := .text name, on := .list []
        except := .list [], params := asParams arguments } := by
  have lookup (key : String) (reserved : key ∈ reservedNames) :
      (OrderedMap.mk (asParams arguments)).get? (.text key) = none :=
    (lookup_asParams arguments key).trans (free.lookup reserved)
  refine Rule.ofPieces_eq_ok_iff.2 ?_
  constructor
  case given =>
    cases attributes with
    | nil => exact absurd rfl listed
    | cons first rest => rfl
  case attributes =>
    exact ⟨attributes, .list attributes, by rw [Value.eraseDups_of_nodup unlike]⟩
  case canValidate => exact .inl ⟨name, rfl, named⟩
  case validator => rfl
  case on =>
    rw [lookup "on" (by decide)]
    exact ⟨[], .absent, rfl⟩
  case except =>
    rw [Rule.excepted, lookup "except" (by decide), lookup "except_" (by decide)]
    exact ⟨[], .absent, rfl⟩
  case params =>
    refine (List.filter_eq_self.2 fun entry present => ?_).symm
    obtain ⟨argument, given, rfl⟩ := List.mem_map.1 present
    have unlimited : argument.1 ≠ "on" ∧ argument.1 ≠ "except" ∧ argument.1 ≠ "except_" := by
      have isFree := free argument given
      simp only [reservedNames, List.cons_append, List.mem_cons, not_or] at isFree
      exact ⟨isFree.1, isFree.2.1, isFree.2.2.1⟩
    simp [Rule.limitNames, unlimited]
  case named =>
    intro entry present
    obtain ⟨argument, -, rfl⟩ := List.mem_map.1 present
    rfl

/-- Arguments that are not reserved come behind the empty limits of their rule. They are named by
texts, so each can be an argument, and none of them is given a second time. -/
theorem withParams_asParams (kind : CheckKind) {arguments : Arguments}
    (free : Unreserved arguments) :
    withParams kind noLimits (asParams arguments) = .ok (noLimits ++ arguments) := by
  have named : (asParams arguments).mapM (fun entry => do
      return (← argumentName entry.1, entry.2)) = (.ok arguments : Outcome Arguments) := by
    induction arguments with
    | nil => rfl
    | cons argument rest inductionHypothesis =>
      rw [asParams, List.map_cons, List.mapM_cons, ← asParams,
        inductionHypothesis (List.forall_mem_cons.1 free).2]
      rfl
  have once : arguments.find? (fun entry => (noLimits.map Prod.fst).contains entry.1) = none := by
    rw [List.find?_eq_none]
    intro argument given repeated
    refine free argument given ?_
    have isLimit : ∀ name ∈ noLimits.map Prod.fst, name ∈ reservedNames := by decide
    exact isLimit _ (List.contains_iff_mem.1 repeated)
  unfold withParams
  rw [named]
  simp only [bind, Except.bind, once]
  rfl

end Compilation

/-! ## The two ways -/

/-- The faults that say that arguments do not fit, whether or not they name a rule. -/
def Fault.isMisfit : Fault → Bool
  | .misuse _ | .declaration (.badParameters _ _) _ => true
  | _ => false

section

open Compilation

variable {registry : Registry} {name : String} {attributes : List String} {arguments : Arguments}

/-- By an alias, a validator of its kind is made; if it has none, the alias is the fault. -/
theorem Registry.create_of_unreserved (registry : Registry) (name : String) (names : Value)
    (free : Unreserved arguments) :
    registry.create name names arguments =
      match registry.get? name with
      | some kind => construct kind names arguments
      | none => .error (.declaration (registry.unknownAlias name) .null) := by
  have byName : ¬arguments.any (fun argument => givenByPlace.contains argument.1) = true := by
    rw [List.any_eq_true]
    rintro ⟨argument, given, byPlace⟩
    exact free argument given (List.mem_append_right _ (List.contains_iff_mem.1 byPlace))
  exact if_neg byName

/-- A validator for the rule that names a kind, attributes and arguments is built as it is from
these, except that a misuse is reported in the rule. The rule hands on empty limits, which
`construct_unlimited` takes away again. -/
theorem ofKind_byAlias (declared : Value) (kind : CheckKind) (name : String)
    (attributes : List String) (free : Unreserved arguments) :
    ofKind declared kind
        { attributes := .list (attributes.map .text), validator := .text name, on := .list []
          except := .list [], params := asParams arguments } =
      (construct kind (.list (attributes.map .text)) arguments).mapError
        (inRule (some kind) declared) := by
  have joined : withParams kind ([] ++ noLimits) (asParams arguments) =
      .ok (noLimits ++ arguments) := withParams_asParams kind free
  rw [← construct_unlimited kind _ ⟨free.lookup (by decide), free.lookup (by decide)⟩]
  unfold ofKind instantiate
  simp only [Value.items, bind, Except.bind]
  exact congrArg (fun given : Outcome Arguments => Except.mapError _ (given >>= construct kind _))
    joined

/-- The rule that names an alias compiles to a validator of its kind; if it has none, the alias is
the fault. -/
theorem compile_byAlias (registry : Registry) (named : name ≠ "") (listed : attributes ≠ [])
    (unlike : attributes.Nodup) (free : Unreserved arguments) :
    compile registry none [byAlias name attributes arguments] =
      match registry.get? name with
      | some kind => (fun validator => [validator]) <$>
          (construct kind (.list (attributes.map .text)) arguments).mapError
            (inRule (some kind) (byAlias name attributes arguments))
      | none => .error (.declaration (registry.unknownAlias name)
          (byAlias name attributes arguments)) := by
  have ruled : ofDeclaration registry none (byAlias name attributes arguments) = (do
      ofRule registry none (byAlias name attributes arguments)
        (← Rule.ofDeclaration (byAlias name attributes arguments))) := rfl
  rw [compile_singleton, ruled, read_byAlias named listed unlike free]
  simp only [bind, Except.bind, ofRule, Option.any_none, Bool.false_eq_true, ↓reduceIte]
  cases registry.get? name with
  | some kind => exact congrArg _ (ofKind_byAlias _ kind name attributes free)
  | none => rfl

/-- Reported in a rule, a fault is still another one only if it was that before; misfits aside. Only
a misuse is reported in other words, and what it becomes is a misfit too. -/
theorem inRule_eq_iff {kind : Option CheckKind} {declared : Value} {fault other : Fault}
    (fits : other.isMisfit = false) : inRule kind declared fault = other ↔ fault = other := by
  cases fault with
  | misuse cause => constructor <;> rintro rfl <;> cases fits
  | _ => rfl

/-- Only a misuse is reported in a rule as arguments that do not fit, if it comes from a kind that
looks at its arguments and settings. Settings that a kind refuses are reported as problems of
settings, never as parameters that do not fit. -/
theorem inRule_eq_badParameters_iff {kind : CheckKind} {declared : Value} {fault : Fault}
    (settings : fault.OfSettings) (cause : Misuse) :
    (∃ shown rule, inRule (some kind) declared fault =
      .declaration (.badParameters shown cause) rule) ↔ fault = .misuse cause := by
  constructor
  · rintro ⟨shown, rule, reported⟩
    cases fault with
    | misuse other =>
      injection reported with same
      injection same with sameKind sameCause
      rw [sameCause]
    | declaration problem place =>
      injection reported with same
      rw [same] at settings
      cases settings.1
    | _ => cases reported
  · rintro rfl
    exact ⟨some kind, declared, rfl⟩

/-- A validator that is made by alias is the one that compiling the rule of the same parts gives.

Take a name that is not empty, attributes of which there is at least one and none is repeated, and
arguments none of which has a name that is reserved. Then the rule compiles exactly if the validator
can be made, and to that validator. Arguments that do not fit are the fault of the one exactly if
the other reports them in the rule. A name that is not registered is the fault of both, with the
same wording. If the name is registered, every other fault of the one is the fault of the other. -/
theorem create_agrees (registry : Registry) (name : String) (attributes : List String)
    (arguments : Arguments) (named : name ≠ "") (listed : attributes ≠ [])
    (unlike : attributes.Nodup) (free : Unreserved arguments) :
    let declared := byAlias name attributes arguments
    let created := registry.create name (.list (attributes.map .text)) arguments
    let compiled := compile registry none [declared]
    (∀ validators, compiled = .ok validators ↔
      ∃ validator, created = .ok validator ∧ validators = [validator]) ∧
    (∀ cause, created = .error (.misuse cause) ↔
      ∃ kind rule, compiled = .error (.declaration (.badParameters kind cause) rule)) ∧
    (registry.get? name = none →
      created = .error (.declaration (registry.unknownAlias name) .null) ∧
      compiled = .error (.declaration (registry.unknownAlias name) declared)) ∧
    ∀ kind, registry.get? name = some kind → ∀ fault, fault.isMisfit = false →
      (created = .error fault ↔ compiled = .error fault) := by
  intro declared created compiled
  have creation : created = _ := registry.create_of_unreserved name _ free
  have compilation : compiled = _ := compile_byAlias registry named listed unlike free
  cases registered : registry.get? name with
  | none =>
    have made : created = .error (.declaration (registry.unknownAlias name) .null) := by
      rw [creation, registered]
    have ruled : compiled = .error (.declaration (registry.unknownAlias name) declared) := by
      rw [compilation, registered]
    rw [made, ruled]
    refine ⟨fun _ => ⟨nofun, nofun⟩, fun cause => ⟨nofun, ?_⟩, fun _ => ⟨rfl, rfl⟩, nofun⟩
    rintro ⟨kind, rule, reported⟩
    cases reported
  | some kind =>
    cases built : construct kind (.list (attributes.map .text)) arguments with
    | ok validator =>
      have made : created = .ok validator := by rw [creation, registered, ← built]
      have ruled : compiled = .ok [validator] := by
        rw [compilation, registered]
        simp only [built]
        rfl
      rw [made, ruled]
      refine ⟨fun validators => ?_, fun cause => ⟨nofun, nofun⟩, nofun,
        fun _ _ _ _ => ⟨nofun, nofun⟩⟩
      constructor
      · intro same
        exact ⟨validator, rfl, (Except.ok.inj same).symm⟩
      · rintro ⟨other, same, rfl⟩
        rw [Except.ok.inj same]
    | error fault =>
      have made : created = .error fault := by rw [creation, registered, ← built]
      have ruled : compiled = .error (inRule (some kind) declared fault) := by
        rw [compilation, registered]
        simp only [built]
        rfl
      have settings : fault.OfSettings := faultsIn_construct kind _ arguments fault built
      rw [made, ruled]
      simp only [Except.error.injEq]
      exact ⟨fun validators => ⟨nofun, nofun⟩,
        fun cause => (inRule_eq_badParameters_iff settings cause).symm, nofun,
        fun _ _ other fits => (inRule_eq_iff fits).symm⟩

/-- The same validator of ages is made by alias and by a rule. A step is no parameter of numbers,
which the rule reports; lengths that are no pair are refused in the same words; and neither way
knows an alias for mail. -/
theorem create_agrees_age :
    (∃ validator, Registry.builtin.create "number" (.list ["age"]) [("min", .int 18)] =
        .ok validator ∧
      compile .builtin none [byAlias "number" ["age"] [("min", .int 18)]] = .ok [validator]) ∧
    (∃ kind rule, compile .builtin none [byAlias "number" ["age"] [("step", .int 2)]] =
      .error (.declaration
        (.badParameters kind (.unexpectedArgument "Validator" "step")) rule)) ∧
    compile .builtin none [byAlias "string" ["name", "!nick"] [("length", .list [.int 1])]] =
      .error (.declaration .badLength .null) ∧
    compile .builtin none [byAlias "mail" ["contact"] []] =
      .error (.declaration (Registry.builtin.unknownAlias "mail")
        (byAlias "mail" ["contact"] [])) := by
  obtain ⟨made, -, -, -⟩ := create_agrees .builtin "number" ["age"] [("min", .int 18)]
    (by decide) (by decide) (by decide) (by decide)
  obtain ⟨-, misused, -, -⟩ := create_agrees .builtin "number" ["age"] [("step", .int 2)]
    (by decide) (by decide) (by decide) (by decide)
  obtain ⟨-, -, -, refused⟩ := create_agrees .builtin "string" ["name", "!nick"]
    [("length", .list [.int 1])] (by decide) (by decide) (by decide) (by decide)
  obtain ⟨-, -, unknown, -⟩ := create_agrees .builtin "mail" ["contact"] []
    (by decide) (by decide) (by decide) (by decide)
  refine ⟨⟨_, rfl, (made _).2 ⟨_, rfl, rfl⟩⟩, (misused _).1 rfl, ?_, (unknown rfl).2⟩
  exact (refused .string rfl (.declaration .badLength .null) rfl).1 rfl

end

end RecordValidation
