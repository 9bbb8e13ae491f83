import Mathlib.Data.List.Forall2
import RecordValidation.Proofs.BuiltValidators
import RecordValidation.Proofs.RuleReading

/-!
# Compiling entry by entry

A list of declarations is compiled one by one, so compiling two lists in a row is compiling each and
putting the validators in a row, and what stops a compilation is the first declaration that does not
compile on its own. `compile_entrywise` says so, and what the validator of one entry is.

A validator that is ready is kept. Any other entry is read as a rule, and its validator has the
attributes and the scenarios of the rule, whatever kind of check is asked for. Which kind that is
follows from what the rule names (`Compilation.Chosen`). The registry has a say in it only through
the one alias that the entry looks up (`Compilation.LooksUp`), so that it makes no difference to the
entry what becomes of the others.
-/

namespace RecordValidation

open Outcome

/-- Changing the fault of an outcome changes nothing about what it gives. -/
theorem Outcome.mapError_eq_ok_iff {α : Type} {outcome : Outcome α} {change : Fault → Fault}
    {value : α} : outcome.mapError change = .ok value ↔ outcome = .ok value := by
  cases outcome <;> simp [Except.mapError]

namespace Compilation

/-! ## What a validator takes from its rule -/

/-- The parameters of a rule come behind the arguments that the rule fixes. -/
theorem eq_append_of_withParams {kind : CheckKind} {fixed arguments : Arguments}
    {params : List (Value × Value)} (joined : withParams kind fixed params = .ok arguments) :
    ∃ named, arguments = fixed ++ named := by
  obtain ⟨named, -, others⟩ := bind_eq_ok_iff.1 joined
  split at others
  · cases others
  · exact ⟨named, (Except.ok.inj others).symm⟩

/-- The attributes and the scenarios of a validator are those of a rule. -/
structure NamedAs (rule : Rule) (validator : Validator) : Prop where
  attributes : rule.attributes.items = .ok validator.attributes
  on : rule.on.items = .ok validator.on
  except : rule.except.items = .ok validator.except

/-- A validator that is built for a rule has the attributes and the scenarios of the rule, and its
check is made of settings among which those that come before the rule keep their values. The limits
are handed to the kind as arguments in front of the parameters, so no parameter can hide them;
arguments that come before them must not do so either, which is the second premise. -/
theorem instantiate_eq_ok {kind : CheckKind} {rule : Rule} {before : Arguments}
    {validator : Validator} (built : instantiate kind rule before = .ok validator)
    (unlimited : before.lookup "on" = none ∧ before.lookup "except_" = none) :
    NamedAs rule validator ∧ ∃ arguments : Arguments,
      arguments.check kind = .ok validator.check ∧
        ∀ name value, before.lookup name = some value →
          ∀ absent, arguments.valueOf name absent = value := by
  obtain ⟨attributes, listed, others⟩ := bind_eq_ok_iff.1 built
  obtain ⟨on, onListed, others⟩ := bind_eq_ok_iff.1 others
  obtain ⟨except, exceptListed, others⟩ := bind_eq_ok_iff.1 others
  obtain ⟨arguments, joined, constructed⟩ := bind_eq_ok_iff.1 others
  obtain ⟨named, rfl⟩ := eq_append_of_withParams joined
  have built := construct_eq_ok constructed
  have onGiven (absent : Value) :
      Arguments.valueOf (before ++ [("on", .list on), ("except_", .list except)] ++ named) "on"
        absent = .list on :=
    Arguments.valueOf_append (by simp [List.lookup_append, unlimited]) named absent
  have exceptGiven (absent : Value) :
      Arguments.valueOf (before ++ [("on", .list on), ("except_", .list except)] ++ named) "except_"
        absent = .list except :=
    Arguments.valueOf_append (by simp [List.lookup_append, unlimited, List.lookup_cons]) named
      absent
  have onTaken := built.on
  have exceptTaken := built.except
  rw [onGiven] at onTaken
  rw [exceptGiven] at exceptTaken
  obtain rfl : attributes = validator.attributes := Except.ok.inj built.attributes
  obtain rfl : on = validator.on := Except.ok.inj onTaken
  obtain rfl : except = validator.except := Except.ok.inj exceptTaken
  refine ⟨⟨listed, onListed, exceptListed⟩, _, built.check, ?_⟩
  intro name value present absent
  rw [List.append_assoc]
  exact Arguments.valueOf_append present _ absent

/-- How the check of a rule's validator is chosen: by a method of the record that owns the rules, by
the registry, by the rule itself, or by a function that the rule brings. Each of the first two is
only asked for a name, and the second only if the first has nothing of that name. -/
inductive Chosen (registry : Registry) (owner : Option Owner) : Value → Check → Prop
  | method {name : String} (params : Value) (owned : owner.any (·.hasMethod name) = true) :
      Chosen registry owner (.text name) (.inline (.method name) params (.bool true))
  | registered {name : String} {check : Check} (unowned : owner.any (·.hasMethod name) = false)
      (found : registry.get? name = some check.kind) : Chosen registry owner (.text name) check
  | given (check : Check) : Chosen registry owner (.kind check.kind) check
  | function {function : Value} (params : Value) (unnamed : function.text? = none)
      (isNoKind : ∀ kind, function ≠ .kind kind) (callable : function.isCallable = true) :
      Chosen registry owner function (.inline function params (.bool false))

/-- A validator of a kind for a rule is named as the rule and checks as the kind. -/
theorem ofKind_eq_ok {declared : Value} {kind : CheckKind} {rule : Rule} {validator : Validator}
    (built : ofKind declared kind rule = .ok validator) :
    NamedAs rule validator ∧ validator.check.kind = kind := by
  obtain ⟨named, arguments, made, -⟩ :=
    instantiate_eq_ok (mapError_eq_ok_iff.1 built) ⟨rfl, rfl⟩
  exact ⟨named, Arguments.kind_of_check made⟩

/-- An inline check for a rule is named as the rule and calls the method it is given. The method
comes before the rule among the arguments, so no parameter of that name takes its place. -/
theorem ofMethod_eq_ok {declared method : Value} {bound : Bool} {rule : Rule}
    {validator : Validator} (built : ofMethod declared method bound rule = .ok validator) :
    NamedAs rule validator ∧ ∃ params, validator.check = .inline method params (.bool bound) := by
  obtain ⟨named, arguments, made, fixed⟩ :=
    instantiate_eq_ok (mapError_eq_ok_iff.1 built) ⟨rfl, rfl⟩
  have called : arguments.valueOf "method" .null = method := fixed _ _ rfl _
  have isBound : arguments.valueOf "bound" (.bool false) = .bool bound := fixed _ _ rfl _
  refine ⟨named, arguments.valueOf "params" .null, ?_⟩
  rw [← called, ← isBound]
  exact (Except.ok.inj made).symm

/-- The validator of a rule is named as the rule, and its check is chosen by what the rule asks for.
The cases follow the order in which the rule is asked: a name is looked for among the methods, then
in the registry. -/
theorem ofRule_eq_ok {registry : Registry} {owner : Option Owner} {declared : Value} {rule : Rule}
    {validator : Validator} (compiled : ofRule registry owner declared rule = .ok validator) :
    NamedAs rule validator ∧ Chosen registry owner rule.validator validator.check := by
  unfold ofRule at compiled
  split at compiled
  case h_1 name asked =>
    rw [asked]
    cases owned : owner.any (·.hasMethod name) with
    | true =>
      rw [owned, if_pos rfl] at compiled
      obtain ⟨named, params, check⟩ := ofMethod_eq_ok compiled
      exact ⟨named, check ▸ .method params owned⟩
    | false =>
      rw [owned, if_neg Bool.false_ne_true] at compiled
      split at compiled
      case h_1 kind found =>
        obtain ⟨named, isKind⟩ := ofKind_eq_ok compiled
        exact ⟨named, .registered owned (isKind ▸ found)⟩
      case h_2 => cases compiled
  case h_2 kind asked =>
    rw [asked]
    obtain ⟨named, rfl⟩ := ofKind_eq_ok compiled
    exact ⟨named, .given _⟩
  case h_3 isNoText isNoKind =>
    split at compiled
    case isTrue callable =>
      obtain ⟨named, params, check⟩ := ofMethod_eq_ok compiled
      refine ⟨named, check ▸ .function params ?_ isNoKind callable⟩
      cases asked : rule.validator with
      | text name => exact absurd asked (isNoText name)
      | _ => rfl
    case isFalse => cases compiled

/-- The validator of a declaration is the declaration itself, or it is named as the rule that the
declaration is read as and checks what is chosen for the rule. -/
theorem ofDeclaration_eq_ok {registry : Registry} {owner : Option Owner} {entry : Value}
    {validator : Validator} (compiled : ofDeclaration registry owner entry = .ok validator) :
    entry = .validator validator ∨ ∃ rule, Rule.ofDeclaration entry = .ok rule ∧
      NamedAs rule validator ∧ Chosen registry owner rule.validator validator.check := by
  unfold ofDeclaration at compiled
  split at compiled
  case h_1 ready => exact .inl (congrArg Value.validator (Except.ok.inj compiled))
  case h_2 =>
    obtain ⟨rule, read, ruled⟩ := bind_eq_ok_iff.1 compiled
    exact .inr ⟨rule, read, ofRule_eq_ok ruled⟩

/-! ## What the registry has a say in -/

/-- An entry looks up an alias: it is read as a rule that asks for its check by that name, and the
record that owns the rules has no method of the name. -/
def LooksUp (owner : Option Owner) (entry : Value) (name : String) : Prop :=
  ∃ rule, Rule.ofDeclaration entry = .ok rule ∧ rule.validator = .text name ∧
    owner.any (·.hasMethod name) = false

/-- Two registries that know the alias an entry looks up alike make the same validator of it, if
they make one. The other ways of choosing a check do not ask the registry. -/
theorem ofDeclaration_congr {registry other : Registry} {owner : Option Owner} {entry : Value}
    (alike : ∀ name, LooksUp owner entry name → registry.get? name = other.get? name)
    {validator : Validator} (compiled : ofDeclaration registry owner entry = .ok validator) :
    ofDeclaration other owner entry = .ok validator := by
  unfold ofDeclaration at *
  split at compiled
  case h_1 => exact compiled
  case h_2 =>
    obtain ⟨rule, read, ruled⟩ := bind_eq_ok_iff.1 compiled
    refine bind_eq_ok_iff.2 ⟨rule, read, ?_⟩
    unfold ofRule at *
    split at ruled
    case h_1 name asked =>
      cases owned : owner.any (·.hasMethod name) with
      | true =>
        rw [owned] at ruled
        exact ruled
      | false =>
        rw [owned, alike name ⟨rule, read, asked, owned⟩, if_neg Bool.false_ne_true] at ruled
        rw [if_neg Bool.false_ne_true]
        split at ruled
        case h_1 => exact ruled
        case h_2 => cases ruled
    case h_2 => exact ruled
    case h_3 => exact ruled

end Compilation

namespace Registry

/-- A change of a registry. -/
inductive Change
  /-- An alias is given to a kind, which takes it from the kind that had it. -/
  | register (name : String) (kind : CheckKind)
  | unregister (name : String)

namespace Change

/-- The alias that a change is about. -/
def about : Change → String
  | register name _ => name
  | unregister name => name

/-- The registry after a change. -/
def act (registry : Registry) : Change → Registry
  | register name kind => registry.register name kind
  | unregister name => registry.unregister name

end Change

/-- The registry after some changes, one after the other. -/
def applyAll (registry : Registry) (changes : List Change) : Registry :=
  changes.foldl Change.act registry

/-- A change leaves every alias that it is not about. -/
theorem get?_act (registry : Registry) {change : Change} {name : String}
    (another : change.about ≠ name) : (change.act registry).get? name = registry.get? name := by
  cases change with
  | register other kind =>
    have unlike : name ≠ other := another.symm
    rw [Change.act, get?_register, if_neg unlike]
  | unregister other =>
    have unlike : name ≠ other := another.symm
    rw [Change.act, get?_unregister, if_neg unlike]

/-- Changes leave every alias that none of them is about. -/
theorem get?_applyAll (registry : Registry) {changes : List Change} {name : String}
    (others : ∀ change ∈ changes, change.about ≠ name) :
    (registry.applyAll changes).get? name = registry.get? name := by
  unfold applyAll
  induction changes generalizing registry with
  | nil => rfl
  | cons change rest inductionHypothesis =>
    obtain ⟨another, restOthers⟩ := List.forall_mem_cons.1 others
    rw [List.foldl_cons, inductionHypothesis _ restOthers, get?_act registry another]

end Registry

/-! ## Compiling lists -/

section

variable {registry : Registry} {owner : Option Owner}

/-- A declaration compiles on its own exactly if its validator can be made. -/
theorem compile_singleton_eq_ok_iff {entry : Value} {validator : Validator} :
    compile registry owner [entry] = .ok [validator] ↔
      Compilation.ofDeclaration registry owner entry = .ok validator := by
  rw [compile_singleton, map_eq_ok_iff]
  simp only [List.cons.injEq, and_true, exists_eq_right]

/-- A declaration that does not compile on its own stops with what making its validator stops
with. -/
theorem compile_singleton_eq_error_iff {entry : Value} {fault : Fault} :
    compile registry owner [entry] = .error fault ↔
      Compilation.ofDeclaration registry owner entry = .error fault := by
  rw [compile_singleton]
  cases Compilation.ofDeclaration registry owner entry with
  | ok validator => exact ⟨nofun, nofun⟩
  | error other =>
    exact ⟨fun same => congrArg Except.error (Except.error.inj same),
      fun same => congrArg Except.error (Except.error.inj same)⟩

/-- Lists in a row are compiled one after the other. -/
theorem compile_append (registry : Registry) (owner : Option Owner) (first second : List Value) :
    compile registry owner (first ++ second) = (do
      let earlier ← compile registry owner first
      let later ← compile registry owner second
      return earlier ++ later) := List.mapM_append

/-- The validators of a list of declarations are those of each of them, in their order.

Proof: by induction on the declarations; the first of them and the rest are lists in a row. -/
theorem compile_eq_ok_iff {declared : List Value} {validators : List Validator} :
    compile registry owner declared = .ok validators ↔
      List.Forall₂ (fun entry validator => compile registry owner [entry] = .ok [validator])
        declared validators := by
  induction declared generalizing validators with
  | nil =>
    rw [List.forall₂_nil_left_iff]
    exact ⟨fun done => (Except.ok.inj done).symm, fun none => congrArg Except.ok none.symm⟩
  | cons entry rest inductionHypothesis =>
    rw [← List.singleton_append, compile_append, bind_eq_ok_iff, List.singleton_append,
      List.forall₂_cons_left_iff]
    constructor
    · rintro ⟨made, compiled, others⟩
      obtain ⟨later, restCompiled, whole⟩ := bind_eq_ok_iff.1 others
      rw [compile_singleton, map_eq_ok_iff] at compiled
      obtain ⟨validator, compiled, rfl⟩ := compiled
      exact ⟨validator, later, compile_singleton_eq_ok_iff.2 compiled,
        inductionHypothesis.1 restCompiled, (Except.ok.inj whole).symm⟩
    · rintro ⟨validator, later, compiled, restCompiled, rfl⟩
      exact ⟨[validator], compiled,
        bind_eq_ok_iff.2 ⟨later, inductionHypothesis.2 restCompiled, rfl⟩⟩

/-- Declarations each of which compiles on its own compile. -/
theorem exists_compile {declared : List Value}
    (each : ∀ entry ∈ declared, Compiles registry owner entry) :
    ∃ validators, compile registry owner declared = .ok validators := by
  refine exists_mapM_iff.2 fun entry present => ?_
  obtain ⟨validators, compiled⟩ := each entry present
  rw [compile_singleton, map_eq_ok_iff] at compiled
  obtain ⟨validator, made, -⟩ := compiled
  exact ⟨validator, made⟩

/-- What stops a compilation is what stops the first declaration that does not compile on its own,
whatever follows it. The entries before the first such one compile, so the compilation comes to it,
and does not come to what follows. -/
theorem compile_eq_error_iff {declared : List Value} {fault : Fault} :
    compile registry owner declared = .error fault ↔
      ∃ entry, FirstRefused registry owner declared entry ∧
        compile registry owner [entry] = .error fault := by
  constructor
  · intro stopped
    obtain ⟨earlier, entry, later, rfl, passed, refused⟩ := mapM_eq_error stopped
    have alone := compile_singleton_eq_error_iff.2 refused
    refine ⟨entry, ⟨earlier, later, rfl, ?_, ?_⟩, alone⟩
    · intro other present
      obtain ⟨validator, made⟩ := passed other present
      exact ⟨[validator], compile_singleton_eq_ok_iff.2 made⟩
    · rintro ⟨validators, compiled⟩
      rw [alone] at compiled
      cases compiled
  · rintro ⟨entry, ⟨earlier, later, rfl, passed, -⟩, alone⟩
    obtain ⟨validators, compiled⟩ := exists_compile passed
    rw [compile_append, compiled, ← List.singleton_append, compile_append, alone]
    rfl

/-- Rules are compiled entry by entry.

Two lists in a row compile exactly if both do, and then to the validators of both in a row. What
stops a compilation is the first entry that does not compile on its own, with the fault of that
entry, whatever follows it. Otherwise there is a validator for each entry, which the entry gives on
its own.

An entry that is a validator gives that validator. Any other entry is read as a rule; its validator
has the attributes and the scenarios of the rule, and its check is the one chosen by what the rule
asks for: a method of the owner, the kind of a registered alias, a kind given directly or a
function, in this order. Changes of the registry that are not about the alias which the entry looks
up, if it looks up any, make no difference to it. -/
theorem compile_entrywise (registry : Registry) (owner : Option Owner) :
    (∀ first second validators, compile registry owner (first ++ second) = .ok validators ↔
      ∃ earlier later, compile registry owner first = .ok earlier ∧
        compile registry owner second = .ok later ∧ earlier ++ later = validators) ∧
    (∀ declared fault, compile registry owner declared = .error fault ↔
      ∃ entry, FirstRefused registry owner declared entry ∧
        compile registry owner [entry] = .error fault) ∧
    (∀ declared validators, compile registry owner declared = .ok validators ↔
      List.Forall₂ (fun entry validator => compile registry owner [entry] = .ok [validator])
        declared validators) ∧
    (∀ ready : Validator, compile registry owner [.validator ready] = .ok [ready]) ∧
    (∀ entry validator, compile registry owner [entry] = .ok [validator] →
      entry = .validator validator ∨ ∃ rule, Rule.ofDeclaration entry = .ok rule ∧
        Compilation.NamedAs rule validator ∧
        Compilation.Chosen registry owner rule.validator validator.check) ∧
    ∀ changes entry validator,
      (∀ change ∈ changes, ¬Compilation.LooksUp owner entry change.about) →
        (compile (registry.applyAll changes) owner [entry] = .ok [validator] ↔
          compile registry owner [entry] = .ok [validator]) := by
  refine ⟨?_, fun _ _ => compile_eq_error_iff, fun _ _ => compile_eq_ok_iff, fun _ => rfl, ?_, ?_⟩
  · intro first second validators
    rw [compile_append, bind_eq_ok_iff]
    simp only [bind_eq_ok_iff, pure, Except.pure, Except.ok.injEq, exists_and_left]
  · intro entry validator compiled
    rw [compile_singleton_eq_ok_iff] at compiled
    exact Compilation.ofDeclaration_eq_ok compiled
  · intro changes entry validator others
    have alike (name : String) (looks : Compilation.LooksUp owner entry name) :
        (registry.applyAll changes).get? name = registry.get? name :=
      registry.get?_applyAll fun change present same =>
        others change present (same ▸ looks)
    simp only [compile_singleton_eq_ok_iff]
    exact ⟨Compilation.ofDeclaration_congr alike,
      Compilation.ofDeclaration_congr fun name looks => (alike name looks).symm⟩

/-- A record has a method that is called as an alias is. The rule that asks for it gets the method,
the rule behind it the kind of its alias with the scenario it names, and the last entry is kept. The
rule for numbers is compiled to the same validator if other aliases come and go. -/
theorem compile_entrywise_signUp :
    let owner : Owner := { typeName := "SignUp", hasMethod := (· == "required") }
    let named : Value := .tuple [.list ["name", "!role"], "required"]
    let counted : Value := .tuple ["age", "number", .map [("on", "import"), ("min", .int 18)]]
    let ready : Validator := Validator.marking [.text "note"] [] []
    let changes : List Registry.Change := [.unregister "required", .register "string" .filter]
    ∃ first second, compile .builtin (some owner) ([named] ++ [counted, .validator ready]) =
        .ok [first, second, ready] ∧
      (∃ params, first.check = .inline (.method "required") params (.bool true)) ∧
      first.attributes = [.text "name", .text "!role"] ∧
      second.check.kind = .number ∧ second.on = [.text "import"] ∧
      compile (Registry.builtin.applyAll changes) (some owner) [counted] = .ok [second] := by
  intro owner named counted ready changes
  obtain ⟨append, -, each, keeps, comes, unaffected⟩ := compile_entrywise .builtin (some owner)
  obtain ⟨first, firstMade⟩ : ∃ first, compile .builtin (some owner) [named] = .ok [first] :=
    ⟨_, rfl⟩
  obtain ⟨second, secondMade⟩ :
      ∃ second, compile .builtin (some owner) [counted] = .ok [second] := ⟨_, rfl⟩
  have whole : compile .builtin (some owner) ([named] ++ [counted, .validator ready]) =
      .ok [first, second, ready] :=
    (append _ _ _).2 ⟨[first], [second, ready], firstMade,
      (each _ _).2 (.cons secondMade (.cons (keeps ready) .nil)), rfl⟩
  have namedRule : Rule.ofDeclaration named = .ok
      { attributes := .list ["name", "!role"], validator := "required", on := .list []
        except := .list [], params := [] } := rfl
  have countedRule : Rule.ofDeclaration counted = .ok
      { attributes := .list ["age"], validator := "number", on := .list ["import"]
        except := .list [], params := [("min", .int 18)] } := rfl
  have others : ∀ change ∈ changes, change.about ≠ "number" := by decide
  have unasked : ∀ change ∈ changes,
      ¬Compilation.LooksUp (some owner) counted change.about := by
    rintro change present ⟨rule, read, asks, -⟩
    obtain rfl := Except.ok.inj (countedRule.symm.trans read)
    exact others change present (Value.text.inj asks).symm
  obtain ⟨rule, read, firstNamed, firstChosen⟩ := (comes _ _ firstMade).resolve_left nofun
  obtain rfl := Except.ok.inj (namedRule.symm.trans read)
  obtain ⟨rule, read, secondNamed, secondChosen⟩ := (comes _ _ secondMade).resolve_left nofun
  obtain rfl := Except.ok.inj (countedRule.symm.trans read)
  refine ⟨first, second, whole, ?_, (Except.ok.inj firstNamed.attributes).symm, ?_,
    (Except.ok.inj secondNamed.on).symm, (unaffected _ _ _ unasked).2 secondMade⟩
  · generalize first.check = check at firstChosen ⊢
    cases firstChosen with
    | method params owned => exact ⟨params, rfl⟩
    | registered unowned found => cases unowned
    | function params unnamed isNoKind callable => cases unnamed
  · generalize second.check = check at secondChosen ⊢
    cases secondChosen with
    | method params owned => cases owned
    | registered unowned found => exact (Option.some.inj found).symm
    | function params unnamed isNoKind callable => cases unnamed

end

end RecordValidation
