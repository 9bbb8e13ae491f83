import RecordValidation.Compilation
import RecordValidation.Proofs.FaultOrigin

/-!
# Which declaration a fault of a compilation points at

Rules are compiled one by one, so a compilation stops at the first declaration that does not compile
on its own (`FirstRefused`), with the fault of that declaration alone.

What the fault says about the declaration depends on who found it. Reading a declaration, looking up
its alias and fitting its parameters to a kind of check blame the declaration they are about. A kind
that refuses its own settings, such as a pair of lengths of the wrong size, a relation nobody knows,
a set or a pattern that is missing or a filter that cannot be called, does not know what they were
declared in and names no rule, and nobody adds it. `Fault.PointsAt` says this of one fault,
`Compilation.faultsIn_ofDeclaration` of all that compiling a declaration can stop with, and
`compile_fault_exact` of a whole list of declarations.
-/

namespace RecordValidation

open Outcome

/-- A fault that is about a declaration names it, unless a kind of check refused its own settings,
which names no rule. -/
def Fault.PointsAt (declared : Value) : Fault → Prop
  | declaration problem rule => rule = if problem.isOfSettings then .null else declared
  | _ => True

/-- A fault of looking at settings points at any declaration as far as such faults do. A problem of
settings names no rule, whichever was compiled. -/
theorem Fault.OfSettings.pointsAt {fault : Fault} (held : fault.OfSettings) (declared : Value) :
    fault.PointsAt declared := by
  cases fault with
  | declaration problem rule =>
    obtain ⟨ofSettings, named⟩ := held
    rw [PointsAt, ofSettings, named, if_pos rfl]
  | _ => trivial

/-- The faults of compiling a declaration: they come from values and declarations, and point at the
declaration. -/
def Fault.OfCompiling (declared : Value) (fault : Fault) : Prop :=
  fault.IsLocal ∧ fault.PointsAt declared

/-- What is stopped only by looking at settings stops with faults of compiling any declaration. -/
theorem Outcome.FaultsIn.ofCompiling {α : Type} {outcome : Outcome α}
    (held : FaultsIn Fault.OfSettings outcome) (declared : Value) :
    FaultsIn (Fault.OfCompiling declared) outcome :=
  held.mono fun _ ofSettings => ⟨ofSettings.isLocal, ofSettings.pointsAt declared⟩

/-- Steps for each item of a list that stop do so at the first item whose step stops, with what that
step stops with.

Proof: by induction on the list. If the first step goes through, what stops the steps is what stops
the rest of them. -/
theorem Outcome.mapM_eq_error {α β : Type} {step : α → Outcome β} {items : List α} {fault : Fault}
    (stopped : items.mapM step = .error fault) :
    ∃ earlier item later, items = earlier ++ item :: later ∧
      (∀ other ∈ earlier, ∃ value, step other = .ok value) ∧ step item = .error fault := by
  induction items with
  | nil => cases stopped
  | cons first rest inductionHypothesis =>
    rw [List.mapM_cons] at stopped
    cases here : step first with
    | error other =>
      rw [here] at stopped
      obtain rfl := Except.error.inj stopped
      exact ⟨[], first, rest, rfl, nofun, here⟩
    | ok value =>
      have later : rest.mapM step = .error fault := by
        rw [here] at stopped
        cases others : rest.mapM step with
        | error other =>
          rw [others] at stopped
          exact congrArg _ (Except.error.inj stopped)
        | ok values =>
          rw [others] at stopped
          cases stopped
      obtain ⟨earlier, item, others, split, passed, refused⟩ := inductionHypothesis later
      refine ⟨first :: earlier, item, others, by rw [split]; rfl, ?_, refused⟩
      intro other present
      rcases List.mem_cons.1 present with rfl | among
      · exact ⟨value, here⟩
      · exact passed other among

/-! ## Reading a declaration -/

/-- The faults of taking a value for one of another type. -/
def Fault.OfConversion : Fault → Prop
  | misuse _ | badValue => True
  | _ => False

/-- Taking a value for one of another type is looking at settings. -/
theorem Fault.OfConversion.ofSettings {fault : Fault} (held : fault.OfConversion) :
    fault.OfSettings := by
  cases fault with
  | misuse | badValue => trivial
  | _ => exact held.elim

namespace Value

/-- Only a value that is not made of two items, the first of them a name, is no pair. Neither blames
a declaration, as the pair does not know what it belongs to. -/
theorem faultsIn_asPair (value : Value) : FaultsIn Fault.OfConversion value.asPair := by
  have isName (item : Value) : FaultsIn Fault.OfConversion item.asName := by
    unfold asName
    split
    · exact faultsIn_ok _
    · exact faultsIn_error trivial
  unfold asPair
  split
  · exact faultsIn_error trivial
  · exact (isName _).bind fun _ => faultsIn_ok _
  · exact faultsIn_error trivial

/-- Only a value that is no map and no sequence of pairs is no table. The pairs are read one by one,
and the first that is none stops the reading. -/
theorem faultsIn_toTable (value : Value) : FaultsIn Fault.OfConversion value.toTable := by
  have hasItems : FaultsIn Fault.OfConversion value.items := by
    unfold Value.items
    split
    · exact faultsIn_ok _
    · exact faultsIn_error trivial
  unfold toTable
  split
  · exact faultsIn_ok _
  · refine hasItems.bind fun items => ?_
    exact (faultsIn_mapM items faultsIn_asPair).bind fun _ => faultsIn_ok _

end Value

namespace Rule

/-- What is wrong with the parts of a rule is blamed on its declaration, whether a part is missing
or is of the wrong type. -/
theorem faultsIn_ofPieces (declared attributes validator : Value) (params : Value.Table Value) :
    FaultsIn (Fault.OfCompiling declared) (ofPieces declared attributes validator params) := by
  unfold ofPieces
  split
  · unfold ofParts
    split
    · exact faultsIn_ok _
    · exact faultsIn_error ⟨trivial, rfl⟩
  · exact faultsIn_error ⟨trivial, rfl⟩

/-- What is wrong with a declaration is blamed on it. Only parameters that are no table stop it
otherwise, since those are taken as a table before anybody looks at the rule. -/
theorem faultsIn_ofDeclaration (declared : Value) :
    FaultsIn (Fault.OfCompiling declared) (ofDeclaration declared) := by
  have ofMap (entries : Value.Table Value) :
      FaultsIn (Fault.OfCompiling declared) (ofMap declared entries) := by
    simp only [Rule.ofMap]
    split
    · have isTable (value : Value) : FaultsIn Fault.OfSettings value.toTable :=
        value.faultsIn_toTable.mono fun _ => Fault.OfConversion.ofSettings
      exact ((isTable _).ofCompiling declared).bind fun _ => faultsIn_ofPieces _ _ _ _
    · exact (faultsIn_ok _).bind fun _ => faultsIn_ofPieces _ _ _ _
  have ofSequence (items : List Value) :
      FaultsIn (Fault.OfCompiling declared) (ofSequence declared items) := by
    unfold Rule.ofSequence
    split
    · exact faultsIn_ofPieces _ _ _ _
    · exact faultsIn_ofPieces _ _ _ _
    · exact faultsIn_error ⟨trivial, rfl⟩
    · exact faultsIn_error ⟨trivial, rfl⟩
  unfold ofDeclaration
  split
  · exact faultsIn_ok _
  · exact ofMap _
  · exact ofSequence _
  · exact ofSequence _
  · exact faultsIn_error ⟨trivial, rfl⟩

end Rule

/-! ## Building the validator of a rule -/

namespace Compilation

/-- Only parameters without a name and parameters given twice are refused. They are refused as a
misuse of the kind, which whoever builds the validator turns into a fault of its declaration. -/
theorem faultsIn_withParams (kind : CheckKind) (fixed : Arguments)
    (params : List (Value × Value)) :
    FaultsIn Fault.OfSettings (withParams kind fixed params) := by
  have name (value : Value) : FaultsIn Fault.OfSettings (argumentName value) := by
    unfold argumentName
    split
    · exact faultsIn_ok _
    · exact faultsIn_error trivial
  refine (faultsIn_mapM params fun entry => (name entry.1).bind fun _ => faultsIn_ok _).bind
    fun params => ?_
  split
  · exact faultsIn_error trivial
  · exact faultsIn_ok _

/-- Building the validator of a rule stops with what building any validator stops with. -/
theorem faultsIn_instantiate (kind : CheckKind) (rule : Rule) (before : Arguments) :
    FaultsIn Fault.OfSettings (instantiate kind rule before) := by
  refine rule.attributes.faultsIn_items.bind fun attributes => ?_
  refine rule.on.faultsIn_items.bind fun on => ?_
  refine rule.except.faultsIn_items.bind fun except => ?_
  exact (faultsIn_withParams kind _ _).bind fun arguments => faultsIn_construct kind _ arguments

/-- Parameters that do not fit are blamed on the declaration; the rest is as it was. A misuse is the
one fault that is worded anew, and there the rule is named. -/
theorem faultsIn_inRule {outcome : Outcome Validator} (kind : Option CheckKind) (declared : Value)
    (held : FaultsIn Fault.OfSettings outcome) :
    FaultsIn (Fault.OfCompiling declared) (outcome.mapError (inRule kind declared)) := by
  cases outcome with
  | ok validator => exact faultsIn_ok validator
  | error fault =>
    refine faultsIn_error ?_
    have ofSettings : fault.OfSettings := held fault rfl
    cases fault with
    | misuse cause => exact ⟨trivial, rfl⟩
    | _ => exact ⟨ofSettings.isLocal, ofSettings.pointsAt declared⟩

/-- What stops a rule from being compiled points at its declaration. It is a kind, a method or
neither, and a rule that asks for neither is refused under its own name. -/
theorem faultsIn_ofRule (registry : Registry) (owner : Option Owner) (declared : Value)
    (rule : Rule) :
    FaultsIn (Fault.OfCompiling declared) (ofRule registry owner declared rule) := by
  have ofKind (kind : CheckKind) :
      FaultsIn (Fault.OfCompiling declared) (ofKind declared kind rule) :=
    faultsIn_inRule _ _ (faultsIn_instantiate kind rule [])
  have ofMethod (method : Value) (bound : Bool) :
      FaultsIn (Fault.OfCompiling declared) (ofMethod declared method bound rule) :=
    faultsIn_inRule _ _ (faultsIn_instantiate .inline rule _)
  unfold ofRule
  split
  · split
    · exact ofMethod _ _
    · split
      · exact ofKind _
      · exact faultsIn_error ⟨trivial, rfl⟩
  · exact ofKind _
  · split
    · exact ofMethod _ _
    · exact faultsIn_error ⟨trivial, rfl⟩

/-- What stops a declaration from being compiled points at it. -/
theorem faultsIn_ofDeclaration (registry : Registry) (owner : Option Owner) (declared : Value) :
    FaultsIn (Fault.OfCompiling declared) (ofDeclaration registry owner declared) := by
  unfold ofDeclaration
  split
  · exact faultsIn_ok _
  · exact (Rule.faultsIn_ofDeclaration declared).bind fun rule =>
      faultsIn_ofRule registry owner declared rule

end Compilation

/-! ## Compiling a list of declarations -/

/-- A declaration compiles on its own. -/
def Compiles (registry : Registry) (owner : Option Owner) (declared : Value) : Prop :=
  ∃ validators, compile registry owner [declared] = .ok validators

/-- The first of some declarations that does not compile on its own. -/
def FirstRefused (registry : Registry) (owner : Option Owner) (declared : List Value)
    (entry : Value) : Prop :=
  ∃ earlier later, declared = earlier ++ entry :: later ∧
    (∀ other ∈ earlier, Compiles registry owner other) ∧ ¬Compiles registry owner entry

/-- A declaration on its own is compiled as it is among others. -/
theorem compile_singleton (registry : Registry) (owner : Option Owner) (declared : Value) :
    compile registry owner [declared] =
      (fun validator => [validator]) <$> Compilation.ofDeclaration registry owner declared := by
  rw [compile, List.mapM_cons, List.mapM_nil]
  rfl

/-- Declarations are stopped from being compiled only by values and declarations. -/
theorem faultsIn_compile (registry : Registry) (owner : Option Owner) (declared : List Value) :
    FaultsIn Fault.IsLocal (compile registry owner declared) :=
  faultsIn_mapM declared fun entry =>
    (Compilation.faultsIn_ofDeclaration registry owner entry).mono fun _ held => held.1

/-- A compilation that stops does so at the first declaration that does not compile on its own, with
the fault with which that declaration stops on its own. If the fault is about a declaration, it
names that one, except where a kind of check refused its own settings: then it names no rule, and
the declaration is not named.

Proof: declarations are compiled one after the other, so what stops the compilation is what stops
the first of them that does not compile, and each fault of compiling a declaration points at it as
far as it points at any. A declaration that is absent is not read, so it is never refused for its
settings. -/
theorem compile_fault_exact {registry : Registry} {owner : Option Owner} {declared : List Value}
    {fault : Fault} (stopped : compile registry owner declared = .error fault) :
    ∃ entry, FirstRefused registry owner declared entry ∧
      compile registry owner [entry] = .error fault ∧
      ∀ problem rule, fault = .declaration problem rule →
        (problem.isOfSettings = false → rule = entry) ∧
        (problem.isOfSettings = true → rule = .null ∧ entry ≠ .null) := by
  obtain ⟨earlier, entry, later, split, passed, refused⟩ := mapM_eq_error stopped
  have alone : compile registry owner [entry] = .error fault := by
    rw [compile_singleton, refused]
    rfl
  refine ⟨entry, ⟨earlier, later, split, ?_, ?_⟩, alone, ?_⟩
  · intro other present
    obtain ⟨validator, compiled⟩ := passed other present
    exact ⟨[validator], by rw [compile_singleton, compiled]; rfl⟩
  · rintro ⟨validators, compiled⟩
    rw [alone] at compiled
    cases compiled
  · rintro problem rule rfl
    have named : rule = if problem.isOfSettings then .null else entry :=
      (Compilation.faultsIn_ofDeclaration registry owner entry _ refused).2
    constructor
    · intro ofReading
      rwa [ofReading, if_neg Bool.false_ne_true] at named
    · intro ofSettings
      rw [ofSettings, if_pos rfl] at named
      refine ⟨named, ?_⟩
      rintro rfl
      have read : Compilation.ofDeclaration registry owner .null =
          .error (.declaration (.notARule "NoneType") .null) := rfl
      rw [read] at refused
      cases refused
      cases ofSettings

/-- An alias that nobody registered is blamed on the rule that uses it, and not on the rule before
it. -/
theorem compile_fault_exact_misspelled :
    let name : Value := .tuple ["name", "required"]
    let role : Value := .tuple ["role", "requird"]
    ∃ problem, compile .builtin none [name, role] = .error (.declaration problem role) ∧
      FirstRefused .builtin none [name, role] role := by
  intro name role
  have stopped : compile .builtin none [name, role] =
      .error (.declaration (Registry.builtin.unknownAlias "requird") role) := rfl
  obtain ⟨entry, first, -, points⟩ := compile_fault_exact stopped
  obtain rfl := (points _ _ rfl).1 rfl
  exact ⟨_, stopped, first⟩

/-- A rule that checks a role against a set and gives none is the first that does not compile, but
the fault that says so does not name it. -/
theorem missing_range_names_no_rule :
    let name : Value := .tuple ["name", "required"]
    let role : Value := .tuple ["role", "in"]
    FirstRefused .builtin none [name, role] role ∧
      ∃ problem rule, compile .builtin none [name, role] = .error (.declaration problem rule) ∧
        rule ≠ role := by
  intro name role
  have compiled : Compiles .builtin none name := ⟨_, rfl⟩
  have refused : compile .builtin none [role] = .error (.declaration .missingRange .null) := rfl
  refine ⟨⟨[name], [], rfl, ?_, ?_⟩, .missingRange, .null, rfl, nofun⟩
  · intro other present
    exact List.mem_singleton.1 present ▸ compiled
  · rintro ⟨validators, compiles⟩
    rw [refused] at compiles
    cases compiles

end RecordValidation
