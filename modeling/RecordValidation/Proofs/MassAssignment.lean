import RecordValidation.Proofs.ModelState

/-!
# Mass assignment writes exactly what it may

Mass assignment goes through the entries of a map in order. An entry with a permitted name is
written, any other is refused, and neither has a say in what becomes of the rest. `assigned` is the
session that results, told without the loop: the permitted entries are written to the values and
what is told of the refused ones is added to the events (`run_writeEntries`).

`Resolution.MayAssign` says what is permitted in terms of the validators, and
`setAttributes_exact` draws the conclusion for models.
-/

namespace RecordValidation

namespace Resolution

/-- Mass assignment may write a name in a scenario: it has no mark, the scenario is the default one
or is mentioned, and a validator active there lists the name. -/
def MayAssign (default : Value) (validators : List Validator) (scenario name : Value) : Prop :=
  ∃ unmarked, name = .text unmarked ∧ Descriptor.isUnsafe unmarked = false ∧
    ((scenario == default) = true ∨ Mentioned validators scenario) ∧
    ∃ validator ∈ validators, validator.appliesTo scenario = true ∧ name ∈ validator.attributes

/-- The names that mass assignment may write are the safe attributes. -/
theorem contains_safeAttributes {default : Value} {validators : List Validator}
    {scenario name : Value} :
    ((safeAttributes default validators scenario).map .text).contains name = true ↔
      MayAssign default validators scenario name := by
  rw [Value.contains_texts]
  constructor
  · rintro ⟨unmarked, safe, rfl⟩
    exact ⟨unmarked, rfl, mem_safeAttributes.1 safe⟩
  · rintro ⟨unmarked, rfl, safe⟩
    exact ⟨unmarked, mem_safeAttributes.2 safe, rfl⟩

/-- An attribute may be assigned exactly if it is safe. -/
theorem mayAssign_text {default : Value} {validators : List Validator} {scenario : Value}
    {name : String} : MayAssign default validators scenario (.text name) ↔
      name ∈ safeAttributes default validators scenario := by
  rw [← contains_safeAttributes, Value.contains_texts]
  constructor
  · rintro ⟨other, safe, same⟩
    exact Value.text.inj same ▸ safe
  · intro safe
    exact ⟨name, safe, rfl⟩

instance (default : Value) (validators : List Validator) (scenario name : Value) :
    Decidable (MayAssign default validators scenario name) :=
  decidable_of_iff _ contains_safeAttributes

end Resolution

namespace Model

/-! ## The loop -/

/-- Writing an attribute that is there changes its value. -/
theorem write_of_contains {model : Model} {name : Value} (value : Value) (named : name.IsName)
    (held : model.values.contains name = true) :
    model.write name value = .ok { model with values := model.values.insert name value } := by
  simp only [write, Value.asName_of_isName named, bind, Except.bind, held, ↓reduceIte]
  rfl

/-- A session in which the entries with permitted names are written, and what there is to tell of
the others has been told. -/
def assigned (permits : Value → Bool) (told : Value × Value → List Event)
    (entries : List (Value × Value)) (session : Session Model) : Session Model :=
  { session with
    record := { session.record with
      values := session.record.values.insertAll (entries.filter fun entry => permits entry.1) }
    events := session.events ++ (entries.filter fun entry => !permits entry.1).flatMap told }

/-- Assigning the entries of a map writes those with permitted names and tells of the others, if a
refusal tells something and does nothing else.

Proof: by induction on the entries, wherever the assignment starts. A written entry leaves the
attributes there are and whom there is to tell, so the rest finds what it needs. -/
theorem run_writeEntries (host : Host Model) (permitted : List Value)
    (refuse : Value → Value → Act Model Unit) (told : Value × Value → List Event)
    (entries : List (Value × Value)) (session : Session Model)
    (writes : host.write = Model.write)
    (tells : ∀ reached : Session Model, reached.record.type = session.record.type →
      reached.record.onUnsafe = session.record.onUnsafe → ∀ name value,
        (refuse name value).run reached =
          .ok () { reached with events := reached.events ++ told (name, value) })
    (held : ∀ entry ∈ entries, permitted.contains entry.1 = true →
      entry.1.IsName ∧ session.record.values.contains entry.1 = true) :
    ∃ written, (Assignment.writeEntries host permitted refuse entries).run session =
      .ok written (assigned permitted.contains told entries session) := by
  induction entries generalizing session with
  | nil => exact ⟨[], by simp [Assignment.writeEntries, assigned]⟩
  | cons entry rest inductionHypothesis =>
    obtain ⟨name, value⟩ := entry
    by_cases permits : permitted.contains name = true
    · obtain ⟨named, present⟩ := held (name, value) (by simp) permits
      have first : (host.set name value).run session = .ok () { session with
          record := { session.record with
            values := session.record.values.insert name value } } := by
        simp only [Host.set, writes, EStateM.run_bind, Act.run_record,
          write_of_contains value named present, Act.ofOutcome_ok, EStateM.run_pure,
          Act.run_setRecord]
      obtain ⟨written, others⟩ := inductionHypothesis { session with
          record := { session.record with values := session.record.values.insert name value } }
        tells fun other later allowed => by
          obtain ⟨otherNamed, otherPresent⟩ := held other (List.mem_cons_of_mem _ later) allowed
          refine ⟨otherNamed, ?_⟩
          rw [← OrderedMap.contains_keys, session.record.values.keys_insert value present,
            OrderedMap.contains_keys]
          exact otherPresent
      refine ⟨name :: written, ?_⟩
      simp only [Assignment.writeEntries, permits, ↓reduceIte, EStateM.run_bind, first, others,
        EStateM.run_pure, assigned, List.filter_cons_of_pos, OrderedMap.insertAll_cons,
        Bool.not_true, Bool.false_eq_true, not_false_eq_true, List.filter_cons_of_neg]
    · have first := tells session rfl rfl name value
      obtain ⟨written, others⟩ := inductionHypothesis
        { session with events := session.events ++ told (name, value) } tells
        fun other later allowed => held other (List.mem_cons_of_mem _ later) allowed
      have refused : permitted.contains name = false := by simpa using permits
      refine ⟨written, ?_⟩
      simp only [Assignment.writeEntries, refused, Bool.false_eq_true, ↓reduceIte,
        EStateM.run_bind, first, others, assigned, not_false_eq_true, List.filter_cons_of_neg,
        Bool.not_false, List.filter_cons_of_pos, List.flatMap_cons, List.append_assoc]

/-- A written entry is read back. No two of the names are the same, so no later entry overwrites
it. -/
theorem read_assigned_of_mem {permits : Value → Bool} {told : Value × Value → List Event}
    {entries : List (Value × Value)} {session : Session Model} {entry : Value × Value}
    (distinct : entries.Pairwise fun a b => (a.1 == b.1) = false) (present : entry ∈ entries)
    (named : entry.1.IsName) (permitted : permits entry.1 = true) :
    (assigned permits told entries session).record.read entry.1 = .ok entry.2 := by
  have kept : entry ∈ entries.filter fun entry => permits entry.1 :=
    List.mem_filter.2 ⟨present, permitted⟩
  have keptDistinct := distinct.filter fun entry => permits entry.1
  have value : (assigned permits told entries session).record.values.get? entry.1 =
      some entry.2 := by
    simp only [assigned, OrderedMap.get?_insertAll _ _ _ keptDistinct,
      OrderedMap.lookup_of_mem kept keptDistinct, Option.some_or]
  simp only [read, Value.asName_of_isName named, bind, Except.bind, value]
  rfl

/-- An attribute that is the same as no written one keeps its value. The names of the refused
entries are not among the keys that are written, whatever they are. -/
theorem read_assigned_of_unwritten {permits : Value → Bool} {told : Value × Value → List Event}
    {entries : List (Value × Value)} {session : Session Model} {name : Value}
    (distinct : entries.Pairwise fun a b => (a.1 == b.1) = false)
    (unwritten : ∀ entry ∈ entries, permits entry.1 = true → (name == entry.1) = false) :
    (assigned permits told entries session).record.read name = session.record.read name := by
  refine read_congr rfl ?_
  have absent : (entries.filter fun entry => permits entry.1).lookup name = none := by
    rw [List.lookup_eq_none_iff]
    intro entry kept
    obtain ⟨present, permitted⟩ := List.mem_filter.1 kept
    rw [bne, unwritten entry present permitted, Bool.not_false]
  simp only [assigned, OrderedMap.get?_insertAll _ _ _ (distinct.filter _), absent, Option.none_or]

/-! ## Refusals -/

/-- What is to be told of an entry that a model refuses: a trace if its type asks for one, and a
notice to each observer. -/
def refusalEvents (model : Model) (entry : Value × Value) : List Event :=
  (if model.type.tracesUnsafe.truthy then [.rejected model.type.name entry.1] else []) ++
    model.onUnsafe.map fun _ => .notice model.type.name entry.1 entry.2

/-- Observers that do not stop are told one after the other. One that stops would keep the later
ones from being told, which the premise excludes. -/
theorem run_notify (typeName : String) (name value : Value) (observers : List UnsafeObserver)
    (continues : ∀ observer ∈ observers, observer.raises = none) (session : Session Model) :
    (notify typeName name value observers).run session = .ok () { session with
      events := session.events ++ observers.map fun _ => .notice typeName name value } := by
  induction observers generalizing session with
  | nil => simp [notify]
  | cons observer rest inductionHypothesis =>
    have others := inductionHypothesis fun other later =>
      continues other (List.mem_cons_of_mem _ later)
    simp only [notify, continues observer (by simp), EStateM.run_bind, Act.run_observe, others,
      List.map_cons, List.append_assoc, List.singleton_append]

/-- A refused entry is told of and has no other effect. The trace comes before the notices and is
left out unless the type of the model asks for it. -/
theorem run_reportUnsafe (name value : Value) (session : Session Model)
    (continues : ∀ observer ∈ session.record.onUnsafe, observer.raises = none) :
    (reportUnsafe name value).run session = .ok () { session with
      events := session.events ++ refusalEvents session.record (name, value) } := by
  rw [reportUnsafe, EStateM.run_bind, Act.run_record]
  by_cases traces : session.record.type.tracesUnsafe.truthy = true
  · simp only [traces, ↓reduceIte, EStateM.run_bind, Act.run_observe,
      run_notify _ _ _ _ continues, refusalEvents, List.append_assoc]
  · simp only [traces, Bool.false_eq_true, ↓reduceIte, run_notify _ _ _ _ continues,
      refusalEvents, List.nil_append]

/-! ## Assignments to a model -/

/-- A model on which safe assignments can be told: it declares no scenarios of its own, its rules
compile or its validators are kept, what they name without a mark is an attribute of the schema, and
no observer of refused assignments stops them. -/
structure AssignsSafely (model : Model) (active : List Validator) : Prop where
  derived : model.type.scenarios = none
  inForce : model.inForce = .ok active
  wellNamed : ∀ validator ∈ active, validator.WellNamed
  declared : ∀ validator ∈ active, ∀ name, Value.text name ∈ validator.attributes →
    Descriptor.isUnsafe name = false → name ∈ model.type.schema.names
  scenarioNamed : model.scenario.IsName
  continues : ∀ observer ∈ model.onUnsafe, observer.raises = none

/-- The names that safe assignments to a model may write. -/
def mayAssign (model : Model) (active : List Validator) (name : Value) : Bool :=
  decide (Resolution.MayAssign ScenarioMap.defaultScenario active model.scenario name)

/-- A name that may be written is a text, and one of the attributes. It has no mark and a validator
lists it, and the validators name nothing without a mark that the schema lacks. -/
theorem AssignsSafely.held {model : Model} {active : List Validator}
    (safely : model.AssignsSafely active) (follows : model.FollowsSchema) {name : Value}
    (permitted : model.mayAssign active name = true) :
    name.IsName ∧ model.values.contains name = true := by
  obtain ⟨unmarked, rfl, noMark, -, validator, present, -, listed⟩ := of_decide_eq_true permitted
  refine ⟨Value.isName_text unmarked, ?_⟩
  rw [follows.contains, attributeNames, Value.contains_text]
  exact List.mem_map_of_mem (safely.declared validator present unmarked listed noMark)

/-- Assigning a map to a record, where texts are permitted, goes through its entries. A map is a
sequence of entries and the permitted names are texts, so neither reading can fail. -/
theorem assign_map (host : Host Model) (entries : List (Value × Value)) (permitted : List String)
    (safeOnly : Value) (report : Value → Value → Act Model Unit) :
    assign host (.map entries) (.list (permitted.map .text)) safeOnly (some report) =
      Assignment.writeEntries host (permitted.map .text)
        (Assignment.refusal safeOnly (some report)) entries := by
  simp only [assign, Value.nameSet, Value.items, Value.items?, bind, Except.bind,
    Value.asNames_texts]
  rfl

/-- Safe assignments report what they refuse. -/
theorem refusal_of_safe {safeOnly : Value} (safe : safeOnly.truthy = true)
    (report : Value → Value → Act Model Unit) :
    Assignment.refusal safeOnly (some report) = report := by
  funext name value
  simp only [Assignment.refusal, safe, ↓reduceIte]

/-- Other assignments report nothing. -/
theorem refusal_of_not_safe {safeOnly : Value} (notSafe : safeOnly.truthy = false)
    (report : Value → Value → Act Model Unit) :
    Assignment.refusal safeOnly (some report) = fun _ _ => pure () := by
  funext name value
  simp only [Assignment.refusal, notSafe, Bool.false_eq_true, ↓reduceIte]

/-- A safe assignment keeps the validators in force, writes what may be written and tells of the
rest. The names are settled once, before the entries; writing an attribute changes neither the type
nor the observers of the model, so each refusal is reported as it would have been at the start. -/
theorem run_setAttributes_safe {session : Session Model} {active : List Validator}
    {safeOnly : Value} (safe : safeOnly.truthy = true) (follows : session.record.FollowsSchema)
    (safely : session.record.AssignsSafely active) (entries : List (Value × Value)) :
    (setAttributes (.map entries) safeOnly).run session =
      .ok () (assigned (session.record.mayAssign active) (refusalEvents session.record) entries
        (keeping active session)) := by
  obtain ⟨cache, record⟩ := record_keeping active session
  have permits : ((Resolution.safeAttributes ScenarioMap.defaultScenario active
      session.record.scenario).map Value.text).contains = session.record.mayAssign active := by
    funext name
    rw [Bool.eq_iff_iff, Resolution.contains_safeAttributes, mayAssign, decide_eq_true_iff]
  have told : ∀ reached : Session Model,
      reached.record.type = (keeping active session).record.type →
      reached.record.onUnsafe = (keeping active session).record.onUnsafe → ∀ name value,
        (reportUnsafe name value).run reached = .ok () { reached with
          events := reached.events ++ refusalEvents session.record (name, value) } := by
    intro reached sameType sameObservers name value
    rw [record] at sameType sameObservers
    rw [run_reportUnsafe name value reached (sameObservers ▸ safely.continues)]
    simp only [refusalEvents, sameType, sameObservers]
  obtain ⟨written, writes⟩ := run_writeEntries (plainHost session.record.type)
    ((Resolution.safeAttributes ScenarioMap.defaultScenario active
      session.record.scenario).map .text) reportUnsafe (refusalEvents session.record) entries
    (keeping active session) rfl told fun entry _ allowed => by
      rw [permits] at allowed
      rw [record]
      exact safely.held follows allowed
  simp only [setAttributes, safe, ↓reduceIte, map_eq_pure_bind, EStateM.run_bind,
    run_safeAttributes safely.derived safely.inForce safely.wellNamed safely.scenarioNamed,
    EStateM.run_pure, Act.run_record, assign_map, refusal_of_safe safe, record, writes, permits]

/-- An assignment that is not safe writes every attribute of the schema and tells nothing.
Validators are not asked for, which is why no cache appears here and the rules need not compile. -/
theorem run_setAttributes_of_not_safe {session : Session Model} {safeOnly : Value}
    (notSafe : safeOnly.truthy = false) (follows : session.record.FollowsSchema)
    (entries : List (Value × Value)) :
    (setAttributes (.map entries) safeOnly).run session =
      .ok () (assigned session.record.attributeNames.contains (fun _ => []) entries session) := by
  have told : ∀ reached : Session Model, reached.record.type = session.record.type →
      reached.record.onUnsafe = session.record.onUnsafe → ∀ name value : Value,
        (pure () : Act Model Unit).run reached = .ok () { reached with
          events := reached.events ++ (fun _ : Value × Value => []) (name, value) } := by
    intro reached _ _ name value
    simp
  obtain ⟨written, writes⟩ := run_writeEntries (plainHost session.record.type)
    session.record.attributeNames (fun _ _ => pure ()) (fun _ => []) entries session rfl told
    fun entry _ allowed => by
      rw [follows.contains]
      obtain ⟨name, -, isText⟩ := (Value.contains_texts _ _).1 allowed
      exact ⟨isText ▸ Value.isName_text name, allowed⟩
  simp only [attributeNames] at writes
  simp only [setAttributes, notSafe, Bool.false_eq_true, ↓reduceIte, map_eq_pure_bind,
    EStateM.run_bind, EStateM.run_pure, Act.run_record, attributeNames, assign_map,
    refusal_of_not_safe notSafe, writes]

/-- Replacing the values of refused names changes nothing about the permitted entries. The permitted
entries are the ones that are not replaced, and a name is all that decides about an entry. -/
theorem filter_forged (permits : Value → Bool) (forged : Value × Value → Value)
    (entries : List (Value × Value)) :
    (entries.map fun entry => (entry.1, if permits entry.1 then entry.2 else forged entry)).filter
        (fun entry => permits entry.1) =
      entries.filter fun entry => permits entry.1 := by
  induction entries with
  | nil => rfl
  | cons entry rest inductionHypothesis =>
    simp only [List.map_cons, List.filter_cons, inductionHypothesis]
    by_cases permitted : permits entry.1 = true
    · simp only [permitted, ↓reduceIte]
    · simp only [permitted, Bool.false_eq_true, ↓reduceIte]

/-- Mass assignment writes exactly what it may.

A safe assignment of a map sets a name to its value in the map if the name may be written in the
scenario, and leaves every other attribute as it is. It tells of each refused entry once and in
order, does not touch the errors, the scenario or which attributes there are, and arrives at the
same record whatever values the refused names came with. An assignment that is not safe sets exactly
the attributes of the schema and tells nothing.

Proof: `run_setAttributes_safe` and `run_setAttributes_of_not_safe` give the session that results.
As the names of a map are unlike each other, a permitted entry is found under its name and hides no
other attribute. -/
theorem setAttributes_exact (session : Session Model) (active : List Validator)
    (entries : List (Value × Value)) (safeOnly : Value) (follows : session.record.FollowsSchema)
    (distinct : entries.Pairwise fun a b => (a.1 == b.1) = false) :
    (safeOnly.truthy = true → session.record.AssignsSafely active →
      let May := Resolution.MayAssign ScenarioMap.defaultScenario active session.record.scenario
      ∃ after, (setAttributes (.map entries) safeOnly).run session = .ok () after ∧
        (∀ entry ∈ entries, May entry.1 → after.record.read entry.1 = .ok entry.2) ∧
        (∀ name, (∀ entry ∈ entries, (name == entry.1) = true → ¬ May entry.1) →
          after.record.read name = session.record.read name) ∧
        after.events = (keeping active session).events ++
          (entries.filter fun entry => ¬ May entry.1).flatMap (refusalEvents session.record) ∧
        after.errors = session.errors ∧
        after.record.scenario = session.record.scenario ∧
        after.record.FollowsSchema ∧
        ∀ forged : Value × Value → Value, ∃ other,
          (setAttributes (.map (entries.map fun entry =>
            (entry.1, if May entry.1 then entry.2 else forged entry))) safeOnly).run session =
              .ok () other ∧ other.record = after.record) ∧
    (safeOnly.truthy = false →
      ∃ after, (setAttributes (.map entries) safeOnly).run session = .ok () after ∧
        (∀ entry ∈ entries, entry.1 ∈ session.record.attributeNames →
          after.record.read entry.1 = .ok entry.2) ∧
        (∀ name, (∀ entry ∈ entries, (name == entry.1) = true →
            entry.1 ∉ session.record.attributeNames) →
          after.record.read name = session.record.read name) ∧
        after.events = session.events ∧
        after.errors = session.errors ∧
        after.record.scenario = session.record.scenario ∧
        after.record.FollowsSchema) := by
  constructor
  · intro safe safely May
    obtain ⟨cache, record⟩ := record_keeping active session
    have permits : ∀ name, session.record.mayAssign active name = decide (May name) := fun _ => rfl
    refine ⟨_, run_setAttributes_safe safe follows safely entries, ?_, ?_, ?_, ?_, ?_, ?_, ?_⟩
    · intro entry present may
      have permitted : session.record.mayAssign active entry.1 = true := decide_eq_true may
      exact read_assigned_of_mem distinct present (safely.held follows permitted).1 permitted
    · intro name unwritten
      refine (read_assigned_of_unwritten distinct fun entry present permitted => ?_).trans ?_
      · rw [Bool.eq_false_iff]
        intro same
        exact unwritten entry present same (of_decide_eq_true permitted)
      · exact read_congr (by rw [record]) (by rw [record])
    · simp only [assigned, permits, decide_not]
    · exact errors_keeping active session
    · simp only [assigned, record]
    · have held : ∀ entry ∈ entries.filter fun entry => session.record.mayAssign active entry.1,
          session.record.values.contains entry.1 = true := by
        intro entry kept
        exact (safely.held follows (List.mem_filter.1 kept).2).2
      simp only [assigned, record]
      exact follows.insertAll held
    · intro forged
      refine ⟨_, run_setAttributes_safe safe follows safely _, ?_⟩
      have same := filter_forged (session.record.mayAssign active) forged entries
      simp only [permits, decide_eq_true_iff] at same
      simp only [assigned, permits, same]
  · intro notSafe
    refine ⟨_, run_setAttributes_of_not_safe notSafe follows entries, ?_, ?_, ?_, rfl, rfl, ?_⟩
    · intro entry present declared
      obtain ⟨name, -, named⟩ := List.mem_map.1 declared
      refine read_assigned_of_mem distinct present (named ▸ Value.isName_text name) ?_
      rw [← named] at declared ⊢
      exact (Value.contains_text _ name).2 declared
    · intro name unwritten
      refine read_assigned_of_unwritten distinct fun entry present permitted => ?_
      rw [Bool.eq_false_iff]
      intro same
      obtain ⟨text, declared, isText⟩ := (Value.contains_texts _ _).1 permitted
      exact unwritten entry present same (isText ▸ List.mem_map_of_mem declared)
    · simp [assigned]
    · refine follows.insertAll fun entry kept => ?_
      rw [follows.contains]
      exact (List.mem_filter.1 kept).2

/-- Accounts, whose role is marked everywhere and can be assigned in `review`. -/
def accountType : ModelType where
  name := "Account"
  schema := ⟨[⟨"name", .null, none⟩, ⟨"role", .text "guest", none⟩], by decide⟩
  rules := [
    .list [.list [.text "name", .text "!role"], .text "safe"],
    .list [.text "role", .text "safe", .map [(.text "on", .text "review")]]]
  formName := .null
  tracesUnsafe := .bool true
  labels := none
  scenarios := none
  before := none
  after := none
  methods := .empty

/-- The validators of accounts. -/
def accountValidators : List Validator := [
  Validator.marking [.text "name", .text "!role"] [] [],
  Validator.marking [.text "role"] [.text "review"] []]

/-- A new account in a scenario, with somebody who observes refused assignments. -/
def newAccount (scenario : Value) : Model :=
  { fresh accountType scenario with onUnsafe := [⟨none⟩] }

/-- A new account can be assigned to in any scenario that is a name. Everything but the scenario is
settled by the rules and the schema of accounts, which are small enough to compute. -/
theorem assignsSafely_newAccount {scenario : Value} (named : scenario.IsName) :
    (newAccount scenario).AssignsSafely accountValidators where
  derived := rfl
  inForce := rfl
  wellNamed := by decide
  declared := by
    have covered : ∀ validator ∈ accountValidators, ∀ descriptor ∈ validator.attributes,
        descriptor.text?.all fun name =>
          Descriptor.isUnsafe name || accountType.schema.names.contains name := by decide
    intro validator present name listed unmarked
    have declared := covered validator present (.text name) listed
    change name ∈ accountType.schema.names
    simpa [Value.text?, unmarked] using declared
  scenarioNamed := named
  continues := by simp [newAccount]

/-- A form with a name and a role is assigned to a new account: the name is written, the role and an
unknown field are refused, and each of them is traced and noticed. -/
theorem setAttributes_exact_account :
    let form : List (Value × Value) := [(.text "role", .text "admin"), (.text "name", .text "Ada"),
      (.text "id", .int 7)]
    ∃ after, (setAttributes (.map form) (.bool true)).run (newAccount (.text "default")).session =
        .ok () after ∧
      after.record.read (.text "name") = .ok (.text "Ada") ∧
      after.record.read (.text "role") = .ok (.text "guest") ∧
      after.events = [.compiled 2 (some "Account"),
        .rejected "Account" (.text "role"), .notice "Account" (.text "role") (.text "admin"),
        .rejected "Account" (.text "id"), .notice "Account" (.text "id") (.int 7)] := by
  intro form
  have follows : (newAccount (.text "default")).FollowsSchema :=
    followsSchema_fresh accountType (.text "default")
  have unlike : form.Pairwise fun a b => (a.1 == b.1) = false := by decide
  obtain ⟨after, assigns, written, kept, events, -⟩ :=
    (setAttributes_exact (newAccount (.text "default")).session accountValidators form (.bool true)
      follows unlike).1 rfl (assignsSafely_newAccount (Value.isName_text "default"))
  refine ⟨after, assigns, ?_, ?_, events.trans ?_⟩
  · exact written (.text "name", .text "Ada") (by simp [form]) (by decide)
  · exact kept (.text "role") (by decide)
  · rfl

end Model

end RecordValidation
