import RecordValidation.Proofs.MassAssignment
import RecordValidation.Proofs.ModelWalk

/-!
# The attributes of a model

A model is made with a value for each attribute of its schema. From then on many write to it:
assignment in either mode, forms, checks that fill in or transform, methods that checks call,
observers, and whoever writes an attribute directly. `Model.Intact` says that it holds the
attributes of its schema and no others, in the order of the schema. What work on a model is made of
preserves that, since writing is the only part that touches the values and writes nothing that is
not there.

`Model.Request` is all that can be asked of a model, with questions that are answered from what it
holds. `attributes_fixed` is the main statement: however a model was made and whatever was asked of
it since, an attribute can be read and written exactly if the schema declares it.
-/

namespace RecordValidation

namespace Model

/-- A session on a model of a type that holds one value for each attribute of its schema. -/
structure Intact (type : ModelType) (session : Session Model) : Prop where
  ofType : session.record.type = type
  follows : session.record.FollowsSchema

variable {type : ModelType} {session : Session Model}

/-- A fresh model is intact. -/
theorem intact_fresh (type : ModelType) (scenario : Value) :
    Intact type (fresh type scenario).session :=
  ⟨rfl, followsSchema_fresh type scenario⟩

/-! ## What preserves the attributes -/

/-- The type and the values of a model. -/
def content (session : Session Model) : ModelType × Value.Table Value :=
  (session.record.type, session.record.values)

/-- What keeps the type and the values of a model leaves it intact. -/
theorem preserves_intact_of_keeps {α : Type} {work : Act Model α} (keeps : Act.Keeps content work) :
    Act.Preserves (Intact type) work := by
  intro session intact
  obtain ⟨sameType, sameValues⟩ := Prod.mk.inj (keeps session)
  refine ⟨sameType.trans intact.ofType, ?_⟩
  rw [FollowsSchema, attributeNames, sameValues, sameType]
  exact intact.follows

/-- Compiling the rules keeps the type and the values. -/
theorem keepsContent_compileRules : Act.Keeps content compileRules :=
  have closed := Act.compositional_keeps content
  closed.bind Act.keeps_record fun _ =>
    closed.bind (Act.keeps_ofOutcome _) fun _ =>
      closed.bind (fun _ => rfl : Act.Keeps content (Act.observe _)) fun _ => closed.pure _

/-- Changing what validators are kept keeps the type and the values. -/
theorem keepsContent_setCache (cache : ValidatorCache) : Act.Keeps content (setCache cache) :=
  fun _ => rfl

/-- Asking for the validators keeps the type and the values. -/
theorem keepsContent_validators : Act.Keeps content validators := by
  have closed := Act.compositional_keeps content
  refine closed.bind Act.keeps_record fun model => ?_
  split
  · exact closed.pure _
  · exact closed.bind keepsContent_compileRules fun _ =>
      closed.bind Act.keeps_record fun _ =>
        closed.bind (keepsContent_setCache _) fun _ => closed.pure _

/-- Adding a validator keeps the type and the values. -/
theorem keepsContent_inject (validator : Validator) : Act.Keeps content (inject validator) :=
  have closed := Act.compositional_keeps content
  closed.bind keepsContent_validators fun _ =>
    closed.bind Act.keeps_record fun _ => keepsContent_setCache _

/-- Taking a validator away keeps the type and the values. -/
theorem keepsContent_dropLast : Act.Keeps content dropLast := by
  have closed := Act.compositional_keeps content
  refine closed.bind keepsContent_validators fun kept => ?_
  split
  · exact closed.bind Act.keeps_record fun _ =>
      closed.bind (keepsContent_setCache _) fun _ => closed.pure _
  · exact Act.keeps_ofOutcome (.error _)

/-- Writing an attribute leaves a model intact. -/
theorem preserves_intact_set (name value : Value) :
    Act.Preserves (Intact type) (perform (.set name value)) := by
  intro session intact
  obtain ⟨values, result, follows⟩ := exists_values_of_set name value intact.follows
  rw [result]
  exact ⟨intact.ofType, follows⟩

/-- Nothing that work on a model is made of changes which attributes it holds. All of them but one
keep type and values, and the one that writes is `preserves_intact_set`. -/
theorem intact_primitives (type : ModelType) : Primitives (Act.Preserves (Intact type)) where
  toCompositional := Act.compositional_preserves (Intact type)
  looks := Act.preserves_ofOutcome
  record _ intact := intact
  errors _ intact := intact
  changesErrors _ := preserves_intact_of_keeps fun _ => rfl
  observes _ _ := preserves_intact_of_keeps fun _ => rfl
  writes := preserves_intact_set
  enters _ := preserves_intact_of_keeps fun _ => rfl
  validators := preserves_intact_of_keeps keepsContent_validators
  injects validator := preserves_intact_of_keeps (keepsContent_inject validator)
  resets := preserves_intact_of_keeps fun _ => rfl

/-! ## Making a model -/

/-- A model is intact when it is made, whatever values it is made with. The values are assigned to a
fresh model, without asking what is safe, and assignment preserves what its single things
preserve. -/
theorem intact_create {scenario : Value} {values : List (String × Value)}
    (made : create type scenario values = .ok () session) : Intact type session := by
  unfold create at made
  split at made
  · obtain rfl := (EStateM.Result.ok.inj made).2
    exact intact_fresh type scenario
  · have assigns := (intact_primitives type).setAttributes
      (.map (values.map fun entry => (.text entry.1, entry.2))) (.bool false) _
        (intact_fresh type scenario)
    rwa [(Act.run_eq_ok_iff.1 made).2] at assigns

/-- A model is intact when it is made, wherever its scenario stands among the arguments. It is given
apart from the values, among them or not at all, and in each case `intact_create` applies from there
on. -/
theorem intact_createWith {scenario : Option Value} {values : List (String × Value)}
    (made : createWith type scenario values = .ok () session) : Intact type session := by
  unfold createWith at made
  split at made
  · cases made
  · split at made
    · cases made
    · exact intact_create made
    · exact intact_create made
    · exact intact_create made

/-! ## What is asked of a model -/

/-- Anything that can be asked of a model: an operation, the value of an attribute or the values of
several, to add the errors of a map, to compile the rules without keeping what they compile to, and
to take the last validator away. -/
inductive Request
  | operation (operation : Operation)
  | get (name : Value)
  | getAttributes (names except : Value)
  | addErrors (items : Value)
  | compileRules
  | dropLast

/-- Do what is asked. -/
def Request.act : Request → Act Model Unit
  | operation asked => asked.act
  | get name => do let _ ← Act.ofOutcome ((← Act.record).read name)
  | getAttributes names except => do let _ ← Act.ofOutcome ((← Act.record).select names except)
  | addErrors items => do
    let (errors, outcome) := (← Act.errors).addAll items
    Act.modifyErrors fun _ => errors
    Act.ofOutcome outcome
  | compileRules => do let _ ← Model.compileRules
  | dropLast => do let _ ← Model.dropLast

/-- The session that requests leave which are answered one after the other, whether or not some of
them stop. -/
def runRequests (requests : List Request) (session : Session Model) : Session Model :=
  requests.foldl (fun reached request => request.act.final reached) session

/-- Every request leaves a model intact. Requests that are no operations look, change errors or have
to do with the validators. -/
theorem preserves_intact_request (request : Request) :
    Act.Preserves (Intact type) request.act := by
  have primitives := intact_primitives type
  have done {α : Type} {work : Act Model α} (held : Act.Preserves (Intact type) work) :
      Act.Preserves (Intact type) (do let _ ← work : Act Model Unit) :=
    primitives.bind held fun _ => primitives.pure ()
  cases request with
  | operation operation =>
    exact primitives.operation (fun _ _ _ => preserves_intact_of_keeps fun _ => rfl) operation
  | get name => exact primitives.bind primitives.record fun _ => done (primitives.looks _)
  | getAttributes names except =>
    exact primitives.bind primitives.record fun _ => done (primitives.looks _)
  | addErrors items =>
    exact primitives.bind primitives.errors fun _ =>
      primitives.bind (primitives.changesErrors _) fun _ => primitives.looks _
  | compileRules => exact done (preserves_intact_of_keeps keepsContent_compileRules)
  | dropLast => exact done (preserves_intact_of_keeps keepsContent_dropLast)

/-- Requests in a row leave a model intact, whether or not some of them stop. -/
theorem intact_runRequests (requests : List Request) (intact : Intact type session) :
    Intact type (runRequests requests session) := by
  induction requests generalizing session with
  | nil => exact intact
  | cons request rest inductionHypothesis =>
    exact inductionHypothesis (preserves_intact_request request session intact)

/-! ## Reading and writing -/

/-- What a model that is intact holds is what its schema declares. -/
theorem Intact.contains_iff (intact : Intact type session) (name : Value) :
    session.record.values.contains name = true ↔ name ∈ type.schema.names.map .text := by
  rw [intact.follows.contains, attributeNames, intact.ofType, Value.contains_texts, List.mem_map]
  constructor
  · rintro ⟨text, declared, rfl⟩
    exact ⟨text, declared, rfl⟩
  · rintro ⟨text, declared, rfl⟩
    exact ⟨text, declared, rfl⟩

/-- An attribute that is held can be read. -/
theorem exists_read_of_contains {model : Model} {name : Value} (named : name.IsName)
    (held : model.values.contains name = true) : ∃ value, model.read name = .ok value := by
  obtain ⟨value, found⟩ := Option.isSome_iff_exists.1 held
  refine ⟨value, ?_⟩
  simp only [read, Value.asName_of_isName named, bind, Except.bind, found]
  rfl

/-- A name under which nothing is held cannot be read. -/
theorem read_of_not_contains {model : Model} {name : Value} (named : name.IsName)
    (absent : model.values.contains name = false) :
    model.read name = .error (model.unknown name) := by
  have nothing : model.values.get? name = none := by simpa [OrderedMap.contains] using absent
  simp only [read, Value.asName_of_isName named, bind, Except.bind, nothing]
  rfl

/-- A name under which nothing is held cannot be written. -/
theorem write_of_not_contains {model : Model} {name : Value} (value : Value) (named : name.IsName)
    (absent : model.values.contains name = false) :
    model.write name value = .error (model.unknown name) := by
  simp only [write, Value.asName_of_isName named, bind, Except.bind, absent, Bool.false_eq_true,
    ↓reduceIte]
  rfl

/-- A value that cannot be a name can be neither read nor written. The cause is the type of the part
that cannot be compared, so it is the same whatever model is asked. -/
theorem refuses_of_not_isName {name : Value} (unnamed : ¬name.IsName) :
    ∃ cause, ∀ model : Model, model.read name = .error (.misuse cause) ∧
      ∀ value, model.write name value = .error (.misuse cause) := by
  obtain ⟨typeName, part⟩ := Option.ne_none_iff_exists'.1 unnamed
  refine ⟨.unhashable typeName, fun model => ⟨?_, fun value => ?_⟩⟩
  · simp only [read, Value.asName, part, bind, Except.bind]
  · simp only [write, Value.asName, part, bind, Except.bind]

/-- One session is another with a value written to an attribute: the value is read back, the other
attributes keep theirs, and nothing else is changed. -/
structure Wrote (name value : Value) (session after : Session Model) : Prop where
  written : after.record.read name = .ok value
  others : ∀ other, other ≠ name → after.record.read other = session.record.read other
  rest : after = { session with
    record := { session.record with values := after.record.values } }

/-- Writing an attribute that is declared changes its value and nothing else. A declared attribute
is held, so the write goes through, and of the values it changes one. -/
theorem Intact.run_set_of_declared (intact : Intact type session) {name : Value} (value : Value)
    (declared : name ∈ type.schema.names.map .text) :
    ∃ after, (perform (.set name value)).run session = .ok () after ∧
      Wrote name value session after := by
  obtain ⟨text, -, rfl⟩ := List.mem_map.1 declared
  have named : (Value.text text).IsName := Value.isName_text text
  have held := (intact.contains_iff _).2 declared
  refine ⟨_, by rw [run_set, write_of_contains value named held], ?_, ?_, rfl⟩
  · simp only [read, Value.asName_of_isName named, bind, Except.bind, OrderedMap.get?_insert,
      BEq.rfl, ↓reduceIte]
    rfl
  · intro other unlike
    have apart : (other == Value.text text) = false := by
      rw [BEq.comm, Bool.eq_false_iff]
      exact fun same => unlike ((Value.text_beq_iff text other).1 same)
    refine read_congr rfl ?_
    rw [OrderedMap.get?_insert, apart]
    rfl

end Model

open Model in
/-- The attributes of a model are those of its schema.

Take a model made with any scenario and values, and any requests made of it since, of which some may
have stopped with a fault: to write and read attributes, to assign in either mode, to load forms, to
validate with checks that fill in, transform or call methods of the model, to change its errors, its
scenario, its validators and its observers. Then it holds one value for each attribute of its
schema, in the order in which they are declared. An attribute can be read and written if it is
declared, and writing it changes nothing else. Any other name is unknown to both, and a value that
cannot be a name is refused; then nothing is changed.

Proof: everything that is done with a model is made of single things, of which only writing touches
the values, and writing what is not there stops. So the attributes of the schema are held
throughout, and what is held decides about reading and writing. -/
theorem attributes_fixed {type : ModelType} {scenario : Option Value}
    {values : List (String × Value)} {made : Session Model}
    (created : createWith type scenario values = .ok () made) (requests : List Request) :
    let session := runRequests requests made
    session.record.type = type ∧
    session.record.values.keys = type.schema.names.map .text ∧
    ∀ name value,
      (name ∈ type.schema.names.map .text →
        (∃ held, session.record.read name = .ok held) ∧
        ∃ after, (perform (.set name value)).run session = .ok () after ∧
          Wrote name value session after) ∧
      (name ∉ type.schema.names.map .text → name.IsName →
        session.record.read name = .error (.unknownAttribute name type.name) ∧
        (perform (.set name value)).run session =
          .error (.unknownAttribute name type.name) session) ∧
      (¬name.IsName → ∃ cause, session.record.read name = .error (.misuse cause) ∧
        (perform (.set name value)).run session = .error (.misuse cause) session) := by
  intro session
  have intact : Intact type session := intact_runRequests requests (intact_createWith created)
  refine ⟨intact.ofType, ?_, fun name value => ⟨fun declared => ⟨?_, ?_⟩, fun other named => ?_,
    fun unnamed => ?_⟩⟩
  · rw [intact.follows, attributeNames, intact.ofType]
  · obtain ⟨text, -, rfl⟩ := List.mem_map.1 declared
    exact exists_read_of_contains (Value.isName_text text) ((intact.contains_iff _).2 declared)
  · exact intact.run_set_of_declared value declared
  · have absent : session.record.values.contains name = false :=
      Bool.eq_false_iff.2 fun held => other ((intact.contains_iff name).1 held)
    have unknown : session.record.unknown name = .unknownAttribute name type.name := by
      rw [Model.unknown, intact.ofType]
    exact ⟨by rw [read_of_not_contains named absent, unknown],
      by rw [run_set, write_of_not_contains value named absent, unknown]⟩
  · obtain ⟨cause, refuses⟩ := refuses_of_not_isName unnamed
    obtain ⟨reads, writes⟩ := refuses session.record
    exact ⟨cause, reads, by rw [run_set, writes value]⟩

namespace Model

/-- Profiles. A missing role is filled in, and a method tidies the name and then writes an attribute
that profiles do not have. -/
def profileType : ModelType where
  name := "Profile"
  schema := ⟨[⟨"name", .null, none⟩, ⟨"role", .null, none⟩], by decide⟩
  rules := [
    .list [.text "role", .text "default", .map [(.text "value", .text "member")]],
    .list [.text "name", .text "tidy"]]
  formName := .null
  tracesUnsafe := .bool false
  labels := none
  scenarios := none
  before := none
  after := none
  methods := .ofList [("tidy", .script (.inline
    [.set (.text "name") (.text "Ada"), .set (.text "age") (.int 36)] .null))]

end Model

open Model in
/-- A profile is made with a name and an age, which profiles do not have. Its validation fills in
the role, tidies the name and stops at the age. It holds its name and its role and nothing else, and
another role can be written to it. -/
theorem attributes_fixed_profile :
    let made := { fresh profileType (.text "default") with
      values := ⟨[(.text "name", .text "ada"), (.text "role", .null)]⟩ : Model }.session
    let session := runRequests
      [.operation (.validate .null (.bool true)), .get (.text "age"), .dropLast] made
    createWith profileType none [("name", .text "ada"), ("age", .int 35)] = .ok () made ∧
      session.record.values.keys = [.text "name", .text "role"] ∧
      [Value.text "name", .text "role"].map (fun name =>
        (session.record.read name).toOption.bind Value.text?) = [some "Ada", some "member"] ∧
      session.record.read (.text "age") = .error (.unknownAttribute (.text "age") "Profile") ∧
      ∃ after, (perform (.set (.text "role") (.text "admin"))).run session = .ok () after ∧
        after.record.read (.text "role") = .ok (.text "admin") ∧
        after.record.read (.text "name") = session.record.read (.text "name") := by
  intro made session
  have created : createWith profileType none [("name", .text "ada"), ("age", .int 35)] =
      .ok () made := rfl
  obtain ⟨-, keys, names⟩ := attributes_fixed created
    [.operation (.validate .null (.bool true)), .get (.text "age"), .dropLast]
  obtain ⟨declared, -, -⟩ := names (.text "role") (.text "admin")
  obtain ⟨-, after, writes, wrote⟩ := declared (by simp [profileType, Schema.names])
  obtain ⟨-, unknown, -⟩ := names (.text "age") (.int 36)
  obtain ⟨absent, -⟩ := unknown (by simp [profileType, Schema.names]) (Value.isName_text "age")
  have reached : [Value.text "name", .text "role"].map (fun name =>
      (session.record.read name).toOption.bind Value.text?) = [some "Ada", some "member"] := by
    decide +kernel
  exact ⟨created, keys, reached, absent, after, writes, wrote.written, wrote.others _ (by simp)⟩

end RecordValidation
