import RecordValidation.Model.Group
import RecordValidation.Proofs.MassAssignment

/-!
# Tabular data

Models of a group are loaded together from rows, which may be given as a list, under numbers or
under numbers written as texts. `Group.RowData` says that a value gives some rows in one of these
ways, and `Group.FormData` that the data of a form does, under the name of the form or bare.

The way makes no difference (`Group.RowData.row_eq`): entries may stand in any order, because a
number and its text each name one position only, and a number never names what a text does. What
then happens to a model is what its own row alone does to it (`Group.Loaded`), because loading a
row touches one model and later rows are for others. `tabular_data_exact` says both of every group.
-/

namespace RecordValidation

namespace Group

/-! ## Rows and the ways to give them -/

/-- Rows with the key of their position. -/
def keyedRows (key : Nat → Value) (rows : List Value) : List (Value × Value) :=
  rows.zipIdx.map fun entry => (key entry.2, entry.1)

/-- The key of a position as a number. -/
def numberKey (position : Nat) : Value := .int position

/-- The key of a position as a text. -/
def textKey (position : Nat) : Value := .text (toString position)

/-- A value gives some rows: as a list, or by position under numbers or texts, in any order. -/
inductive RowData (rows : List Value) : Value → Prop
  | listed : RowData rows (.list rows)
  | numbered {entries : List (Value × Value)} (given : entries.Perm (keyedRows numberKey rows)) :
    RowData rows (.map entries)
  | named {entries : List (Value × Value)} (given : entries.Perm (keyedRows textKey rows)) :
    RowData rows (.map entries)

/-- The data of a form gives some rows: under the name of the form, or bare if it has none. -/
inductive FormData (rows : List Value) : (data formName : Value) → Prop
  | under {given : Value} (name : String) (named : name ≠ "") (gives : RowData rows given) :
    FormData rows (.map [(.text name, given)]) (.text name)
  | bare {given : Value} (gives : RowData rows given) : FormData rows given (.text "")

/-- Different positions have different numbers. Keys are compared as values, and integers are the
same as values only if they are the same integer. -/
theorem numberKey_inj {position other : Nat}
    (same : (numberKey position == numberKey other) = true) :
    position = other := by
  rw [Value.beq_iff_key] at same
  have numbers : (position : Int) = other := by simpa [numberKey, Value.key] using same
  omega

/-- Different positions have different texts. -/
theorem textKey_inj {position other : Nat} (same : (textKey position == textKey other) = true) :
    position = other := by
  rw [textKey, textKey, Value.text_beq_text, beq_iff_eq] at same
  rw [Nat.toString_eq_ofList_toDigits, Nat.toString_eq_ofList_toDigits, String.ofList_inj] at same
  calc position
    _ = Nat.ofDigitChars 10 (Nat.toDigits 10 position) 0 := Nat.ofDigitChars_ten_toDigits.symm
    _ = Nat.ofDigitChars 10 (Nat.toDigits 10 other) 0 := by rw [same]
    _ = other := Nat.ofDigitChars_ten_toDigits

/-- No text is a number. Sameness of values never crosses kinds, apart from the numbers among
themselves. -/
theorem numberKey_ne_textKey (position other : Nat) :
    (numberKey position == textKey other) = false := by
  rw [Value.beq_eq, beq_eq_false_iff_ne]
  simp [numberKey, textKey, Value.key]

section

variable {key : Nat → Value} {rows : List Value} {entries : List (Value × Value)}
  (given : entries.Perm (keyedRows key rows))

include given

/-- An entry is the row of a position under its key. -/
theorem mem_iff_of_perm {entry : Value × Value} :
    entry ∈ entries ↔ ∃ position, rows[position]? = some entry.2 ∧ key position = entry.1 := by
  rw [given.mem_iff, keyedRows, List.mem_map]
  constructor
  · rintro ⟨⟨row, position⟩, listed, rfl⟩
    exact ⟨position, List.mem_zipIdx_iff_getElem?.1 listed, rfl⟩
  · rintro ⟨position, isRow, isKey⟩
    exact ⟨(entry.2, position), List.mem_zipIdx_iff_getElem?.2 isRow, Prod.ext isKey rfl⟩

/-- Where different positions have different keys, the row of a position is found under its key, in
whatever order the entries stand. The keys differ, so a lookup that finds an entry finds the only
one. -/
theorem lookup_key (distinct : ∀ position other, (key position == key other) = true →
    position = other) (position : Nat) : entries.lookup (key position) = rows[position]? := by
  have unlike : entries.Pairwise fun a b => (a.1 == b.1) = false := by
    have positions : (rows.zipIdx.map Prod.snd).Nodup := by
      rw [List.zipIdx_map_snd]
      exact List.nodup_range'
    have listed : (keyedRows key rows).Pairwise fun a b => (a.1 == b.1) = false := by
      rw [keyedRows, List.pairwise_map]
      refine (List.pairwise_map.1 positions).imp fun apart => Bool.eq_false_iff.2 fun same => ?_
      exact apart (distinct _ _ same)
    exact (given.pairwise_iff fun apart => by rw [BEq.comm]; exact apart).2 listed
  cases isRow : rows[position]? with
  | some row =>
    have present : (key position, row) ∈ entries := (mem_iff_of_perm given).2 ⟨position, isRow, rfl⟩
    exact OrderedMap.lookup_of_mem present unlike
  | none =>
    rw [List.lookup_eq_none_iff]
    intro entry present
    obtain ⟨other, isOther, isKey⟩ := (mem_iff_of_perm given).1 present
    rw [bne, Bool.not_eq_true', Bool.eq_false_iff, ← isKey]
    intro same
    obtain rfl := distinct position other same
    rw [isRow] at isOther
    cases isOther

end

section

variable {rows : List Value} {given : Value}

/-- In whatever way rows are given, the row of a model is the one at its position. A number is
looked up first and then its text. Rows under numbers are found by the one and rows under texts by
the other, and neither kind of key is found in place of the other. -/
theorem RowData.row_eq (gives : RowData rows given) (position : Nat) :
    row given position = (rows[position]?).getD .null := by
  cases gives with
  | listed => rfl
  | @numbered entries given =>
    have byNumber : entries.lookup (.int position) = rows[position]? :=
      lookup_key given (fun _ _ => numberKey_inj) position
    have byText : entries.lookup (.text (toString position)) = none := by
      rw [List.lookup_eq_none_iff]
      intro entry present
      obtain ⟨other, -, isKey⟩ := (mem_iff_of_perm given).1 present
      rw [bne, Bool.not_eq_true', ← isKey, BEq.comm]
      exact numberKey_ne_textKey other position
    simp only [row, byNumber, byText, Option.getD_none]
    cases isRow : (rows[position]?).getD .null with
    | null => rfl
    | _ => rfl
  | @named entries given =>
    have byNumber : entries.lookup (.int position) = none := by
      rw [List.lookup_eq_none_iff]
      intro entry present
      obtain ⟨other, -, isKey⟩ := (mem_iff_of_perm given).1 present
      rw [bne, Bool.not_eq_true', ← isKey]
      exact numberKey_ne_textKey position other
    have byText : entries.lookup (.text (toString position)) = rows[position]? :=
      lookup_key given (fun _ _ => textKey_inj) position
    simp only [row, byNumber, byText, Option.getD_none, Value.isNull, ↓reduceIte]

/-- What is loaded depends on the rows of the models alone. -/
theorem loadRows_congr {given other : Value} (same : ∀ position, row given position =
    row other position) (models : List (Nat × Nat)) :
    loadRows given models = loadRows other models := by
  induction models with
  | nil => rfl
  | cons first rest inductionHypothesis =>
    obtain ⟨index, position⟩ := first
    simp only [loadRows, same position, inductionHypothesis]

/-- The data of a form holds its rows under its name. A bare form has the empty name, and a name
that is not empty is looked up. -/
theorem FormData.exists_rowsOf {data formName : Value} (form : FormData rows data formName) :
    formName.isNull = false ∧ ∃ given, RowData rows given ∧ rowsOf formName data = .ok given := by
  cases form with
  | @under given name named gives =>
    have unlike : (Value.text name).equals (.text "") = false := by
      simp [Value.equals, named]
    have found : [(Value.text name, given)].lookup (.text name) = some given := by
      rw [List.lookup_cons, BEq.rfl]
    refine ⟨rfl, given, gives, ?_⟩
    rw [rowsOf, unlike, Value.asName_of_isName (Value.isName_text name)]
    simp only [Bool.false_eq_true, ↓reduceIte, Value.entries, bind, Except.bind, found]
    rfl
  | bare gives => exact ⟨rfl, data, gives, rfl⟩

/-- Loading the data of a form loads its rows, in whatever way they are given. Rows that are given
in two ways give every model the same row. -/
theorem load_eq_loadRows (indices : List Nat) {data formName : Value}
    (form : FormData rows data formName) :
    load indices data formName = loadRows (.list rows) indices.zipIdx := by
  obtain ⟨named, given, gives, found⟩ := form.exists_rowsOf
  cases indices with
  | nil => rfl
  | cons first rest =>
    have same := loadRows_congr (fun position =>
      (gives.row_eq position).trans (RowData.listed.row_eq position).symm)
      ((first :: rest).zipIdx)
    rw [load]
    simp only [named, Bool.false_eq_true, ↓reduceIte, pure_bind, found, same]

end

/-! ## Working on one model of a group -/

section

variable {α : Type} {act : Act Model α} {group other after : Group} {index : Nat} {answer : α}

/-- Work on a model runs on the session under its index and is recorded in the group. A fault is
recorded as well, so a model keeps what was written to it before. -/
theorem run_on {session : Session Model} (there : group.sessions[index]? = some session) :
    (on index act).run group =
      match act.run session with
      | .ok given left => .ok given (group.record index left)
      | .error fault left => .error fault (group.record index left) := by
  change on index act group = _
  cases ran : act.run session with
  | ok given left => simp only [on, there, ran]
  | error fault left => simp only [on, there, ran]

/-- Work on a model ends well exactly if there is one under the index and the work on it ends well,
and it leaves the group with what it made of the model. Taken apart in this way, a row that was
loaded says which session it was loaded to. -/
theorem run_on_eq_ok_iff : (on index act).run group = .ok answer after ↔
    ∃ session left, group.sessions[index]? = some session ∧ act.run session = .ok answer left ∧
      after = group.record index left := by
  constructor
  · intro done
    cases there : group.sessions[index]? with
    | none =>
      simp only [EStateM.run, on, there] at done
      cases done
    | some session =>
      rw [run_on there] at done
      cases ran : act.run session with
      | ok given left =>
        rw [ran] at done
        cases done
        exact ⟨session, left, rfl, ran, rfl⟩
      | error fault left =>
        rw [ran] at done
        cases done
  · rintro ⟨session, left, there, ran, rfl⟩
    rw [run_on there, ran]

/-- Under the index of a model there is what was recorded of it. -/
theorem sessions_record {session : Session Model} (there : group.sessions[index]? = some session)
    (left : Session Model) :
    (group.record index left).sessions[index]? = some { left with events := [] } :=
  List.getElem?_set_self (List.getElem?_eq_some_iff.1 there).1

/-- Work on a model leaves the others as they were. -/
theorem sessions_of_run_on (done : (on index act).run group = .ok answer after) {unlike : Nat}
    (apart : unlike ≠ index) : after.sessions[unlike]? = group.sessions[unlike]? := by
  obtain ⟨session, left, -, -, rfl⟩ := run_on_eq_ok_iff.1 done
  exact List.getElem?_set_ne apart.symm

/-- Work on a model goes the same way in any group that has the same model under its index. The
other models and the events of the group have no say in it. -/
theorem run_on_congr (same : other.sessions[index]? = group.sessions[index]?)
    (done : (on index act).run group = .ok answer after) :
    ∃ left, (on index act).run other = .ok answer left ∧
      left.sessions[index]? = after.sessions[index]? := by
  obtain ⟨session, left, there, ran, rfl⟩ := run_on_eq_ok_iff.1 done
  have otherThere : other.sessions[index]? = some session := same.trans there
  refine ⟨other.record index left, run_on_eq_ok_iff.2 ⟨session, left, otherThere, ran, rfl⟩, ?_⟩
  rw [sessions_record there, sessions_record otherThere]

end

/-! ## Loading the rows -/

/-- One group is another after some models, each with the position of its row, were loaded: each
model with a row that is not empty is what loading its row alone makes of it, and the others are as
they were. -/
structure Loaded (given : Value) (models : List (Nat × Nat)) (group final : Group) : Prop where
  loads : ∀ model ∈ models, (row given model.2).truthy = true → ∀ answer alone,
    (on model.1 (Model.load (row given model.2) (.text ""))).run group = .ok answer alone →
      final.sessions[model.1]? = alone.sessions[model.1]?
  leaves : ∀ index, (∀ model ∈ models, model.1 = index → (row given model.2).truthy = false) →
    final.sessions[index]? = group.sessions[index]?

/-- Rows are loaded one after the other, each into its own model and no other, if each could be
loaded alone.

Proof: by induction on the models. Loading the first row changes one model, and the later rows are
for others, so each of them is loaded as it would have been before. -/
theorem exists_run_loadRows {given : Value} {models : List (Nat × Nat)} {group : Group}
    (distinct : (models.map Prod.fst).Nodup)
    (assigns : ∀ model ∈ models, (row given model.2).truthy = true → ∃ answer alone,
      (on model.1 (Model.load (row given model.2) (.text ""))).run group = .ok answer alone) :
    ∃ answer final, (loadRows given models).run group = .ok answer final ∧
      (answer = true ↔ ∃ model ∈ models, (row given model.2).truthy = true) ∧
      Loaded given models group final := by
  induction models generalizing group with
  | nil => exact ⟨false, group, rfl, by simp, ⟨by simp, fun _ _ => rfl⟩⟩
  | cons first rest inductionHypothesis =>
    obtain ⟨index, position⟩ := first
    obtain ⟨fresh, restDistinct⟩ := List.nodup_cons.1 distinct
    obtain ⟨firstAssigns, restAssigns⟩ := List.forall_mem_cons.1 assigns
    have unlike : ∀ model ∈ rest, model.1 ≠ index := by
      intro model later same
      exact fresh (List.mem_map.2 ⟨model, later, same⟩)
    cases isFilled : (row given position).truthy with
    | false =>
      obtain ⟨answer, final, ran, answers, loaded⟩ := inductionHypothesis restDistinct restAssigns
      refine ⟨answer, final, ?_, ?_, ?_, ?_⟩
      · simpa only [loadRows, isFilled, Bool.false_eq_true, ↓reduceIte] using ran
      · simp [answers, isFilled]
      · intro model present filled
        obtain rfl | later := List.mem_cons.1 present
        · rw [isFilled] at filled
          cases filled
        · exact loaded.loads model later filled
      · exact fun other idle => loaded.leaves other fun model later =>
          idle model (List.mem_cons_of_mem _ later)
    | true =>
      obtain ⟨firstAnswer, middle, firstRan⟩ := firstAssigns isFilled
      have restAlone : ∀ model ∈ rest, (row given model.2).truthy = true → ∃ answer alone,
          (on model.1 (Model.load (row given model.2) (.text ""))).run middle =
            .ok answer alone := by
        intro model later filled
        obtain ⟨answer, alone, ran⟩ := restAssigns model later filled
        obtain ⟨left, leftRan, -⟩ := run_on_congr (sessions_of_run_on firstRan (unlike model later))
          ran
        exact ⟨answer, left, leftRan⟩
      obtain ⟨answer, final, ran, answers, loaded⟩ := inductionHypothesis restDistinct restAlone
      have untouched : final.sessions[index]? = middle.sessions[index]? :=
        loaded.leaves index fun model later same => absurd same (unlike model later)
      refine ⟨true, final, ?_, ?_, ?_, ?_⟩
      · simp only [loadRows, isFilled, ↓reduceIte, EStateM.run_bind, firstRan, ran,
          EStateM.run_pure]
      · simp [isFilled]
      · intro model present filled other alone aloneRan
        obtain rfl | later := List.mem_cons.1 present
        · rw [firstRan] at aloneRan
          cases aloneRan
          exact untouched
        · obtain ⟨left, leftRan, same⟩ :=
            run_on_congr (sessions_of_run_on firstRan (unlike model later)) aloneRan
          rw [loaded.loads model later filled other left leftRan, same]
      · intro other idle
        have apart : other ≠ index := by
          intro same
          have empty := idle (index, position) (by simp) same.symm
          rw [isFilled] at empty
          cases empty
        rw [loaded.leaves other fun model later => idle model (List.mem_cons_of_mem _ later),
          sessions_of_run_on firstRan apart]

/-- Of the models under some indices, the one under an index has a row at its position that is not
empty. -/
def HasRow (indices : List Nat) (rows : List Value) (index : Nat) (own : Value) : Prop :=
  ∃ position : Nat, indices[position]? = some index ∧ rows[position]? = some own ∧
    own.truthy = true

/-- A model has the row that is found for it, unless this is empty. A place without a row counts as
one with an absent row, which is empty. -/
theorem hasRow_iff {indices : List Nat} {rows : List Value} {index : Nat} {own : Value} :
    HasRow indices rows index own ↔ ∃ position, (index, position) ∈ indices.zipIdx ∧
      row (.list rows) position = own ∧ own.truthy = true := by
  refine exists_congr fun position => ?_
  have there : (index, position) ∈ indices.zipIdx ↔ indices[position]? = some index :=
    List.mem_zipIdx_iff_getElem?
  rw [there, and_congr_right_iff, row]
  intro _
  cases isRow : rows[position]? with
  | some found => rw [Option.some.injEq, Option.getD_some]
  | none =>
    constructor
    · rintro ⟨⟨⟩, -⟩
    · rintro ⟨rfl, filled⟩
      cases filled

/-- Loading tabular data does not depend on how its rows are given, and each model gets its own row
and nothing else.

Take a group, some of its models without repetition, and rows of which each that is not empty could
be loaded alone into the model at its position. Then there is one answer and one group such that
loading gives this answer and leaves this group whenever the data of a form gives these rows: as a
list, by position under numbers, or by position under the numbers written as texts, in whatever
order, under the name of the form or bare. The answer is whether one of the models has a row that is
not empty. A model with such a row is left as loading its row alone leaves it, and every other model
of the group, with an empty row, without one or not among those that are loaded, is left as it was.

Proof: the row that is found for a model is the one at its position, in whichever way the rows are
given, so loading them all comes down to the same steps; and these are for different models. -/
theorem tabular_data_exact (group : Group) {indices : List Nat} (distinct : indices.Nodup)
    (rows : List Value)
    (assigns : ∀ index own, HasRow indices rows index own →
      ∃ answer alone, (on index (Model.load own (.text ""))).run group = .ok answer alone) :
    ∃ answer final,
      (∀ data formName, FormData rows data formName →
        (load indices data formName).run group = .ok answer final) ∧
      (answer = true ↔ ∃ index own, HasRow indices rows index own) ∧
      (∀ index own, HasRow indices rows index own → ∀ given alone,
        (on index (Model.load own (.text ""))).run group = .ok given alone →
          final.sessions[index]? = alone.sessions[index]?) ∧
      ∀ index : Nat, (∀ own, ¬HasRow indices rows index own) →
        final.sessions[index]? = group.sessions[index]? := by
  have names : (indices.zipIdx.map Prod.fst).Nodup := by rwa [List.zipIdx_map_fst]
  have assignsEach : ∀ model ∈ indices.zipIdx, (row (.list rows) model.2).truthy = true →
      ∃ answer alone, (on model.1 (Model.load (row (.list rows) model.2) (.text ""))).run group =
        .ok answer alone :=
    fun model present filled => assigns model.1 _ (hasRow_iff.2 ⟨model.2, present, rfl, filled⟩)
  obtain ⟨answer, final, ran, answers, loaded⟩ := exists_run_loadRows names assignsEach
  refine ⟨answer, final, ?_, ?_, ?_, ?_⟩
  · intro data formName form
    rw [load_eq_loadRows indices form, ran]
  · rw [answers]
    constructor
    · rintro ⟨model, present, filled⟩
      exact ⟨model.1, _, hasRow_iff.2 ⟨model.2, present, rfl, filled⟩⟩
    · rintro ⟨index, own, hasRow⟩
      obtain ⟨position, present, rfl, filled⟩ := hasRow_iff.1 hasRow
      exact ⟨(index, position), present, filled⟩
  · intro index own hasRow given alone aloneRan
    obtain ⟨position, present, rfl, filled⟩ := hasRow_iff.1 hasRow
    exact loaded.loads (index, position) present filled given alone aloneRan
  · intro index without
    refine loaded.leaves index ?_
    rintro ⟨_, position⟩ present rfl
    rw [Bool.eq_false_iff]
    intro filled
    exact without _ (hasRow_iff.2 ⟨position, present, rfl, filled⟩)

/-- The rows of three accounts and one too many: the second is absent, and the first has a role that
may not be assigned. -/
def accountRows : List Value := [
  .map [(.text "name", .text "Ada"), (.text "role", .text "admin")], .null,
  .map [(.text "name", .text "Alan")], .map [(.text "name", .text "Grace")]]

/-- Three of four accounts are loaded, the third before the first and the second. Rows in a list
under the name of the form, rows by number from the last to the first, and bare rows by the texts of
the numbers give the same accounts: the third and the second have their names, the first has no row,
and the fourth is not among those that are loaded. -/
theorem tabular_data_exact_accounts :
    let account := (Model.newAccount (.text "default")).session
    let group : Group := ⟨[account, account, account, account], []⟩
    let name (session : Session Model) := (session.record.read (.text "name")).toOption
    let byNumber := Value.map (keyedRows numberKey accountRows).reverse
    let byText := Value.map (keyedRows textKey accountRows)
    ∃ final,
      (load [2, 0, 1] (.map [(.text "Account", .list accountRows)]) (.text "Account")).run group =
        .ok true final ∧
      (load [2, 0, 1] (.map [(.text "Account", byNumber)]) (.text "Account")).run group =
        .ok true final ∧
      (load [2, 0, 1] byText (.text "")).run group = .ok true final ∧
      final.sessions[2]?.bind name = some (.text "Ada") ∧
      final.sessions[1]?.bind name = some (.text "Alan") ∧
      final.sessions[0]? = some account ∧ final.sessions[3]? = some account := by
  intro account group name byNumber byText
  have assigns : ∀ index own, HasRow [2, 0, 1] accountRows index own →
      ∃ answer alone, (on index (Model.load own (.text ""))).run group = .ok answer alone := by
    rintro index own ⟨position, there, isRow, filled⟩
    match position with
    | 0 =>
      cases there
      cases isRow
      exact ⟨_, _, rfl⟩
    | 1 =>
      cases isRow
      cases filled
    | 2 =>
      cases there
      cases isRow
      exact ⟨_, _, rfl⟩
    | _ + 3 => cases there
  obtain ⟨answer, final, loads, answers, own, others⟩ :=
    tabular_data_exact group (by decide) accountRows assigns
  have first : HasRow [2, 0, 1] accountRows 2 _ := ⟨0, rfl, rfl, rfl⟩
  have third : HasRow [2, 0, 1] accountRows 1 _ := ⟨2, rfl, rfl, rfl⟩
  obtain rfl : answer = true := answers.2 ⟨2, _, first⟩
  have without : ∀ own, ¬HasRow [2, 0, 1] accountRows 0 own := by
    rintro own ⟨position, there, isRow, filled⟩
    match position with
    | 0 | 2 | _ + 3 => cases there
    | 1 =>
      cases isRow
      cases filled
  have apart : ∀ own, ¬HasRow [2, 0, 1] accountRows 3 own := by
    rintro own ⟨position, there, -⟩
    match position with
    | 0 | 1 | 2 | _ + 3 => cases there
  refine ⟨final, loads _ _ (.under "Account" (by decide) .listed),
    loads _ _ (.under "Account" (by decide) (.numbered (List.reverse_perm _))),
    loads _ _ (.bare (.named (.refl _))), ?_, ?_, others 0 without, others 3 apart⟩
  · rw [own 2 _ first _ _ rfl]
    rfl
  · rw [own 1 _ third _ _ rfl]
    rfl

end Group

end RecordValidation
