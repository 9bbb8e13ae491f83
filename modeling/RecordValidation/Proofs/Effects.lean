import RecordValidation.Proofs.FaultOrigin

/-!
# What work on a session leaves behind

`Act.outcome` is what a piece of work gives, a result or the fault it stops with, and `Act.final` is
the session it leaves, whether or not it stops. In these terms `Act.Keeps` says that work leaves
something about the session as it was, and `Act.SeesOnly` that the session has no say in what
happens but through what a view shows of it. `Act.Gives` is about the results alone.

The first two hold of doing nothing and of stopping, and of doing one thing after the other if they
hold of either. `Act.Compositional` is that much of a property of work; what is known of a whole
walk through the checks needs no more than that and what the property says of the record.
-/

namespace RecordValidation

namespace Outcome

variable {α β : Type}

/-- Two steps give a result exactly if the first gives one from which the second does. If the first
one stops, there is nothing for the second to begin with, and the whole stops too. -/
theorem bind_eq_ok_iff {first : Outcome α} {next : α → Outcome β} {result : β} :
    first >>= next = .ok result ↔ ∃ value, first = .ok value ∧ next value = .ok result := by
  cases first with
  | ok value =>
    constructor
    · intro done
      exact ⟨value, rfl, done⟩
    · rintro ⟨other, same, done⟩
      cases same
      exact done
  | error fault =>
    constructor
    · intro done
      cases done
    · rintro ⟨value, stopped, -⟩
      cases stopped

/-- A step and a change of its result give a result exactly if the step does. -/
theorem map_eq_ok_iff {outcome : Outcome α} {change : α → β} {result : β} :
    change <$> outcome = .ok result ↔ ∃ value, outcome = .ok value ∧ change value = result := by
  rw [map_eq_pure_bind, bind_eq_ok_iff]
  simp only [pure, Except.pure, Except.ok.injEq]

end Outcome

namespace Act

variable {ρ α β γ : Type}

/-- The result of work, or the fault it stops with. -/
def outcome (work : Act ρ α) (session : Session ρ) : Outcome α :=
  match work.run session with
  | .ok value _ => .ok value
  | .error fault _ => .error fault

/-- The session that work leaves, whether or not it stops. -/
def final (work : Act ρ α) (session : Session ρ) : Session ρ :=
  match work.run session with
  | .ok _ after => after
  | .error _ after => after

/-- Work ends well exactly if it gives a result, and then leaves the session it ends with. -/
theorem run_eq_ok_iff {work : Act ρ α} {session after : Session ρ} {value : α} :
    work.run session = .ok value after ↔
      work.outcome session = .ok value ∧ work.final session = after := by
  unfold outcome final
  cases work.run session <;> simp

/-- Work stops exactly if what it gives is a fault, and then leaves the session it stops with. -/
theorem run_eq_error_iff {work : Act ρ α} {session after : Session ρ} {fault : Fault} :
    work.run session = .error fault after ↔
      work.outcome session = .error fault ∧ work.final session = after := by
  unfold outcome final
  cases work.run session <;> simp

/-- Work that runs like other work gives what that gives. -/
theorem outcome_congr {work other : Act ρ α} {session begun : Session ρ}
    (same : work.run session = other.run begun) : work.outcome session = other.outcome begun := by
  unfold outcome
  rw [same]

/-- Work that runs like other work leaves what that leaves. -/
theorem final_congr {work other : Act ρ α} {session begun : Session ρ}
    (same : work.run session = other.run begun) : work.final session = other.final begun := by
  unfold final
  rw [same]

/-- Looking at a value gives what it gives. -/
theorem outcome_ofOutcome (given : Outcome α) (session : Session ρ) :
    (ofOutcome given).outcome session = given := by
  cases given <;> rfl

/-- What two pieces of work give is what the second gives where the first ends, unless the first
stops. The session in which the first stops is not told here, but by `final_bind`. -/
theorem outcome_bind (first : Act ρ α) (next : α → Act ρ β) (session : Session ρ) :
    (first >>= next).outcome session =
      match first.outcome session with
      | .ok value => (next value).outcome (first.final session)
      | .error fault => .error fault := by
  unfold outcome final
  rw [EStateM.run_bind]
  cases first.run session <;> rfl

/-- What two pieces of work give, the first of which leaves the session as it was, is what they give
one after the other from there. This is how work that only looks can be told without the session. -/
theorem outcome_bind_of_kept {first : Act ρ α} {next : α → Act ρ β} {session : Session ρ}
    (kept : first.final session = session) :
    (first >>= next).outcome session =
      first.outcome session >>= fun value => (next value).outcome session := by
  rw [outcome_bind, kept]
  cases first.outcome session <;> rfl

/-- What is given before a piece of work is handed to it. -/
theorem outcome_ofOutcome_bind (given : Outcome α) (next : α → Act ρ β) (session : Session ρ) :
    (ofOutcome given >>= next).outcome session =
      given >>= fun value => (next value).outcome session := by
  cases given <;> rfl

/-- Two pieces of work give a result exactly if the first gives something, and the second gives the
result from there. It is the law for steps without a session, with the session threaded through. -/
theorem outcome_bind_eq_ok_iff {first : Act ρ α} {next : α → Act ρ β} {session : Session ρ}
    {result : β} :
    (first >>= next).outcome session = .ok result ↔ ∃ value, first.outcome session = .ok value ∧
      (next value).outcome (first.final session) = .ok result := by
  rw [outcome_bind]
  cases first.outcome session with
  | ok value => simp
  | error fault => simp

/-- What two pieces of work leave is what the second leaves where the first ends, unless the first
stops. If the first stops, what it leaves is left. -/
theorem final_bind (first : Act ρ α) (next : α → Act ρ β) (session : Session ρ) :
    (first >>= next).final session =
      match first.outcome session with
      | .ok value => (next value).final (first.final session)
      | .error _ => first.final session := by
  unfold outcome final
  rw [EStateM.run_bind]
  cases first.run session <;> rfl

/-- Work leaves what a view shows of the session as it was. -/
def Keeps (view : Session ρ → γ) (work : Act ρ α) : Prop :=
  ∀ session, view (work.final session) = view session

/-- What work gives, and what a view shows of the session it leaves, depend on nothing but what the
view shows of the session it starts in. -/
def SeesOnly (view : Session ρ → γ) (work : Act ρ α) : Prop :=
  ∀ session other : Session ρ, view session = view other →
    work.outcome session = work.outcome other ∧
      view (work.final session) = view (work.final other)

/-- A property of work that holds of giving a result and of stopping for a reason of one's own, and
of doing one thing after the other. -/
structure Compositional (holds : ∀ ⦃α : Type⦄, Act ρ α → Prop) : Prop where
  pure : ∀ {α : Type} (value : α), holds (Pure.pure value : Act ρ α)
  throw : ∀ {α : Type} (fault : Fault), fault.IsLocal → holds (MonadExcept.throw fault : Act ρ α)
  bind : ∀ {α β : Type} {first : Act ρ α} {next : α → Act ρ β}, holds first →
    (∀ value, holds (next value)) → holds (first >>= next)

namespace Compositional

variable {holds : ∀ ⦃α : Type⦄, Act ρ α → Prop}

/-- Looking at values stops for no other reason than its own. Either it gives a value, which is
doing nothing, or it stops with a fault from values, which is a reason of its own. -/
theorem ofOutcome (closed : Compositional holds) {outcome : Outcome α}
    (fromValues : Outcome.FaultsIn Fault.IsLocal outcome) :
    holds (Act.ofOutcome outcome : Act ρ α) := by
  cases outcome with
  | ok value => exact closed.pure value
  | error fault => exact closed.throw fault (fromValues fault rfl)

/-- The property holds of work with its result changed, because that is the work and then giving a
result. -/
theorem map (closed : Compositional holds) {work : Act ρ α} (change : α → β) (held : holds work) :
    holds (change <$> work) := by
  rw [map_eq_pure_bind]
  exact closed.bind held fun value => closed.pure (change value)

/-- The property holds of work for one item after the other, if it holds for each of the items. By
induction on the items: none is doing nothing, and one more is one thing after the other. -/
theorem forM (closed : Compositional holds) {work : α → Act ρ Unit} (items : List α)
    (held : ∀ item ∈ items, holds (work item)) : holds (ForM.forM items work) := by
  induction items with
  | nil => exact closed.pure ()
  | cons item rest inductionHypothesis =>
    rw [List.forM_cons]
    refine closed.bind (held item (by simp)) fun _ => inductionHypothesis fun other later => ?_
    exact held other (List.mem_cons_of_mem _ later)

end Compositional

/-! ## Keeping a view -/

section

variable {view : Session ρ → γ}

/-- Looking at values keeps the whole session. -/
theorem keeps_ofOutcome (outcome : Outcome α) : Keeps view (ofOutcome outcome : Act ρ α) := by
  intro session
  cases outcome <;> rfl

/-- Asking for the record keeps the whole session. -/
theorem keeps_record : Keeps view (record : Act ρ ρ) := fun _ => rfl

/-- Asking for the errors keeps the whole session. -/
theorem keeps_errors : Keeps view (errors : Act ρ ErrorBag) := fun _ => rfl

/-- A change of the session keeps what it does not change. -/
theorem keeps_modify {change : Session ρ → Session ρ}
    (untouched : ∀ session, view (change session) = view session) :
    Keeps view (modify change : Act ρ Unit) := untouched

/-- A view is kept by work that keeps it piece by piece. If the first of two stops, the session is
left as it was by that one alone; if not, the second starts from a session that shows the same. -/
theorem compositional_keeps (view : Session ρ → γ) :
    Compositional fun _ work => Keeps (ρ := ρ) view work where
  pure _ _ := rfl
  throw _ _ _ := rfl
  bind := by
    intro α β first next before after session
    rw [final_bind]
    cases first.outcome session with
    | ok value => exact (after value _).trans (before session)
    | error fault => exact before session

end

/-! ## What work gives -/

/-- What work gives has a property, if it gives anything. -/
def Gives (property : α → Prop) (work : Act ρ α) : Prop :=
  ∀ session value, work.outcome session = .ok value → property value

section

variable {property : α → Prop}

/-- Work that only gives a result gives that. -/
theorem gives_pure {value : α} (held : property value) :
    Gives property (pure value : Act ρ α) := by
  intro session given done
  cases done
  exact held

/-- What two pieces of work give is what the second gives from what the first gave. The middle
property is what the second may rely on; if the first stops, nothing is given at all. -/
theorem Gives.bind {middle : β → Prop} {first : Act ρ β} {next : β → Act ρ α}
    (before : Gives middle first) (after : ∀ value, middle value → Gives property (next value)) :
    Gives property (first >>= next) := by
  intro session given done
  rw [outcome_bind] at done
  cases reached : first.outcome session with
  | ok value =>
    rw [reached] at done
    exact after value (before session value reached) _ _ done
  | error fault =>
    rw [reached] at done
    cases done

/-- What two pieces of work give, where the second gives it from whatever the first gave. -/
theorem gives_bind (first : Act ρ β) {next : β → Act ρ α}
    (held : ∀ value, Gives property (next value)) : Gives property (first >>= next) :=
  Gives.bind (fun _ _ _ => trivial) fun value _ => held value

end

/-! ## Seeing no more than a view -/

section

variable {view : Session ρ → γ}

/-- Looking at values has nothing to do with the session. -/
theorem seesOnly_ofOutcome (outcome : Outcome α) :
    SeesOnly view (ofOutcome outcome : Act ρ α) := by
  intro session other same
  cases outcome <;> exact ⟨rfl, same⟩

/-- Asking for something sees no more than what is asked for. -/
theorem seesOnly_get {part : Session ρ → α}
    (shown : ∀ session other, view session = view other → part session = part other) :
    SeesOnly view (part <$> get : Act ρ α) :=
  fun session other same => ⟨congrArg Except.ok (shown session other same), same⟩

/-- A change of the session sees no more than a view if what the view shows of it depends on nothing
else. -/
theorem seesOnly_modify {change : Session ρ → Session ρ}
    (narrow : ∀ session other, view session = view other →
      view (change session) = view (change other)) :
    SeesOnly view (modify change : Act ρ Unit) :=
  fun session other same => ⟨rfl, narrow session other same⟩

/-- Work sees no more than a view if it does so piece by piece. The first of two gives the same in
sessions that look the same and leaves sessions that look the same, so that the second starts as
equal as the first did. -/
theorem compositional_seesOnly (view : Session ρ → γ) :
    Compositional fun _ work => SeesOnly (ρ := ρ) view work where
  pure _ _ _ same := ⟨rfl, same⟩
  throw _ _ _ _ same := ⟨rfl, same⟩
  bind := by
    intro α β first next before after session other same
    obtain ⟨sameOutcome, sameView⟩ := before session other same
    simp only [outcome_bind, final_bind, sameOutcome]
    cases first.outcome other with
    | ok value => exact after value _ _ sameView
    | error fault => exact ⟨rfl, sameView⟩

end

end Act

end RecordValidation
