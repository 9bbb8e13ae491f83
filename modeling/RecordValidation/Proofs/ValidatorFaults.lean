import RecordValidation.Proofs.CheckWalk

/-!
# What stops a validator on a record

Beyond the faults that come from values, a validator meets those of the record it works on: reading,
writing, labels, methods and the actions of scripts. If all that a record offers stops only with
allowed faults, so does every validator that runs on it (`ValidatorOf.faultsIn_runOn`). A plain
record offers nothing that stops in any other way than looking at values does
(`PlainRecord.faultsIn_host`).
-/

namespace RecordValidation

namespace Act

variable {ρ α β : Type} {allowed : Fault → Prop}

/-- Work stops only with allowed faults, wherever it starts. -/
def FaultsIn (allowed : Fault → Prop) (work : Act ρ α) : Prop :=
  ∀ session fault after, work.run session = .error fault after → allowed fault

/-- Work that only gives a result does not stop. -/
theorem faultsIn_pure (value : α) : FaultsIn allowed (pure value : Act ρ α) := by
  intro session fault after stopped
  cases stopped

/-- Work that only changes the session is in need of no fault at all, since it does not stop. -/
theorem faultsIn_modify (change : Session ρ → Session ρ) :
    FaultsIn allowed (modify change : Act ρ Unit) := by
  intro session fault after stopped
  cases stopped

/-- Work that stops with an allowed fault stops with an allowed fault. -/
theorem faultsIn_throw {fault : Fault} (held : allowed fault) :
    FaultsIn allowed (throw fault : Act ρ α) := by
  intro session other after stopped
  cases stopped
  exact held

/-- What is stopped by few faults is stopped by no others. -/
theorem FaultsIn.mono {fewer : Fault → Prop} {work : Act ρ α} (held : FaultsIn fewer work)
    (weaker : ∀ fault, fewer fault → allowed fault) : FaultsIn allowed work :=
  fun session fault after stopped => weaker fault (held session fault after stopped)

/-- Asking for the record does not stop. -/
theorem faultsIn_record : FaultsIn allowed (record : Act ρ ρ) := by
  intro session fault after stopped
  cases stopped

/-- Asking for the errors does not stop. -/
theorem faultsIn_errors : FaultsIn allowed (errors : Act ρ ErrorBag) := by
  intro session fault after stopped
  cases stopped

/-- A result stops work with the fault it is. -/
theorem faultsIn_ofOutcome {outcome : Outcome α} (held : Outcome.FaultsIn allowed outcome) :
    FaultsIn allowed (ofOutcome outcome : Act ρ α) := by
  cases outcome with
  | ok value => exact faultsIn_pure value
  | error fault => exact faultsIn_throw (held fault rfl)

/-- Two pieces of work are stopped by what stops either. What the first piece gives is not known
beforehand, so the second is held for every value. -/
theorem FaultsIn.bind {first : Act ρ α} {next : α → Act ρ β} (before : FaultsIn allowed first)
    (after : ∀ value, FaultsIn allowed (next value)) : FaultsIn allowed (first >>= next) := by
  intro session fault final stopped
  rw [EStateM.run_bind] at stopped
  cases reached : first.run session with
  | ok value middle =>
    rw [reached] at stopped
    exact after value middle fault final stopped
  | error earlier middle =>
    rw [reached] at stopped
    cases stopped
    exact before session fault final reached

/-- Work for each item of a list is stopped by what stops it for one of them. Work that stops leaves
the later items alone, so it is enough that each item taken by itself stops with allowed faults. -/
theorem faultsIn_forM {work : α → Act ρ Unit} (items : List α)
    (held : ∀ item ∈ items, FaultsIn allowed (work item)) : FaultsIn allowed (forM items work) := by
  induction items with
  | nil => exact faultsIn_pure ()
  | cons item rest inductionHypothesis =>
    rw [List.forM_cons]
    refine (held item (by simp)).bind fun _ => inductionHypothesis fun other later => ?_
    exact held other (List.mem_cons_of_mem _ later)

end Act

open Act

/-- All that a record offers stops only with allowed faults, among them those of looking at
values. -/
structure Host.FaultsIn {ρ : Type} (host : Host ρ) (allowed : Fault → Prop) : Prop where
  ofValues : ∀ fault : Fault, fault.IsLocal → allowed fault
  read : ∀ record name, Outcome.FaultsIn allowed (host.read record name)
  write : ∀ record name value, Outcome.FaultsIn allowed (host.write record name value)
  label : ∀ label, host.label? = some label →
    ∀ record name, Outcome.FaultsIn allowed (label record name)
  asSequence : ∀ record, Outcome.FaultsIn allowed (host.asSequence record)
  invoke : ∀ method name params, Act.FaultsIn allowed (host.invoke method name params)
  perform : ∀ action, Act.FaultsIn allowed (host.perform action)

variable {ρ : Type} {host : Host ρ} {allowed : Fault → Prop}

namespace Host.FaultsIn

/-- A record that stops only with a few faults stops only with allowed ones, if those few are
allowed. -/
theorem mono {fewer : Fault → Prop} (offers : host.FaultsIn fewer)
    (weaker : ∀ fault, fewer fault → allowed fault) : host.FaultsIn allowed where
  ofValues fault held := weaker fault (offers.ofValues fault held)
  read record name := (offers.read record name).mono weaker
  write record name value := (offers.write record name value).mono weaker
  label label labelled record name := (offers.label label labelled record name).mono weaker
  asSequence record := (offers.asSequence record).mono weaker
  invoke method name params := (offers.invoke method name params).mono weaker
  perform action := (offers.perform action).mono weaker

/-- What stops a record stops what the record is asked for. What looking at values stops with is
among the allowed faults, as part of what it means for the record to stop only with these. -/
theorem toOffers (stops : host.FaultsIn allowed) :
    host.Offers fun _ work => Act.FaultsIn allowed work where
  pure := faultsIn_pure
  throw fault held := faultsIn_throw (stops.ofValues fault held)
  bind := FaultsIn.bind
  record := faultsIn_record
  read record name := faultsIn_ofOutcome (stops.read record name)
  label label labelled record name := faultsIn_ofOutcome (stops.label label labelled record name)
  asSequence record := faultsIn_ofOutcome (stops.asSequence record)
  errors _ := faultsIn_errors

/-- Writing an attribute stops only with what writing it to the record stops with: looking at the
record and putting it back do not stop. -/
theorem set (stops : host.FaultsIn allowed) (name value : Value) :
    Act.FaultsIn allowed (host.set name value) := by
  refine faultsIn_record.bind fun record => ?_
  exact (faultsIn_ofOutcome (stops.write record name value)).bind fun changed =>
    faultsIn_modify _

/-- Adding a message is stopped only by an attribute that is no name. -/
theorem addError (stops : host.FaultsIn allowed) (name message : Value) :
    Act.FaultsIn allowed (Act.addError name message : Act ρ Unit) :=
  (stops.toOffers.ofOutcome name.faultsIn_asName.isLocal).bind fun _ => faultsIn_modify _

end Host.FaultsIn

namespace ValidatorOf

/-- Checking an attribute unless it is left out stops only with what the record stops with. -/
theorem faultsIn_checkAttribute (stops : host.FaultsIn allowed) (validator : Validator)
    (name : Value) : Act.FaultsIn allowed (validator.checkAttribute host name) := by
  refine stops.toOffers.checkAttribute validator name faultsIn_errors (stops.addError name)
    (fun _ value => stops.set name value) fun method params bound _ => ?_
  exact stops.toOffers.inlineComplaints method params bound name
    (fun _ _ _ action _ => stops.perform action) fun called _ => stops.invoke called name params

/-- A validator stops only with what the record stops with and with what looking at values stops
with. It is settled what the validator covers before any attribute is checked, and settling it looks
at values only. -/
theorem faultsIn_runOn (stops : host.FaultsIn allowed) (validator : Validator)
    (requested : Value) : Act.FaultsIn allowed (validator.runOn host requested) := by
  unfold runOn
  split
  · refine FaultsIn.bind ?_ fun names => ?_
    · exact stops.toOffers.ofOutcome (validator.faultsIn_coveredBy requested)
    · exact faultsIn_forM names fun name _ => validator.faultsIn_checkAttribute stops (.text name)
  · exact faultsIn_pure ()

end ValidatorOf

namespace PlainRecord

/-- A plain record offers nothing that stops in any other way than looking at values does. A name
that cannot be one stops reading, writing and labels; methods and sequences are missing, which is
such a fault as well. -/
theorem faultsIn_host (record : PlainRecord) : record.host.FaultsIn Fault.IsLocal where
  ofValues _ held := held
  read _ name := name.faultsIn_asName.isLocal.bind fun _ => Outcome.faultsIn_ok _
  write _ name _ := name.faultsIn_asName.isLocal.bind fun _ => Outcome.faultsIn_ok _
  label := by
    intro label labelled held name
    by_cases isLabelled : record.labels.isSome = true
    · obtain rfl : PlainRecord.label = label := by simpa [host, isLabelled] using labelled
      exact name.faultsIn_asName.isLocal.bind fun _ => Outcome.faultsIn_ok _
    · simp [host, isLabelled] at labelled
  asSequence _ := Outcome.faultsIn_error trivial
  invoke _ _ _ := faultsIn_throw trivial
  perform := by
    intro action
    cases action with
    | set name value =>
      refine faultsIn_record.bind fun held => Act.FaultsIn.bind ?_ fun _ => faultsIn_modify _
      exact faultsIn_ofOutcome (name.faultsIn_asName.isLocal.bind fun _ => Outcome.faultsIn_ok _)
    | note text => exact faultsIn_modify _
    | _ => exact faultsIn_throw trivial

end PlainRecord

end RecordValidation
