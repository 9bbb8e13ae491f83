/-!
# Runs of case partners

Letters with case mostly stand in runs: every letter of a run, or every second one, has its partner
at one and the same distance.
-/

namespace RecordValidation.Text

/-- The code points `first`, `first + stride`, …, `last`, each with its partner `shift` further
on. -/
structure CaseRun where
  first : Nat
  last : Nat
  stride : Nat
  shift : Int

/-- The partner of a code point, if the run holds it. -/
def CaseRun.partner? (run : CaseRun) (code : Nat) : Option Nat :=
  if run.first ≤ code && code ≤ run.last && (code - run.first) % run.stride == 0 then
    some (Int.toNat (code + run.shift))
  else none

end RecordValidation.Text
