import RecordValidation.Proofs.NumberTexts
import RecordValidation.Text.Label

/-!
# What upper-case forms are made of

A character is its own upper-case form, or it moves by the distance of a run, or it has an expansion
of its own (`upperCharacters_cases`). From the tables it follows that an upper-case form does not
bring in characters that say where the words of a name end: unless it is the character itself, it
holds no blank, no separator, no lower-case ASCII letter and no digit
(`upperCharacters_eq_or_quiet`). And its first character is its own upper-case form
(`upperCharacters_first`), because no partner in a run is held by a run or has an expansion.

That the partners of one run stand in no other run is seen from the runs as a whole: one ends before
the other begins, or the two alternate (`CaseRun.isApart`).
-/

namespace RecordValidation.Text

/-! ## Runs -/

namespace CaseRun

/-- A run holds a code point. -/
def Holds (run : CaseRun) (code : Nat) : Prop :=
  run.first ≤ code ∧ code ≤ run.last ∧ (code - run.first) % run.stride = 0

/-- A run has a partner for the code points it holds, at its distance. -/
theorem partner?_eq_some_iff {run : CaseRun} {code partner : Nat} :
    run.partner? code = some partner ↔ run.Holds code ∧ Int.toNat (code + run.shift) = partner := by
  simp only [partner?, Holds, Option.ite_none_right_eq_some, Option.some.injEq, Bool.and_eq_true,
    decide_eq_true_eq, beq_iff_eq, and_assoc]

/-- The run of the partners of a run. -/
def partners (run : CaseRun) : CaseRun where
  first := Int.toNat (run.first + run.shift)
  last := Int.toNat (run.last + run.shift)
  stride := run.stride
  shift := -run.shift

/-- The partners of a run are held by the run of its partners, unless they would lie before the
first code point. They move by one distance, so their steps stay the same. -/
theorem Holds.partners {run : CaseRun} {code : Nat} (held : run.Holds code)
    (fits : 0 ≤ run.first + run.shift) :
    run.partners.Holds (Int.toNat (code + run.shift)) := by
  obtain ⟨low, high, step⟩ := held
  have distance : Int.toNat (code + run.shift) - Int.toNat (run.first + run.shift) =
      code - run.first := by omega
  refine ⟨?_, ?_, ?_⟩
  · simp only [CaseRun.partners]
    omega
  · simp only [CaseRun.partners]
    omega
  · simp only [CaseRun.partners, distance, step]

/-- Whether two runs are seen to have nothing in common: one ends before the other begins, or they
go on by two from an odd and an even code point. -/
def isApart (run other : CaseRun) : Bool :=
  Nat.blt run.last other.first || Nat.blt other.last run.first ||
    ((run.stride == 2 || run.first == run.last) && other.stride == 2 &&
      run.first % 2 != other.first % 2)

/-- What a run holds is not held by a run apart from it. What is held by both would lie between the
bounds of both, and be odd and even. -/
theorem Holds.not_holds {run other : CaseRun} {code : Nat} (held : run.Holds code)
    (apart : run.isApart other = true) : ¬other.Holds code := by
  rintro ⟨otherLow, otherHigh, otherStep⟩
  obtain ⟨low, high, step⟩ := held
  simp only [isApart, Bool.or_eq_true, Nat.blt_eq, Bool.and_eq_true, beq_iff_eq,
    bne_iff_ne] at apart
  rcases apart with (before | behind) | ⟨⟨twos | single, otherTwos⟩, parity⟩
  · omega
  · omega
  · rw [twos] at step
    rw [otherTwos] at otherStep
    omega
  · rw [otherTwos] at otherStep
    omega

end CaseRun

/-! ## The upper-case form of a character -/

/-- The upper-case form of a character is the character itself, or its partner in a run, or its
expansion. The expansions are looked up first and the runs only if there is none. -/
theorem upperCharacters_cases (c : Char) :
    upperCharacters c = [c] ∨
    (∃ run ∈ upperRuns, run.Holds c.toNat ∧
      upperCharacters c = [Char.ofNat (Int.toNat (c.toNat + run.shift))]) ∨
    ∃ entry ∈ upperExpansions, upperCharacters c = entry.2.map Char.ofNat := by
  cases expansion : upperExpansions.lookup c.toNat with
  | some codes =>
    obtain ⟨before, after, split, -⟩ := List.lookup_eq_some_iff.1 expansion
    refine .inr (.inr ⟨(c.toNat, codes), by simp [split], ?_⟩)
    simp [upperCharacters, expansionIn, expansion]
  | none =>
    have single : upperCharacters c = [partnerIn upperRuns c] := by
      simp [upperCharacters, expansionIn, expansion]
    rw [single, partnerIn]
    cases found : upperRuns.findSome? (·.partner? c.toNat) with
    | none => exact .inl rfl
    | some code =>
      obtain ⟨run, present, partner⟩ := List.exists_of_findSome?_eq_some found
      obtain ⟨held, rfl⟩ := CaseRun.partner?_eq_some_iff.1 partner
      exact .inr (.inl ⟨run, present, held, rfl⟩)

/-- A character that has no expansion and is held by no run is its own upper-case form. -/
theorem upperCharacters_eq_self {c : Char} (plain : upperExpansions.lookup c.toNat = none)
    (outside : ∀ run ∈ upperRuns, ¬run.Holds c.toNat) : upperCharacters c = [c] := by
  have none : upperRuns.findSome? (·.partner? c.toNat) = none := by
    rw [List.findSome?_eq_none_iff]
    intro run present
    rw [Option.eq_none_iff_forall_ne_some]
    intro code partner
    exact outside run present (CaseRun.partner?_eq_some_iff.1 partner).1
  simp only [upperCharacters, expansionIn, plain, Option.map_none, Option.getD_none, partnerIn,
    none]

/-! ## Characters that end words -/

namespace Label

/-- Whether a character stands between words. -/
def isGap (c : Char) : Bool := isSeparator c || isBlank c

/-- Whether a character is a lower-case ASCII letter or a digit, behind which a capital begins a new
word. -/
def isSmall (c : Char) : Bool := ('a' ≤ c && c ≤ 'z') || ('0' ≤ c && c ≤ '9')

/-- Whether a character has a say in where the words of a name end. -/
def isTelling (c : Char) : Bool := isGap c || isSmall c

/-- Where the characters lie that stand between words. -/
def gapRanges : List (Nat × Nat) := [(0x2D, 0x2E), (0x5F, 0x5F)] ++ blanks.ranges

/-- Where the characters lie that have a say in where words end. -/
def tellingRanges : List (Nat × Nat) := [(0x30, 0x39), (0x61, 0x7A)] ++ gapRanges

/-- A character that stands between words lies in one of the ranges. -/
theorem exists_range_of_isGap {c : Char} (gap : isGap c = true) :
    ∃ range ∈ gapRanges, range.1 ≤ c.toNat ∧ c.toNat ≤ range.2 := by
  simp only [isGap, isSeparator, Bool.or_eq_true, beq_iff_eq] at gap
  rcases gap with ((rfl | rfl) | rfl) | blank
  · exact ⟨(0x2D, 0x2E), by decide, by decide, by decide⟩
  · exact ⟨(0x5F, 0x5F), by decide, by decide, by decide⟩
  · exact ⟨(0x2D, 0x2E), by decide, by decide, by decide⟩
  · obtain ⟨range, present, within⟩ := CharacterClass.exists_range_of_covers blank
    exact ⟨range, List.mem_append_right _ present, within⟩

/-- A character that has a say in where words end lies in one of the ranges. So whether a stretch of
the tables is free of them is a question about bounds. -/
theorem exists_range_of_isTelling {c : Char} (telling : isTelling c = true) :
    ∃ range ∈ tellingRanges, range.1 ≤ c.toNat ∧ c.toNat ≤ range.2 := by
  simp only [isTelling, isSmall, Bool.or_eq_true, Bool.and_eq_true, decide_eq_true_eq] at telling
  rcases telling with gap | ⟨low, high⟩ | ⟨low, high⟩
  · obtain ⟨range, present, within⟩ := exists_range_of_isGap gap
    exact ⟨range, List.mem_append_right _ present, within⟩
  · exact ⟨(0x61, 0x7A), by decide, low, high⟩
  · exact ⟨(0x30, 0x39), by decide, low, high⟩

end Label

/-! ## What the tables hold -/

open Label (isTelling tellingRanges exists_range_of_isTelling)

/-- Whether the code points between two bounds are those of characters, none of which has a say in
where words end. -/
def areQuiet (first last : Nat) : Bool :=
  (Nat.blt last 0xD800 || Nat.blt 0xDFFF first && Nat.blt last 0x110000) &&
    tellingRanges.all fun range => Nat.blt last range.1 || Nat.blt range.2 first

/-- A code point between bounds that are quiet is that of a character that has no say. Surrogates
are code points of no characters, so the bounds are tested for these as well. -/
theorem quiet_of_areQuiet {first last code : Nat} (quiet : areQuiet first last = true)
    (low : first ≤ code) (high : code ≤ last) :
    (Char.ofNat code).toNat = code ∧ isTelling (Char.ofNat code) = false := by
  simp only [areQuiet, Bool.and_eq_true, Bool.or_eq_true, Nat.blt_eq, List.all_eq_true] at quiet
  obtain ⟨scalar, apart⟩ := quiet
  have valid : code.isValidChar := by
    rcases scalar with below | ⟨above, fits⟩
    · exact .inl (by omega)
    · exact .inr ⟨by omega, by omega⟩
  have kept : (Char.ofNat code).toNat = code := by
    rw [Char.ofNat, dif_pos valid]
    rfl
  refine ⟨kept, ?_⟩
  rw [Bool.eq_false_iff]
  intro telling
  obtain ⟨range, present, least, most⟩ := exists_range_of_isTelling telling
  have sides := apart range present
  rw [kept] at least most
  omega

/-- The partners in a run have no say in where words end. -/
theorem areQuiet_partners {run : CaseRun} (present : run ∈ upperRuns) :
    areQuiet run.partners.first run.partners.last = true := by
  have each : (upperRuns.all fun run =>
      areQuiet run.partners.first run.partners.last) = true := by decide +kernel
  exact List.all_eq_true.1 each run present

/-- No partner in a run lies before the first code point. -/
theorem partners_fit {run : CaseRun} (present : run ∈ upperRuns) : 0 ≤ run.first + run.shift := by
  have each : (upperRuns.all fun run => decide (0 ≤ run.first + run.shift)) = true := by
    decide +kernel
  exact of_decide_eq_true (List.all_eq_true.1 each run present)

/-- The partners in a run stand in no run. All pairs of runs are gone through, and the test for a
pair looks at nothing but four bounds and the steps. -/
theorem partners_apart {run other : CaseRun} (present : run ∈ upperRuns)
    (also : other ∈ upperRuns) : run.partners.isApart other = true := by
  have each : (upperRuns.all fun run =>
      upperRuns.all fun other => run.partners.isApart other) = true := by decide +kernel
  exact List.all_eq_true.1 (List.all_eq_true.1 each run present) other also

/-- The partners in a run have no expansions. -/
theorem partners_unexpanded {run : CaseRun} {entry : Nat × List Nat} (present : run ∈ upperRuns)
    (listed : entry ∈ upperExpansions) :
    entry.1 < run.partners.first ∨ run.partners.last < entry.1 := by
  have each : (upperRuns.all fun run => upperExpansions.all fun entry =>
      Nat.blt entry.1 run.partners.first || Nat.blt run.partners.last entry.1) = true := by
    decide +kernel
  simpa using List.all_eq_true.1 (List.all_eq_true.1 each run present) entry listed

/-- An expansion holds characters that have no say in where words end. -/
theorem areQuiet_expansion {entry : Nat × List Nat} (listed : entry ∈ upperExpansions) :
    ∀ code ∈ entry.2, areQuiet code code = true := by
  have each : (upperExpansions.all fun entry =>
      entry.2.all fun code => areQuiet code code) = true := by decide +kernel
  exact List.all_eq_true.1 (List.all_eq_true.1 each entry listed)

/-- The first character of an expansion is its own upper-case form. No expansion is empty, and the
first characters are few enough to look them up. -/
theorem expansion_starts {entry : Nat × List Nat} (listed : entry ∈ upperExpansions) :
    ∃ first rest, entry.2 = first :: rest ∧
      upperCharacters (Char.ofNat first) = [Char.ofNat first] := by
  have each : (upperExpansions.all fun entry => entry.2.head?.any fun first =>
      upperCharacters (Char.ofNat first) == [Char.ofNat first]) = true := by decide +kernel
  have starts := List.all_eq_true.1 each entry listed
  obtain ⟨code, codes⟩ := entry
  cases codes with
  | nil => cases starts
  | cons first rest => exact ⟨first, rest, rfl, by simpa using starts⟩

/-- The partners in a run have no say in where words end and are their own upper-case forms. A
partner stands in no run and has no expansion, so it stays as it is; that the run of partners is
quiet says the rest. -/
theorem settled_of_run {run : CaseRun} {code : Nat} (present : run ∈ upperRuns)
    (held : run.Holds code) :
    isTelling (Char.ofNat (Int.toNat (code + run.shift))) = false ∧
      upperCharacters (Char.ofNat (Int.toNat (code + run.shift))) =
        [Char.ofNat (Int.toNat (code + run.shift))] := by
  have partner := held.partners (partners_fit present)
  have ⟨low, high, _⟩ := partner
  obtain ⟨kept, quiet⟩ := quiet_of_areQuiet (areQuiet_partners present) low high
  refine ⟨quiet, upperCharacters_eq_self ?_ fun other also => ?_⟩
  · rw [kept, List.lookup_eq_none_iff]
    intro entry listed
    have sides := partners_unexpanded present listed
    rw [bne_iff_ne]
    omega
  · rw [kept]
    exact partner.not_holds (partners_apart present also)

/-- An upper-case form that is not the character itself holds no character that has a say in where
words end. There are the three cases of `upperCharacters_cases`, and the tables answer for two of
them. -/
theorem upperCharacters_eq_or_quiet (c : Char) :
    upperCharacters c = [c] ∨ ∀ d ∈ upperCharacters c, isTelling d = false := by
  rcases upperCharacters_cases c with itself | ⟨run, present, held, moved⟩ | ⟨entry, listed, longer⟩
  · exact .inl itself
  · refine .inr fun d among => ?_
    rw [moved, List.mem_singleton] at among
    exact among ▸ (settled_of_run present held).1
  · refine .inr fun d among => ?_
    obtain ⟨code, within, rfl⟩ := List.mem_map.1 (longer ▸ among)
    exact (quiet_of_areQuiet (areQuiet_expansion listed code within) le_rfl le_rfl).2

/-- There is an upper-case form of every character, and its first character is its own upper-case
form. A partner is settled as a whole, and of an expansion the first character is. -/
theorem upperCharacters_first (c : Char) :
    ∃ first rest, upperCharacters c = first :: rest ∧ upperCharacters first = [first] := by
  rcases upperCharacters_cases c with itself | ⟨run, present, held, moved⟩ | ⟨entry, listed, longer⟩
  · exact ⟨c, [], itself, itself⟩
  · exact ⟨_, [], moved, (settled_of_run present held).2⟩
  · obtain ⟨first, rest, split, settled⟩ := expansion_starts listed
    exact ⟨Char.ofNat first, rest.map Char.ofNat, by rw [longer, split, List.map_cons], settled⟩

end RecordValidation.Text
