import Mathlib.Data.List.Chain
import RecordValidation.Model.Type
import RecordValidation.Proofs.UpperCase

/-!
# Labels as normal forms

The words of a name are told here without the functions that cut it (`SplitsInto`): between words
stand separators and blanks, a word holds none of these and no boundary, and where a word ends there
is one of these, a boundary, or the end of the name. A name splits in exactly one way, which is the
one that `words` finds (`splitsInto_iff`).

A word with its first character in upper case is a word again, and doing so once more changes
nothing (`IsOneWord.capitalized`, `capitalized_capitalized`). So the label of a name is made of
words and single spaces (`IsTidy`), it splits into the very words it was put together from, and the
label of a label is that label. `generatedLabel_exact` says so of the labels of models.
-/

namespace RecordValidation

namespace Text

/-! ## Chunks -/

section Chunks

variable {cut : Char → Bool} {c d : Char} {rest : List Char}

/-- A character that is cut at the beginning is passed over. -/
theorem chunks_cons_of_cut (first : cut c = true) : chunks cut (c :: rest) = chunks cut rest := by
  simp [chunks, first]

/-- A character in front of one that is cut is a chunk. -/
theorem chunks_cons_cons_of_cut (kept : cut c = false) (second : cut d = true) :
    chunks cut (c :: d :: rest) = [c] :: chunks cut (d :: rest) := by
  rw [chunks]
  simp [kept, second]

/-- A character in front of another one goes to the chunk of that one. -/
theorem chunks_cons_cons_of_kept (kept : cut c = false) (also : cut d = false)
    {chunk : List Char} {later : List (List Char)}
    (split : chunks cut (d :: rest) = chunk :: later) :
    chunks cut (c :: d :: rest) = (c :: chunk) :: later := by
  rw [chunks]
  simp [kept, also, split]

end Chunks

namespace Label

/-! ## Words of a name -/

/-- A text that is one word: it is not empty, and there is nothing in it at which a name is cut. -/
structure IsOneWord (word : List Char) : Prop where
  nonempty : word ≠ []
  solid : ∀ c ∈ word, isGap c = false
  whole : word.IsChain fun left right => isBoundary left right = false

/-- A word ends where the rest of a name begins: nothing is left, or what is left begins between
words, or there is a boundary between the two. -/
def EndsBefore (word rest : List Char) : Prop :=
  ∀ next ∈ rest.head?, isGap next = true ∨ ∃ last ∈ word.getLast?, isBoundary last next = true

/-- A name consists of words, with nothing but separators and blanks between and around them. -/
inductive SplitsInto : List Char → List (List Char) → Prop
  | nothing {gap : List Char} (between : ∀ c ∈ gap, isGap c = true) : SplitsInto gap []
  | word {gap word rest : List Char} {words : List (List Char)}
      (between : ∀ c ∈ gap, isGap c = true) (isWord : IsOneWord word)
      (ends : EndsBefore word rest) (others : SplitsInto rest words) :
      SplitsInto (gap ++ word ++ rest) (word :: words)

/-- A word may stand at the beginning. -/
theorem SplitsInto.start {word rest : List Char} {words : List (List Char)}
    (isWord : IsOneWord word) (ends : EndsBefore word rest) (others : SplitsInto rest words) :
    SplitsInto (word ++ rest) (word :: words) :=
  SplitsInto.word (List.forall_mem_nil _) isWord ends others

/-- A character between two code points that no separator or blank lies between is none. -/
theorem isGap_eq_false_of_within (low high : Nat) {c : Char} (least : low ≤ c.toNat)
    (most : c.toNat ≤ high) (apart : ∀ range ∈ gapRanges, high < range.1 ∨ range.2 < low) :
    isGap c = false := by
  rw [Bool.eq_false_iff]
  intro gap
  obtain ⟨range, present, first, last⟩ := exists_range_of_isGap gap
  have sides := apart range present
  omega

/-- No character at a boundary stands between words. -/
theorem not_gap_of_isBoundary {left right : Char} (boundary : isBoundary left right = true) :
    isGap left = false ∧ isGap right = false := by
  simp only [isBoundary, Bool.and_eq_true, Bool.or_eq_true, decide_eq_true_eq] at boundary
  obtain ⟨small, low, high⟩ := boundary
  refine ⟨?_, isGap_eq_false_of_within 0x41 0x5A low high (by decide)⟩
  rcases small with ⟨low, high⟩ | ⟨low, high⟩
  · exact isGap_eq_false_of_within 0x61 0x7A low high (by decide)
  · exact isGap_eq_false_of_within 0x30 0x39 low high (by decide)

/-- There is no boundary in front of a character that stands between words. -/
theorem isBoundary_gap {c : Char} (gap : isGap c = true) (left : Char) :
    isBoundary left c = false := by
  rw [Bool.eq_false_iff]
  intro boundary
  rw [(not_gap_of_isBoundary boundary).2] at gap
  cases gap

/-- There is no boundary behind a character that stands between words. -/
theorem isBoundary_of_gap {c : Char} (gap : isGap c = true) (right : Char) :
    isBoundary c right = false := by
  rw [Bool.eq_false_iff]
  intro boundary
  rw [(not_gap_of_isBoundary boundary).1] at gap
  cases gap

/-! ## The words that are found -/

/-- A space in place of a separator. -/
def cleared (c : Char) : Char := if isSeparator c then ' ' else c

/-- What stands between words is blank once the separators are cleared. -/
theorem isBlank_cleared (c : Char) : isBlank (cleared c) = isGap c := by
  cases separator : isSeparator c with
  | true =>
    rw [cleared, if_pos separator, isGap, separator, Bool.true_or]
    decide
  | false => simp [cleared, isGap, separator]

/-- The words of a name are the chunks of the name with spaces put in and separators cleared. -/
theorem words_eq (name : List Char) : words name = chunks isBlank ((spaced name).map cleared) := rfl

/-- No space is put in behind a character that no boundary follows. -/
theorem spaced_cons {c : Char} {rest : List Char}
    (joined : ∀ next ∈ rest.head?, isBoundary c next = false) :
    spaced (c :: rest) = c :: spaced rest := by
  cases rest with
  | nil => rfl
  | cons next rest => simp [spaced, joined next rfl]

/-- A name begins with the same character once spaces are put in. -/
theorem exists_spaced_cons (c : Char) (rest : List Char) :
    ∃ others, spaced (c :: rest) = c :: others := by
  cases rest with
  | nil => exact ⟨[], rfl⟩
  | cons next rest =>
    rw [spaced]
    split
    · exact ⟨_, rfl⟩
    · exact ⟨_, rfl⟩

/-- What stands in front of the words belongs to none. -/
theorem words_cons_of_gap {c : Char} (gap : isGap c = true) (rest : List Char) :
    words (c :: rest) = words rest := by
  rw [words_eq, spaced_cons fun next _ => isBoundary_of_gap gap next, List.map_cons,
    chunks_cons_of_cut ((isBlank_cleared c).trans gap), words_eq]

/-- A character that does not stand between words is not blank, and clearing leaves it. -/
theorem kept_of_not_gap {c : Char} (kept : isGap c = false) :
    cleared c = c ∧ isBlank c = false := by
  obtain ⟨other, blank⟩ := Bool.or_eq_false_iff.1 kept
  exact ⟨if_neg (by simp [other]), blank⟩

/-- A character alone is a word unless it stands between words. -/
theorem words_singleton {c : Char} (kept : isGap c = false) : words [c] = [[c]] := by
  obtain ⟨same, blank⟩ := kept_of_not_gap kept
  simp [words_eq, spaced, same, chunks, blank]

/-- A character is a word if it ends where the rest of the name begins. At a boundary a space is put
in, which is cut; otherwise the next character itself is. -/
theorem words_cons_of_parted {c next : Char} (kept : isGap c = false)
    (parted : isGap next = true ∨ isBoundary c next = true) (rest : List Char) :
    words (c :: next :: rest) = [c] :: words (next :: rest) := by
  obtain ⟨same, blank⟩ := kept_of_not_gap kept
  cases boundary : isBoundary c next with
  | true =>
    have apart : spaced (c :: next :: rest) = c :: ' ' :: spaced (next :: rest) := by
      simp [spaced, boundary]
    rw [words_eq, apart, List.map_cons, List.map_cons, same]
    rw [chunks_cons_cons_of_cut blank (by decide), chunks_cons_of_cut (by decide), words_eq]
  | false =>
    have gap : isGap next = true := by simpa [boundary] using parted
    have joined : ∀ other ∈ (next :: rest).head?, isBoundary c other = false := by
      simpa using boundary
    obtain ⟨others, begins⟩ := exists_spaced_cons next rest
    rw [words_eq, spaced_cons joined, begins, List.map_cons, List.map_cons, same,
      chunks_cons_cons_of_cut blank ((isBlank_cleared next).trans gap), words_eq, begins,
      List.map_cons]

/-- A character that does not end where the rest of the name begins goes to the first word of the
rest. Nothing is put in between the two, and neither is cut. -/
theorem words_cons_of_joined {c next : Char} (kept : isGap c = false) (also : isGap next = false)
    (joined : isBoundary c next = false) {rest word : List Char} {others : List (List Char)}
    (split : words (next :: rest) = word :: others) :
    words (c :: next :: rest) = (c :: word) :: others := by
  obtain ⟨same, blank⟩ := kept_of_not_gap kept
  obtain ⟨tail, begins⟩ := exists_spaced_cons next rest
  rw [words_eq, begins, List.map_cons] at split
  rw [words_eq, spaced_cons (by simpa using joined), begins, List.map_cons, List.map_cons, same]
  exact chunks_cons_cons_of_kept blank ((isBlank_cleared next).trans also) split

/-- What stands between words in front of the others belongs to none. -/
theorem words_append_of_gap {gap : List Char} (between : ∀ c ∈ gap, isGap c = true)
    (rest : List Char) : words (gap ++ rest) = words rest := by
  induction gap with
  | nil => rfl
  | cons c gap inductionHypothesis =>
    rw [List.cons_append, words_cons_of_gap (between c List.mem_cons_self)]
    exact inductionHypothesis fun other later => between other (List.mem_cons_of_mem _ later)

/-- A word that ends where the rest of the name begins is the first word of the name.

Proof: by induction on the word. Its last character is parted from the rest, and each character in
front of that is joined with the next one. -/
theorem words_append_of_word {word rest : List Char} (isWord : IsOneWord word)
    (ends : EndsBefore word rest) : words (word ++ rest) = word :: words rest := by
  induction word with
  | nil => exact absurd rfl isWord.nonempty
  | cons c tail inductionHypothesis =>
    have kept : isGap c = false := isWord.solid c List.mem_cons_self
    cases tail with
    | nil =>
      cases rest with
      | nil => exact words_singleton kept
      | cons next rest =>
        have parted : isGap next = true ∨ isBoundary c next = true := by simpa using ends next rfl
        exact words_cons_of_parted kept parted rest
    | cons next tail =>
      obtain ⟨joined, whole⟩ := List.isChain_cons_cons.1 isWord.whole
      have solid : ∀ d ∈ next :: tail, isGap d = false := fun d later =>
        isWord.solid d (List.mem_cons_of_mem _ later)
      have split := inductionHypothesis ⟨by simp, solid, whole⟩ (by simpa [EndsBefore] using ends)
      exact words_cons_of_joined kept (solid next List.mem_cons_self) joined split

/-- A separator or a blank in front of a name does not change how the name splits. It joins what
stands before the first word, or what there is if there are no words. -/
theorem SplitsInto.cons_of_gap {c : Char} {rest : List Char} {words : List (List Char)}
    (gap : isGap c = true) (splits : SplitsInto rest words) : SplitsInto (c :: rest) words := by
  cases splits with
  | nothing between => exact .nothing (List.forall_mem_cons.2 ⟨gap, between⟩)
  | word between isWord ends others =>
    exact SplitsInto.word (List.forall_mem_cons.2 ⟨gap, between⟩) isWord ends others

/-- A single character that ends where the rest of a name begins is a word in front of those of the
rest. -/
theorem SplitsInto.cons_of_parted {c : Char} {rest : List Char} {words : List (List Char)}
    (kept : isGap c = false) (ends : EndsBefore [c] rest) (splits : SplitsInto rest words) :
    SplitsInto (c :: rest) ([c] :: words) :=
  .start ⟨by simp, by simpa using kept, .singleton c⟩ ends splits

/-- A character that is joined with the next one goes to the word of that one. The word stays whole,
since no boundary lies between the two characters, and ends where it ended. -/
theorem SplitsInto.cons_of_joined {c next : Char} {rest word : List Char}
    {words : List (List Char)} (kept : isGap c = false) (also : isGap next = false)
    (joined : isBoundary c next = false) (splits : SplitsInto (next :: rest) (word :: words)) :
    SplitsInto (c :: next :: rest) ((c :: word) :: words) := by
  generalize same : next :: rest = name at splits
  cases splits with
  | @word gap word rest' words between isWord ends others =>
    -- The rest does not begin between words, so it begins with the word.
    have none : gap = [] := by
      cases gap with
      | nil => rfl
      | cons d gap =>
        obtain ⟨rfl, -⟩ : next = d ∧ _ := by simpa using same
        rw [between next List.mem_cons_self] at also
        cases also
    subst none
    obtain ⟨tail, rfl⟩ : ∃ tail, word = next :: tail := by
      obtain ⟨first, tail, rfl⟩ := List.exists_cons_of_ne_nil isWord.nonempty
      obtain ⟨rfl, -⟩ : next = first ∧ _ := by simpa using same
      exact ⟨tail, rfl⟩
    have longer : IsOneWord (c :: next :: tail) := by
      refine ⟨by simp, List.forall_mem_cons.2 ⟨kept, isWord.solid⟩, ?_⟩
      exact List.isChain_cons_cons.2 ⟨joined, isWord.whole⟩
    have endsThere : EndsBefore (c :: next :: tail) rest' := by simpa [EndsBefore] using ends
    exact .start longer endsThere others

/-- A name that splits into nothing has nothing but separators and blanks. -/
theorem SplitsInto.isGap_of_nil {name : List Char} (splits : SplitsInto name []) :
    ∀ c ∈ name, isGap c = true := by
  cases splits with
  | nothing between => exact between

/-- A name splits into its words.

Proof: by induction on the name. A character in front stands between words, or is a word of its own,
or goes to the first word of what follows it. -/
theorem splitsInto_words (name : List Char) : SplitsInto name (words name) := by
  induction name with
  | nil => exact .nothing (by simp)
  | cons c rest inductionHypothesis =>
    cases kept : isGap c with
    | true =>
      rw [words_cons_of_gap kept]
      exact inductionHypothesis.cons_of_gap kept
    | false =>
      cases rest with
      | nil =>
        rw [words_singleton kept]
        exact .cons_of_parted kept (by simp [EndsBefore]) (.nothing (by simp))
      | cons next rest =>
        by_cases parted : isGap next = true ∨ isBoundary c next = true
        · rw [words_cons_of_parted kept parted]
          exact inductionHypothesis.cons_of_parted kept (by simpa [EndsBefore] using parted)
        · obtain ⟨also, joined⟩ : isGap next = false ∧ isBoundary c next = false := by
            simpa using parted
          cases split : words (next :: rest) with
          | nil =>
            rw [split] at inductionHypothesis
            rw [inductionHypothesis.isGap_of_nil next List.mem_cons_self] at also
            cases also
          | cons word others =>
            rw [words_cons_of_joined kept also joined split]
            exact (split ▸ inductionHypothesis).cons_of_joined kept also joined

/-- A name splits in one way only. By induction on how it splits, as `words` passes over what stands
between and finds each word. -/
theorem SplitsInto.eq_words {name : List Char} {found : List (List Char)}
    (splits : SplitsInto name found) : found = words name := by
  induction splits with
  | nothing between =>
    have none := words_append_of_gap between []
    rw [List.append_nil] at none
    exact none.symm
  | word between isWord ends _ inductionHypothesis =>
    rw [List.append_assoc, words_append_of_gap between, words_append_of_word isWord ends,
      ← inductionHypothesis]

/-- The words of a name are all that it splits into. -/
theorem splitsInto_iff {name : List Char} {found : List (List Char)} :
    SplitsInto name found ↔ found = words name := by
  refine ⟨SplitsInto.eq_words, ?_⟩
  rintro rfl
  exact splitsInto_words name

/-- What a name splits into is words. -/
theorem SplitsInto.isOneWord {name : List Char} {found : List (List Char)}
    (splits : SplitsInto name found) : ∀ word ∈ found, IsOneWord word := by
  induction splits with
  | nothing => simp
  | word _ isWord _ _ inductionHypothesis =>
    exact List.forall_mem_cons.2 ⟨isWord, inductionHypothesis⟩

/-! ## Words in upper case -/

/-- A word with its first character in upper case is a word.

Proof: the upper-case form is the character itself, or what it is made of neither stands between
words nor is a small character, so that no boundary lies behind it. -/
theorem IsOneWord.capitalized {word : List Char} (isWord : IsOneWord word) :
    IsOneWord (capitalized word) := by
  obtain ⟨c, tail, rfl⟩ := List.exists_cons_of_ne_nil isWord.nonempty
  obtain ⟨first, others, form, -⟩ := upperCharacters_first c
  rw [Label.capitalized]
  rcases upperCharacters_eq_or_quiet c with itself | quiet
  · rw [itself]
    exact isWord
  · have noGap : ∀ d ∈ upperCharacters c, isGap d = false := fun d among =>
      (Bool.or_eq_false_iff.1 (quiet d among)).1
    have noBoundary : ∀ d ∈ upperCharacters c, ∀ right, isBoundary d right = false := by
      intro d among right
      have small : isSmall d = false := (Bool.or_eq_false_iff.1 (quiet d among)).2
      exact Bool.and_eq_false_iff.2 (.inl small)
    refine ⟨by simp [form], ?_, ?_⟩
    · intro d among
      exact (List.mem_append.1 among).elim (noGap d) fun later =>
        isWord.solid d (List.mem_cons_of_mem _ later)
    · have within : (upperCharacters c).Pairwise fun left right => isBoundary left right = false :=
        List.pairwise_of_forall_mem_list fun d among right _ => noBoundary d among right
      refine within.isChain.append isWord.whole.tail fun d last right _ => ?_
      exact noBoundary d (List.mem_of_getLast? last) right

/-- Putting the first character in upper case once more changes nothing. The first character of an
upper-case form is its own upper-case form. -/
theorem capitalized_capitalized (word : List Char) :
    capitalized (capitalized word) = capitalized word := by
  cases word with
  | nil => rfl
  | cons c tail =>
    obtain ⟨first, others, form, settled⟩ := upperCharacters_first c
    simp only [capitalized, form, List.cons_append, settled, List.nil_append]

/-! ## Words with spaces between them -/

/-- What a label looks like: there are no separators, and no blanks but single spaces between other
characters, and no boundaries. -/
structure IsTidy (label : List Char) : Prop where
  noSeparator : ∀ c ∈ label, isSeparator c = false
  onlySpaces : ∀ c ∈ label, isBlank c = true → c = ' '
  leading : label.head? ≠ some ' '
  trailing : label.getLast? ≠ some ' '
  single : label.IsChain fun left right => ¬(left = ' ' ∧ right = ' ')
  whole : label.IsChain fun left right => isBoundary left right = false

/-- No character of a word is a space. -/
theorem IsOneWord.ne_space {word : List Char} (isWord : IsOneWord word) {c : Char}
    (among : c ∈ word) : c ≠ ' ' := by
  rintro rfl
  exact absurd (isWord.solid ' ' among) (by decide)

/-- A word is tidy. -/
theorem IsOneWord.isTidy {word : List Char} (isWord : IsOneWord word) : IsTidy word where
  noSeparator c among := (Bool.or_eq_false_iff.1 (isWord.solid c among)).1
  onlySpaces c among blank := by
    rw [(Bool.or_eq_false_iff.1 (isWord.solid c among)).2] at blank
    cases blank
  leading first := isWord.ne_space (List.mem_of_head? first) rfl
  trailing last := isWord.ne_space (List.mem_of_getLast? last) rfl
  single := by
    refine (List.pairwise_of_forall_mem_list fun c among right _ => ?_).isChain
    exact fun both => isWord.ne_space among both.1
  whole := isWord.whole

/-- A word and a space in front of a tidy text give a tidy text. The space stands between two other
characters, since a word ends and a tidy text begins with one, and a space is at no boundary. -/
theorem IsTidy.prepend {word label : List Char} (isWord : IsOneWord word) (tidy : IsTidy label)
    (nonempty : label ≠ []) : IsTidy (word ++ ' ' :: label) where
  noSeparator := by
    have space : isSeparator ' ' = false := by decide
    exact List.forall_mem_append.2
      ⟨isWord.isTidy.noSeparator, List.forall_mem_cons.2 ⟨space, tidy.noSeparator⟩⟩
  onlySpaces := List.forall_mem_append.2
    ⟨isWord.isTidy.onlySpaces, List.forall_mem_cons.2 ⟨fun _ => rfl, tidy.onlySpaces⟩⟩
  leading := by
    obtain ⟨first, tail, rfl⟩ := List.exists_cons_of_ne_nil isWord.nonempty
    exact isWord.isTidy.leading
  trailing := by
    have last : (word ++ ' ' :: label).getLast? = label.getLast? := by
      rw [List.getLast?_append_of_ne_nil _ (by simp), List.getLast?_cons_of_ne_nil nonempty]
    rw [last]
    exact tidy.trailing
  single := by
    refine isWord.isTidy.single.append (tidy.single.cons fun c first both => ?_) ?_
    · exact tidy.leading (both.2 ▸ first)
    · exact fun c last _ _ both => isWord.ne_space (List.mem_of_getLast? last) both.1
  whole := by
    have gap : isGap ' ' = true := by decide
    refine isWord.whole.append (tidy.whole.cons fun c _ => isBoundary_of_gap gap c) ?_
    rintro c - next first
    obtain rfl : ' ' = next := by simpa using first
    exact isBoundary_gap gap c

/-- Words with single spaces between them are tidy. The last word is tidy by itself, and each other
one is put in front with a space. -/
theorem isTidy_intercalate {words : List (List Char)} (each : ∀ word ∈ words, IsOneWord word) :
    IsTidy (List.intercalate [' '] words) := by
  induction words with
  | nil => exact ⟨by simp, by simp, by simp, by simp, .nil, .nil⟩
  | cons word others inductionHypothesis =>
    obtain ⟨isWord, rest⟩ := List.forall_mem_cons.1 each
    cases others with
    | nil =>
      rw [List.intercalate_singleton]
      exact isWord.isTidy
    | cons next others =>
      rw [List.intercalate_cons_cons, List.append_assoc, List.singleton_append]
      have nonempty : List.intercalate [' '] (next :: others) ≠ [] := by
        obtain ⟨c, tail, rfl⟩ := List.exists_cons_of_ne_nil (rest next List.mem_cons_self).nonempty
        cases others <;> simp
      exact (inductionHypothesis rest).prepend isWord nonempty

/-- Words with single spaces between them are what the text splits into. The space behind a word
ends it, whatever comes next, and joins no word itself. -/
theorem splitsInto_intercalate {words : List (List Char)}
    (each : ∀ word ∈ words, IsOneWord word) : SplitsInto (List.intercalate [' '] words) words := by
  induction words with
  | nil => exact .nothing (by simp)
  | cons word others inductionHypothesis =>
    obtain ⟨isWord, rest⟩ := List.forall_mem_cons.1 each
    cases others with
    | nil =>
      rw [List.intercalate_singleton]
      have ends : EndsBefore word [] := by simp [EndsBefore]
      have alone := SplitsInto.start isWord ends (.nothing (List.forall_mem_nil _))
      rwa [List.append_nil] at alone
    | cons next others =>
      have gap : isGap ' ' = true := by decide
      rw [List.intercalate_cons_cons, List.append_assoc, List.singleton_append]
      exact .start isWord (by simp [EndsBefore, gap])
        ((inductionHypothesis rest).cons_of_gap gap)

/-- A capitalized word is the upper-case form of its first character and the rest of it. It says so
for the empty word too, with nothing taken and nothing dropped. -/
theorem capitalized_eq (word : List Char) :
    capitalized word = (word.take 1).flatMap upperCharacters ++ word.drop 1 := by
  cases word with
  | nil => rfl
  | cons c tail => simp [capitalized]

/-- The characters of a label are the words of the name, each with a capital, with single spaces
between them. -/
theorem toList_ofName (name : String) :
    (ofName name).toList = List.intercalate [' '] ((words name.toList).map capitalized) := by
  rw [ofName, String.toList_ofList]

end Label

end Text

open Text Text.Label in
/-- What the label made from a name is.

A name splits into words in one way only. Every name has a label: the words in order, the first
character of each in upper case, with single spaces between them. The label has no separators, no
blanks but single spaces inside it, and no boundaries; it splits into what it was put together from,
and the label of the label is the label itself.

Proof: what the name splits into is words, and they are words also in upper case. Words with single
spaces between them are tidy and are what the label splits into, and putting them in upper case once
more changes nothing. -/
theorem generatedLabel_exact (name : String) :
    ∃ words : List (List Char), (∀ found, SplitsInto name.toList found ↔ found = words) ∧
    ∃ label : String, ModelType.generatedLabel (.text name) = .ok (.text label) ∧
      label.toList = List.intercalate [' ']
        (words.map fun word => (word.take 1).flatMap upperCharacters ++ word.drop 1) ∧
      IsTidy label.toList ∧ SplitsInto label.toList (words.map capitalized) ∧
      ModelType.generatedLabel (.text label) = .ok (.text label) := by
  have each : ∀ word ∈ (Label.words name.toList).map capitalized, IsOneWord word := by
    intro word present
    obtain ⟨given, among, rfl⟩ := List.mem_map.1 present
    exact ((splitsInto_words name.toList).isOneWord given among).capitalized
  have splits : SplitsInto (ofName name).toList ((Label.words name.toList).map capitalized) := by
    rw [toList_ofName]
    exact splitsInto_intercalate each
  have again : ofName (ofName name) = ofName name := by
    have settled : capitalized ∘ capitalized = capitalized := funext capitalized_capitalized
    rw [← String.toList_inj, toList_ofName (ofName name), ← splits.eq_words, List.map_map, settled,
      toList_ofName]
  refine ⟨Label.words name.toList, fun _ => splitsInto_iff, ofName name, rfl, ?_, ?_, splits, ?_⟩
  · rw [toList_ofName]
    exact congrArg _ (List.map_congr_left fun word _ => capitalized_eq word)
  · rw [toList_ofName]
    exact isTidy_intercalate each
  · rw [ModelType.generatedLabel, again]

example : Text.Label.ofName "_ßeta--x9Y" = "SSeta X9 Y" := by decide +kernel

end RecordValidation
