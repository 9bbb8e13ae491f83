import RecordValidation.Check.Complaint
import RecordValidation.Proofs.Effects

/-!
# Readings of templates

A template is read in one way only. What its placeholders are is said here without the reader: a
placeholder stands behind some characters if these, the placeholder and what is left make up the
template (`StandsBehind`). A list of segments is the reading of a template (`Reads`) if it gives the
template back and holds every placeholder that stands in it at its place. Two placeholders cannot
overlap, because a name holds no braces, so there is exactly one reading, and it is the one that
`segments` finds.

Two templates put together are read as the one and then the other exactly if no placeholder is cut
by the seam (`Uncut`, `uncut_iff`). Together with what is made of single characters and of single
placeholders this law of the seam determines what is made of all templates. `wording_exact` says so
of the wording of complaints.
-/

namespace RecordValidation

namespace Text.Template

/-! ## Placeholders in a text -/

/-- What a placeholder may have between its braces: one or more word characters. -/
structure IsPlaceholderName (name : List Char) : Prop where
  nonempty : name ≠ []
  words : ∀ c ∈ name, isWord c = true

/-- A placeholder stands in a template right behind the characters `before`. -/
def StandsBehind (before name template : List Char) : Prop :=
  IsPlaceholderName name ∧
    ∃ after, template = before ++ (Segment.placeholder name).source ++ after

/-- An opening brace stands in no name. This is why no placeholder begins inside of another. -/
theorem IsPlaceholderName.opening_not_mem {name : List Char} (named : IsPlaceholderName name) :
    '\x7b' ∉ name := by
  intro present
  have isWord : isWord '\x7b' = true := named.words _ present
  exact absurd isWord (by decide +kernel)

/-- Behind an opening brace, a placeholder is found exactly if a name and a closing brace follow. A
closing brace is no word character, so the name ends where the word characters do. -/
theorem closing?_eq_some_iff {characters name rest : List Char} :
    closing? characters = some (name, rest) ↔
      IsPlaceholderName name ∧ characters = name ++ '\x7d' :: rest := by
  constructor
  · intro found
    unfold closing? at found
    split at found
    · rename_i first others after taken dropped
      obtain ⟨rfl, rfl⟩ : first :: others = name ∧ after = rest := by simpa using found
      refine ⟨⟨by simp, fun c present => ?_⟩, ?_⟩
      · exact List.all_eq_true.1 List.all_takeWhile c (taken ▸ present)
      · rw [← taken, ← dropped, List.takeWhile_append_dropWhile]
    · cases found
  · rintro ⟨named, rfl⟩
    have stops : isWord '\x7d' = false := by decide +kernel
    have taken : (name ++ '\x7d' :: rest).takeWhile isWord = name := by
      rw [List.takeWhile_append_of_pos named.words, List.takeWhile_cons_of_neg (by simp [stops]),
        List.append_nil]
    have dropped : (name ++ '\x7d' :: rest).dropWhile isWord = '\x7d' :: rest := by
      rw [List.dropWhile_append_of_pos named.words, List.dropWhile_cons_of_neg (by simp [stops])]
    obtain ⟨first, others, rfl⟩ := List.exists_cons_of_ne_nil named.nonempty
    simp only [closing?, taken, dropped]

/-- A text starts with one placeholder at most. -/
theorem placeholder_unique {name other rest tail : List Char} (named : IsPlaceholderName name)
    (alsoNamed : IsPlaceholderName other)
    (same : name ++ '\x7d' :: rest = other ++ '\x7d' :: tail) : name = other ∧ rest = tail := by
  have found : closing? (name ++ '\x7d' :: rest) = some (name, rest) :=
    closing?_eq_some_iff.2 ⟨named, rfl⟩
  have alsoFound : closing? (name ++ '\x7d' :: rest) = some (other, tail) :=
    closing?_eq_some_iff.2 ⟨alsoNamed, same⟩
  simpa using found.symm.trans alsoFound

/-- A placeholder in a text that starts with one is that one, or stands behind it.

Proof: it starts with a brace, which is none of the characters of the name, nor the closing
brace. -/
theorem StandsBehind.of_placeholder {before name other rest : List Char}
    (named : IsPlaceholderName name)
    (stands : StandsBehind before other ((Segment.placeholder name).source ++ rest)) :
    before = [] ∧ other = name ∨ ∃ earlier, before = (Segment.placeholder name).source ++ earlier ∧
      StandsBehind earlier other rest := by
  obtain ⟨otherNamed, after, same⟩ := stands
  cases before with
  | nil =>
    have names : name ++ '\x7d' :: rest = other ++ '\x7d' :: after := by
      simpa [Segment.source] using same
    exact .inl ⟨rfl, (placeholder_unique named otherNamed names).1.symm⟩
  | cons c tail =>
    obtain ⟨rfl, behind⟩ : '\x7b' = c ∧ name ++ '\x7d' :: rest =
        tail ++ '\x7b' :: (other ++ '\x7d' :: after) := by
      simpa [Segment.source] using same
    rcases List.append_eq_append_iff.1 behind with ⟨between, rfl, closing⟩ | ⟨between, rfl, opening⟩
    · cases between with
      | nil => simp at closing
      | cons d earlier =>
        obtain ⟨rfl, rfl⟩ : '\x7d' = d ∧
            rest = earlier ++ '\x7b' :: (other ++ '\x7d' :: after) := by simpa using closing
        exact .inr ⟨earlier, by simp [Segment.source],
          otherNamed, after, by simp [Segment.source]⟩
    · cases between with
      | nil => simp at opening
      | cons d others =>
        obtain ⟨rfl, -⟩ : '\x7b' = d ∧ _ := by simpa using opening
        exact absurd (by simp) named.opening_not_mem

/-- A placeholder in a text that does not start with one stands behind the first character. -/
theorem StandsBehind.of_literal {before name rest : List Char} {c : Char}
    (literal : ∀ other, ¬StandsBehind [] other (c :: rest))
    (stands : StandsBehind before name (c :: rest)) :
    ∃ earlier, before = c :: earlier ∧ StandsBehind earlier name rest := by
  obtain ⟨named, after, same⟩ := stands
  cases before with
  | nil => exact absurd ⟨named, after, same⟩ (literal name)
  | cons first earlier =>
    obtain ⟨rfl, rest⟩ : c = first ∧ rest = earlier ++ (Segment.placeholder name).source ++ after :=
      by simpa using same
    exact ⟨earlier, rfl, named, after, rest⟩

/-! ## The segments of a template -/

/-- A placeholder at the start of a template is its first segment. -/
theorem segments_placeholder {name : List Char} (named : IsPlaceholderName name)
    (rest : List Char) : segments ((Segment.placeholder name).source ++ rest) =
      .placeholder name :: segments rest := by
  have found : closing? (name ++ '\x7d' :: rest) = some (name, rest) :=
    closing?_eq_some_iff.2 ⟨named, rfl⟩
  have written : (Segment.placeholder name).source ++ rest =
      '\x7b' :: (name ++ '\x7d' :: rest) := by simp [Segment.source]
  rw [written, segments, if_pos rfl]
  split
  · rename_i other tail alsoFound
    obtain ⟨rfl, rfl⟩ : name = other ∧ rest = tail := by simpa using found.symm.trans alsoFound
    rfl
  · rename_i missing
    rw [found] at missing
    cases missing

/-- The first character of a template that starts with no placeholder is its first segment. -/
theorem segments_literal {c : Char} {rest : List Char}
    (literal : ∀ name, ¬StandsBehind [] name (c :: rest)) :
    segments (c :: rest) = .literal c :: segments rest := by
  rw [segments]
  split
  · rename_i opens
    subst opens
    split
    · rename_i name tail found
      obtain ⟨named, rfl⟩ := closing?_eq_some_iff.1 found
      exact absurd ⟨named, tail, by simp [Segment.source]⟩ (literal name)
    · rfl
  · rfl

/-- Every text is empty, starts with a placeholder, or starts with a character that stands for
itself. What holds of the empty text and is handed on to the text with either of these in front
holds of every text. -/
theorem induct_segments {property : List Char → Prop} (nil : property [])
    (placeholder : ∀ name rest, IsPlaceholderName name → property rest →
      property ((Segment.placeholder name).source ++ rest))
    (literal : ∀ c rest, (∀ name, ¬StandsBehind [] name (c :: rest)) → property rest →
      property (c :: rest)) (template : List Char) : property template := by
  induction length : template.length using Nat.strongRecOn generalizing template with
  | ind _ inductionHypothesis =>
    subst length
    by_cases starts : ∃ name, StandsBehind [] name template
    · obtain ⟨name, named, rest, rfl⟩ := starts
      exact placeholder name rest named
        (inductionHypothesis rest.length (by simp [Segment.source]; omega) rest rfl)
    · cases template with
      | nil => exact nil
      | cons c rest =>
        exact literal c rest (not_exists.1 starts)
          (inductionHypothesis rest.length (by simp) rest rfl)

/-- Segments are the reading of a template: they were read from the template, their placeholders
have names, and every placeholder that stands in the template is among them, at its place. -/
structure Reads (template : List Char) (pieces : List Segment) : Prop where
  source : pieces.flatMap Segment.source = template
  named : ∀ name, Segment.placeholder name ∈ pieces → IsPlaceholderName name
  complete : ∀ before name, StandsBehind before name template → ∃ earlier later,
    pieces = earlier ++ .placeholder name :: later ∧ earlier.flatMap Segment.source = before

/-- The reading of a text with a placeholder in front has that placeholder in front. A placeholder
of the whole is the one in front, or stands in what is left: none begins inside of the one in
front. -/
theorem Reads.placeholder {rest name : List Char} {pieces : List Segment}
    (reads : Reads rest pieces) (named : IsPlaceholderName name) :
    Reads ((Segment.placeholder name).source ++ rest) (.placeholder name :: pieces) where
  source := by rw [List.flatMap_cons, reads.source]
  named := by
    intro other present
    rcases List.mem_cons.1 present with same | later
    · cases same
      exact named
    · exact reads.named other later
  complete := by
    intro before other stands
    rcases stands.of_placeholder named with ⟨rfl, rfl⟩ | ⟨before, rfl, behind⟩
    · exact ⟨[], pieces, rfl, rfl⟩
    · obtain ⟨earlier, later, rfl, rfl⟩ := reads.complete before other behind
      exact ⟨.placeholder name :: earlier, later, rfl, rfl⟩

/-- The reading of a text with a character in front that starts no placeholder has that character in
front. -/
theorem Reads.literal {rest : List Char} {c : Char} {pieces : List Segment}
    (reads : Reads rest pieces) (literal : ∀ name, ¬StandsBehind [] name (c :: rest)) :
    Reads (c :: rest) (.literal c :: pieces) where
  source := by
    rw [List.flatMap_cons, reads.source]
    rfl
  named := by
    intro name present
    rcases List.mem_cons.1 present with same | later
    · cases same
    · exact reads.named name later
  complete := by
    intro before name stands
    obtain ⟨before, rfl, behind⟩ := stands.of_literal literal
    obtain ⟨earlier, later, rfl, rfl⟩ := reads.complete before name behind
    exact ⟨.literal c :: earlier, later, rfl, rfl⟩

/-- The segments of a template are its reading. The induction is on the template as it is read, by a
placeholder or by a character. -/
theorem reads_segments (template : List Char) : Reads template (segments template) := by
  induction template using induct_segments with
  | nil =>
    have none : segments [] = [] := by rw [segments]
    rw [none]
    refine ⟨rfl, by simp, ?_⟩
    rintro before name ⟨-, after, same⟩
    simp [Segment.source] at same
  | placeholder name rest named inductionHypothesis =>
    rw [segments_placeholder named]
    exact inductionHypothesis.placeholder named
  | literal c rest literal inductionHypothesis =>
    rw [segments_literal literal]
    exact inductionHypothesis.literal literal

/-- What is left of a reading behind its first segment is a reading of what is left of the template.
A placeholder that stands in what is left stands in the whole, behind the first segment, and no such
one begins inside of it. -/
theorem Reads.tail {piece : Segment} {pieces : List Segment} {template : List Char}
    (reads : Reads template (piece :: pieces)) :
    Reads (pieces.flatMap Segment.source) pieces where
  source := rfl
  named name later := reads.named name (List.mem_cons_of_mem _ later)
  complete := by
    rintro before name ⟨named, after, same⟩
    have stands : StandsBehind (piece.source ++ before) name template := by
      refine ⟨named, after, ?_⟩
      rw [← reads.source, List.flatMap_cons, same]
      simp only [List.append_assoc]
    obtain ⟨earlier, later, split, written⟩ := reads.complete _ name stands
    cases earlier with
    | nil => cases piece <;> simp [Segment.source] at written
    | cons first earlier =>
      obtain ⟨rfl, rfl⟩ := List.cons.inj split
      rw [List.flatMap_cons, List.append_cancel_left_eq] at written
      exact ⟨earlier, later, rfl, written⟩

/-- A template has no reading but its segments.

Proof: by induction on the reading. A placeholder in front is found by the reader. A character in
front starts no placeholder, because that would be the first segment of the reading. -/
theorem Reads.eq_segments {pieces : List Segment} {template : List Char}
    (reads : Reads template pieces) : pieces = segments template := by
  induction pieces generalizing template with
  | nil =>
    rw [← reads.source, List.flatMap_nil, segments]
  | cons piece pieces inductionHypothesis =>
    have rest := inductionHypothesis reads.tail
    cases piece with
    | placeholder name =>
      have named := reads.named name List.mem_cons_self
      rw [← reads.source, List.flatMap_cons, segments_placeholder named, ← rest]
    | literal c =>
      have written : c :: pieces.flatMap Segment.source = template := reads.source
      have literal : ∀ name, ¬StandsBehind [] name (c :: pieces.flatMap Segment.source) := by
        intro name stands
        obtain ⟨earlier, later, split, nothing⟩ := reads.complete [] name (written ▸ stands)
        cases earlier with
        | nil => cases split
        | cons first earlier => cases first <;> simp [Segment.source] at nothing
      rw [← written, segments_literal literal, ← rest]

/-! ## Templates put together -/

/-- No placeholder is cut where two templates are put together: each ends in the first or starts in
the second. -/
def Uncut (first second : List Char) : Prop :=
  ∀ before name, StandsBehind before name (first ++ second) →
    before ++ (Segment.placeholder name).source <+: first ∨ first <+: before

/-- Two templates put together are read as the one and then the other exactly if no placeholder is
cut.

Proof: if none is cut, the two readings in a row are a reading of the whole, and there is only one.
If the reading of the whole is the two in a row, a placeholder of it is a segment of one of them. -/
theorem uncut_iff (first second : List Char) :
    Uncut first second ↔ segments (first ++ second) = segments first ++ segments second := by
  have readsFirst := reads_segments first
  have readsSecond := reads_segments second
  constructor
  · intro uncut
    refine (Reads.eq_segments ⟨?_, ?_, ?_⟩).symm
    · rw [List.flatMap_append, readsFirst.source, readsSecond.source]
    · intro name present
      exact (List.mem_append.1 present).elim (readsFirst.named name) (readsSecond.named name)
    · intro before name stands
      rcases uncut before name stands with ⟨after, within⟩ | ⟨between, rfl⟩
      · obtain ⟨earlier, later, split, written⟩ :=
          readsFirst.complete before name ⟨stands.1, after, within.symm⟩
        exact ⟨earlier, later ++ segments second, by simp [split], written⟩
      · obtain ⟨named, after, same⟩ := stands
        have behind : second = between ++ (Segment.placeholder name).source ++ after := by
          simpa using same
        obtain ⟨earlier, later, split, rfl⟩ :=
          readsSecond.complete between name ⟨named, after, behind⟩
        exact ⟨segments first ++ earlier, later, by simp [split], by simp [readsFirst.source]⟩
  · intro joined before name stands
    obtain ⟨earlier, later, split, rfl⟩ := (reads_segments _).complete before name stands
    rw [joined] at split
    rcases List.append_eq_append_iff.1 split with ⟨between, rfl, -⟩ | ⟨between, within, rest⟩
    · exact .inr ⟨between.flatMap Segment.source, by simp [readsFirst.source]⟩
    · cases between with
      | nil =>
        rw [List.append_nil] at within
        exact .inr ⟨[], by rw [← within, readsFirst.source, List.append_nil]⟩
      | cons piece between =>
        obtain ⟨rfl, -⟩ := List.cons.inj rest
        refine .inl ⟨between.flatMap Segment.source, ?_⟩
        have sources := readsFirst.source
        rw [within] at sources
        simpa using sources

instance (first second : List Char) : Decidable (Uncut first second) :=
  decidable_of_iff _ (uncut_iff first second).symm

/-- A placeholder in front of a text is not cut from it. Any other stands behind it, as two do not
overlap. -/
theorem uncut_placeholder {name : List Char} (named : IsPlaceholderName name) (rest : List Char) :
    Uncut (Segment.placeholder name).source rest := by
  intro before other stands
  rcases stands.of_placeholder named with ⟨rfl, rfl⟩ | ⟨earlier, rfl, -⟩
  · exact .inl (List.prefix_refl _)
  · exact .inr (List.prefix_append _ _)

/-- A character in front of a text that starts no placeholder is cut from none. -/
theorem uncut_literal {c : Char} {rest : List Char}
    (literal : ∀ name, ¬StandsBehind [] name (c :: rest)) : Uncut [c] rest := by
  intro before name stands
  obtain ⟨earlier, rfl, -⟩ := stands.of_literal literal
  exact .inr ⟨earlier, rfl⟩

end Text.Template

/-! ## The wording of complaints -/

namespace Complaint

open Text.Template

variable {label : Value} {params : List (String × Value)}

/-- What is written for a segment of a template: the text of the label for the placeholder
`attribute`, the text of its value for one of the parameters, and else what the segment was read
from. -/
def written (label : Value) (params : List (String × Value)) : Segment → List Char
  | .literal c => [c]
  | .placeholder name =>
    if name = "attribute".toList then label.toText.toList
    else
      match params.lookup (String.ofList name) with
      | some value => value.toText.toList
      | none => '\x7b' :: name ++ ['\x7d']

/-- A wording goes over a template once: single characters stay, a single placeholder is replaced,
and templates put together so that no placeholder is cut are worded one after the other. -/
structure GoesOverOnce (label : Value) (params : List (String × Value))
    (wording : String → String) : Prop where
  literal : ∀ c : Char, wording (String.ofList [c]) = String.ofList [c]
  placeholder : ∀ name, IsPlaceholderName name →
    wording (String.ofList (Segment.placeholder name).source) =
      String.ofList (written label params (.placeholder name))
  append : ∀ first second : String, Uncut first.toList second.toList →
    wording (first ++ second) = wording first ++ wording second

/-- What is written for the segments of a template. -/
def wording (label : Value) (params : List (String × Value)) (template : String) : String :=
  String.ofList ((segments template.toList).flatMap (written label params))

/-- The wording of a complaint is what is written for the segments of its template. The label is
looked up before the parameters, so a parameter called `attribute` is never seen. -/
theorem render_text (template : String) :
    render label ⟨.text template, params⟩ = .ok (wording label params template) := by
  have each : ∀ piece : Segment, piece.render (fun name => Value.toText <$>
      (placeholders label ⟨.text template, params⟩).lookup name) = written label params piece := by
    intro piece
    cases piece with
    | literal c => rfl
    | placeholder name =>
      have isLabel : (String.ofList name == "attribute") = decide (name = "attribute".toList) := by
        rw [Bool.eq_iff_iff, beq_iff_eq, decide_eq_true_iff, String.ext_iff, String.toList_ofList]
      by_cases meant : name = "attribute".toList
      · simp [Segment.render, written, placeholders, meant]
      · simp only [Segment.render, written, placeholders, List.lookup_cons, isLabel, meant,
          decide_false, ↓reduceIte]
        cases params.lookup (String.ofList name) <;> rfl
  simp only [render, Text.Template.render, wording, each]

/-- The wording of templates goes over them once. The law of the seam comes from that of reading:
what is not cut is read one after the other. -/
theorem goesOverOnce_wording : GoesOverOnce label params (wording label params) where
  literal c := by
    have none : ∀ name, ¬StandsBehind [] name [c] := by
      rintro name ⟨-, after, same⟩
      have lengths := congrArg List.length same
      simp only [Segment.source, List.length_append, List.length_cons, List.length_nil] at lengths
      omega
    rw [wording, String.toList_ofList, segments_literal none, segments]
    rfl
  placeholder name named := by
    have alone := segments_placeholder named []
    rw [List.append_nil, segments] at alone
    rw [wording, String.toList_ofList, alone, List.flatMap_singleton]
  append first second uncut := by
    simp only [wording, String.toList_append, (uncut_iff _ _).1 uncut, List.flatMap_append,
      String.ofList_append]

/-- A wording that goes over templates once is the wording of templates.

Proof: by induction on the template. A placeholder in front is not cut from what follows it, and a
character that starts no placeholder is cut from none. -/
theorem GoesOverOnce.eq_wording {other : String → String}
    (once : GoesOverOnce label params other) : other = wording label params := by
  have empty : other "" = "" := by
    have doubled : other "" = other "" ++ other "" :=
      once.append "" "" ((uncut_iff _ _).2 (by simp [segments]))
    have lengths := congrArg String.length doubled
    rw [String.length_append] at lengths
    exact String.length_eq_zero_iff.1 (by omega)
  have each : ∀ characters, other (String.ofList characters) =
      wording label params (String.ofList characters) := by
    intro characters
    induction characters using induct_segments with
    | nil =>
      have none : segments [] = [] := by rw [segments]
      simpa [wording, none] using empty
    | placeholder name rest named inductionHypothesis =>
      have uncut : Uncut (String.ofList (Segment.placeholder name).source).toList
          (String.ofList rest).toList := by
        simpa using uncut_placeholder named rest
      rw [String.ofList_append, once.append _ _ uncut, goesOverOnce_wording.append _ _ uncut,
        once.placeholder name named, goesOverOnce_wording.placeholder name named,
        inductionHypothesis]
    | literal c rest literal inductionHypothesis =>
      have uncut : Uncut (String.ofList [c]).toList (String.ofList rest).toList := by
        simpa using uncut_literal literal
      have front : String.ofList (c :: rest) = String.ofList [c] ++ String.ofList rest := by
        rw [← String.ofList_append]
        rfl
      rw [front, once.append _ _ uncut, goesOverOnce_wording.append _ _ uncut, once.literal,
        goesOverOnce_wording.literal, inductionHypothesis]
  funext template
  simpa using each template.toList

end Complaint

open Text.Template in
/-- How a template is worded with a label and parameters.

Every template is worded. It has exactly one reading, and the wording is what is written for its
segments one after the other: the text of the label or of a parameter for a placeholder that names
it, and what the segment was read from for all others. What is written is not read again. So
templates put together so that no placeholder is cut are worded one after the other; and there is no
other way to word templates for which that is so and by which single characters stay and single
placeholders are replaced.

Proof: the segments that the reader finds are the only reading, and the reading of templates put
together is the readings of both if no placeholder is cut. Every template is put together in that
way from placeholders and single characters. -/
theorem wording_exact (label : Value) (params : List (String × Value)) :
    ∃ wording : String → String,
      (∀ template, Complaint.render label ⟨.text template, params⟩ = .ok (wording template)) ∧
      (∀ (ρ : Type) (host : Host ρ) (name : Value) (template : String) (session after : Session ρ),
        (host.labelOf name).run session = .ok label after →
          (Complaint.worded host name ⟨.text template, params⟩).run session =
            .ok (.text (wording template)) after) ∧
      (∀ template, ∃ pieces, (∀ others, Reads template.toList others ↔ others = pieces) ∧
        wording template = String.ofList (pieces.flatMap (Complaint.written label params))) ∧
      ∀ other, Complaint.GoesOverOnce label params other ↔ other = wording := by
  refine ⟨Complaint.wording label params, Complaint.render_text, ?_, ?_, ?_⟩
  · intro ρ host name template session after labelled
    simp only [Complaint.worded, EStateM.run_bind, labelled, Complaint.render_text]
    rfl
  · intro template
    refine ⟨segments template.toList, fun others => ⟨Reads.eq_segments, ?_⟩, rfl⟩
    rintro rfl
    exact reads_segments _
  · intro other
    refine ⟨Complaint.GoesOverOnce.eq_wording, ?_⟩
    rintro rfl
    exact Complaint.goesOverOnce_wording

/-- A record whose attribute `v` has a label that looks like a placeholder. -/
def braceLabelled : PlainRecord := ⟨.empty, some ⟨[("v", "\x7bmin\x7d")]⟩⟩

open Text.Template in
/-- A label that looks like a placeholder stays as it is where it is put in, and of braces in braces
only the inner ones are those of a placeholder. The seam stands between an outer brace and an inner
one. -/
theorem wording_exact_nested :
    let session : Session PlainRecord := ⟨braceLabelled, .empty, []⟩
    (braceLabelled.host.labelOf "v").run session = .ok "\x7bmin\x7d" session ∧
    Uncut "\x7battribute\x7d: \x7b".toList "\x7bmin\x7d\x7d of \x7bmax\x7d".toList ∧
    (Complaint.worded braceLabelled.host "v"
        ⟨"\x7battribute\x7d: \x7b\x7bmin\x7d\x7d of \x7bmax\x7d", [("min", .int 5)]⟩).run session =
      .ok "\x7bmin\x7d: \x7b5\x7d of \x7bmax\x7d" session := by
  intro session
  have labelled : (braceLabelled.host.labelOf "v").run session = .ok "\x7bmin\x7d" session := rfl
  have uncut : Uncut "\x7battribute\x7d: \x7b".toList
      "\x7bmin\x7d\x7d of \x7bmax\x7d".toList := by decide +kernel
  obtain ⟨wording, -, words, reads, once⟩ := wording_exact "\x7bmin\x7d" [("min", .int 5)]
  have onSegments : ∀ template, wording template =
      Complaint.wording "\x7bmin\x7d" [("min", .int 5)] template := by
    intro template
    obtain ⟨pieces, unique, same⟩ := reads template
    rw [same, ← (unique _).1 (reads_segments template.toList)]
    rfl
  have front : wording "\x7battribute\x7d: \x7b" = "\x7bmin\x7d: \x7b" :=
    (onSegments _).trans (by decide +kernel)
  have back : wording "\x7bmin\x7d\x7d of \x7bmax\x7d" = "5\x7d of \x7bmax\x7d" :=
    (onSegments _).trans (by decide +kernel)
  have whole : wording "\x7battribute\x7d: \x7b\x7bmin\x7d\x7d of \x7bmax\x7d" =
      "\x7bmin\x7d: \x7b5\x7d of \x7bmax\x7d" := by
    have joined := ((once wording).2 rfl).append _ _ uncut
    rw [front, back] at joined
    exact joined
  refine ⟨labelled, uncut, ?_⟩
  rw [← whole]
  exact words PlainRecord braceLabelled.host "v" _ session session labelled

end RecordValidation
