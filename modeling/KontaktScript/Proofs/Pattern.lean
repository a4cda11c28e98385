import KontaktScript.Text.Pattern
import Mathlib.Data.List.Basic

/-!
# Matches of a pattern

A pattern says in which ways a text can be cut along its parts.  A search that backtracks
finds one of these ways if there is any, and nothing else.  Which one it finds is a
matter of preference: runs that are as long as they can be, and first alternatives.  Where
the text can be cut in one way only, preferences do not matter.
-/

namespace KontaktScript.Text.Pattern

/-- The pattern can be matched along a text that starts at an offset.  To what was
captured before, the match adds what the groups of the pattern capture. -/
inductive Matches : Pattern → Nat → List Char → Captures → Captures → Prop where
  | empty (offset : Nat) (found : Captures) : Matches .empty offset [] found found
  | one {cls : CharClass} (offset : Nat) {c : Char} (found : Captures)
      (hc : cls.holds c = true) : Matches (.one cls) offset [c] found found
  | many {cls : CharClass} (offset : Nat) {text : List Char} (found : Captures)
      (htext : ∀ c ∈ text, cls.holds c = true) : Matches (.many cls) offset text found found
  | seq {first second : Pattern} {offset : Nat} {left right : List Char}
      {found between after : Captures} (hfirst : Matches first offset left found between)
      (hsecond : Matches second (offset + left.length) right between after) :
      Matches (.seq first second) offset (left ++ right) found after
  | left {first : Pattern} (second : Pattern) {offset : Nat} {text : List Char}
      {found after : Captures} (hfirst : Matches first offset text found after) :
      Matches (.either first second) offset text found after
  | right (first : Pattern) {second : Pattern} {offset : Nat} {text : List Char}
      {found after : Captures} (hsecond : Matches second offset text found after) :
      Matches (.either first second) offset text found after
  | group (number : Nat) {inner : Pattern} {offset : Nat} {text : List Char}
      {found after : Captures} (hinner : Matches inner offset text found after) :
      Matches (.group number inner) offset text found ((number, ⟨offset, text⟩) :: after)

section Inversion

variable {first second inner : Pattern} {cls : CharClass} {offset number : Nat}
  {text : List Char} {found after : Captures}

theorem matches_empty_iff :
    empty.Matches offset text found after ↔ text = [] ∧ after = found := by
  constructor
  · rintro ⟨⟩
    exact ⟨rfl, rfl⟩
  · rintro ⟨rfl, rfl⟩
    exact .empty offset after

theorem matches_one_iff :
    (one cls).Matches offset text found after ↔
      (∃ c, text = [c] ∧ cls.holds c = true) ∧ after = found := by
  constructor
  · rintro ⟨⟩
    exact ⟨⟨_, rfl, by assumption⟩, rfl⟩
  · rintro ⟨⟨c, rfl, hc⟩, rfl⟩
    exact .one offset after hc

theorem matches_many_iff :
    (many cls).Matches offset text found after ↔
      (∀ c ∈ text, cls.holds c = true) ∧ after = found := by
  constructor
  · rintro ⟨⟩
    exact ⟨by assumption, rfl⟩
  · rintro ⟨htext, rfl⟩
    exact .many offset after htext

theorem matches_seq_iff :
    (seq first second).Matches offset text found after ↔
      ∃ left right between, text = left ++ right ∧ first.Matches offset left found between ∧
        second.Matches (offset + left.length) right between after := by
  constructor
  · rintro ⟨⟩
    exact ⟨_, _, _, rfl, by assumption, by assumption⟩
  · rintro ⟨left, right, between, rfl, hfirst, hsecond⟩
    exact .seq hfirst hsecond

theorem matches_either_iff :
    (either first second).Matches offset text found after ↔
      first.Matches offset text found after ∨ second.Matches offset text found after := by
  constructor
  · intro hmatches
    cases hmatches with
    | left _ hfirst => exact .inl hfirst
    | right _ hsecond => exact .inr hsecond
  · rintro (hfirst | hsecond)
    · exact .left second hfirst
    · exact .right first hsecond

theorem matches_group_iff :
    (group number inner).Matches offset text found after ↔
      ∃ within, inner.Matches offset text found within ∧
        after = (number, ⟨offset, text⟩) :: within := by
  constructor
  · rintro ⟨⟩
    exact ⟨_, by assumption, rfl⟩
  · rintro ⟨within, hinner, rfl⟩
    exact .group number hinner

theorem matches_oneOrMore_iff :
    (oneOrMore cls).Matches offset text found after ↔
      (text ≠ [] ∧ ∀ c ∈ text, cls.holds c = true) ∧ after = found := by
  simp only [oneOrMore, matches_seq_iff, matches_one_iff, matches_many_iff]
  constructor
  · rintro ⟨left, right, between, rfl, ⟨⟨c, rfl, hc⟩, rfl⟩, hright, rfl⟩
    exact ⟨⟨List.cons_ne_nil c right, List.forall_mem_cons.mpr ⟨hc, hright⟩⟩, rfl⟩
  · rintro ⟨⟨hnonempty, htext⟩, rfl⟩
    obtain ⟨c, rest, rfl⟩ := List.exists_cons_of_ne_nil hnonempty
    obtain ⟨hc, hrest⟩ := List.forall_mem_cons.mp htext
    exact ⟨[c], rest, after, rfl, ⟨⟨c, rfl, hc⟩, rfl⟩, hrest, rfl⟩

theorem matches_only_iff {c : Char} :
    (one (.only c)).Matches offset text found after ↔ text = [c] ∧ after = found := by
  rw [matches_one_iff]
  constructor
  · rintro ⟨⟨d, rfl, hd⟩, rfl⟩
    rw [eq_of_beq hd]
    exact ⟨rfl, rfl⟩
  · rintro ⟨rfl, rfl⟩
    exact ⟨⟨c, rfl, beq_self_eq_true c⟩, rfl⟩

theorem matches_chars_iff {cs : List Char} :
    (chars cs).Matches offset text found after ↔ text = cs ∧ after = found := by
  induction cs generalizing offset text found with
  | nil => exact matches_empty_iff
  | cons c cs ih =>
      simp only [chars, matches_seq_iff, matches_only_iff, ih]
      constructor
      · rintro ⟨left, right, between, rfl, ⟨rfl, rfl⟩, rfl, rfl⟩
        exact ⟨rfl, rfl⟩
      · rintro ⟨rfl, rfl⟩
        exact ⟨[c], cs, after, rfl, ⟨rfl, rfl⟩, rfl, rfl⟩

end Inversion

section Search

variable {α : Type} {result : α}

theorem exists_of_runMany {cls : CharClass} {next : Cursor → Option α} {offset : Nat}
    {text : List Char} (hrun : runMany cls next offset text = some result) :
    ∃ taken rest, text = taken ++ rest ∧ (∀ c ∈ taken, cls.holds c = true) ∧
      next ⟨offset + taken.length, rest⟩ = some result := by
  induction text generalizing offset with
  | nil => exact ⟨[], [], rfl, List.forall_mem_nil _, hrun⟩
  | cons c text ih =>
      rw [runMany] at hrun
      split_ifs at hrun with hc
      · cases hlonger : runMany cls next (offset + 1) text with
        | none =>
            rw [hlonger] at hrun
            exact ⟨[], c :: text, rfl, List.forall_mem_nil _, hrun⟩
        | some longer =>
            rw [hlonger] at hrun
            obtain ⟨taken, rest, rfl, htaken, hnext⟩ := ih (hlonger.trans hrun)
            rw [Nat.add_right_comm, Nat.add_assoc] at hnext
            exact ⟨c :: taken, rest, rfl, List.forall_mem_cons.mpr ⟨hc, htaken⟩, hnext⟩
      · exact ⟨[], c :: text, rfl, List.forall_mem_nil _, hrun⟩

theorem isSome_runMany {cls : CharClass} {next : Cursor → Option α} {offset : Nat}
    {taken rest : List Char} (htaken : ∀ c ∈ taken, cls.holds c = true)
    (hnext : (next ⟨offset + taken.length, rest⟩).isSome = true) :
    (runMany cls next offset (taken ++ rest)).isSome = true := by
  induction taken generalizing offset with
  | nil =>
      cases rest with
      | nil => exact hnext
      | cons c rest =>
          rw [List.nil_append, runMany]
          split_ifs
          · cases runMany cls next (offset + 1) rest with
            | none => exact hnext
            | some longer => rfl
          · exact hnext
  | cons c taken ih =>
      obtain ⟨hc, hothers⟩ := List.forall_mem_cons.mp htaken
      rw [List.length_cons, Nat.add_comm taken.length, ← Nat.add_assoc] at hnext
      obtain ⟨longer, hlonger⟩ := Option.isSome_iff_exists.mp (ih hothers hnext)
      rw [List.cons_append, runMany, if_pos hc, hlonger]
      rfl

/-- A search finds no more than matches. -/
theorem exists_matches_of_run {pattern : Pattern} {offset : Nat} {text : List Char}
    {found : Captures} {next : Cursor → Captures → Option α}
    (hrun : pattern.run ⟨offset, text⟩ found next = some result) :
    ∃ taken rest after, text = taken ++ rest ∧ pattern.Matches offset taken found after ∧
      next ⟨offset + taken.length, rest⟩ after = some result := by
  induction pattern generalizing offset text found next with
  | empty => exact ⟨[], text, found, rfl, .empty offset found, hrun⟩
  | one cls =>
      cases text with
      | nil => cases hrun
      | cons c rest =>
          simp only [run] at hrun
          split_ifs at hrun with hc
          exact ⟨[c], rest, found, rfl, .one offset found hc, hrun⟩
  | many cls =>
      obtain ⟨taken, rest, rfl, htaken, hnext⟩ := exists_of_runMany hrun
      exact ⟨taken, rest, found, rfl, .many offset found htaken, hnext⟩
  | seq first second ihfirst ihsecond =>
      obtain ⟨left, behind, between, rfl, hfirst, hbehind⟩ := ihfirst hrun
      obtain ⟨right, rest, after, rfl, hsecond, hnext⟩ := ihsecond hbehind
      rw [Nat.add_assoc, ← List.length_append] at hnext
      exact ⟨left ++ right, rest, after, (List.append_assoc left right rest).symm,
        .seq hfirst hsecond, hnext⟩
  | either first second ihfirst ihsecond =>
      rw [run] at hrun
      cases hpreferred : first.run ⟨offset, text⟩ found next with
      | some preferred =>
          rw [hpreferred] at hrun
          obtain ⟨taken, rest, after, htext, hfirst, hnext⟩ := ihfirst (hpreferred.trans hrun)
          exact ⟨taken, rest, after, htext, .left second hfirst, hnext⟩
      | none =>
          rw [hpreferred] at hrun
          obtain ⟨taken, rest, after, htext, hsecond, hnext⟩ := ihsecond hrun
          exact ⟨taken, rest, after, htext, .right first hsecond, hnext⟩
  | group number inner ih =>
      obtain ⟨taken, rest, after, rfl, hinner, hnext⟩ := ih hrun
      simp only [Nat.add_sub_cancel_left, List.take_left] at hnext
      exact ⟨taken, rest, _, rfl, .group number hinner, hnext⟩

/-- A search finds something wherever there is a match. -/
theorem Matches.isSome_run {pattern : Pattern} {offset : Nat} {taken : List Char}
    {found after : Captures} (hmatches : pattern.Matches offset taken found after)
    {rest : List Char} {next : Cursor → Captures → Option α}
    (hnext : (next ⟨offset + taken.length, rest⟩ after).isSome = true) :
    (pattern.run ⟨offset, taken ++ rest⟩ found next).isSome = true := by
  induction hmatches generalizing rest next with
  | empty offset found => exact hnext
  | one offset found hc =>
      simp only [List.cons_append, run, if_pos hc]
      exact hnext
  | many offset found htext => exact isSome_runMany htext hnext
  | @seq first second offset left right found between after hfirst hsecond ihfirst ihsecond =>
      rw [List.append_assoc]
      apply ihfirst
      apply ihsecond
      rwa [Nat.add_assoc, ← List.length_append]
  | @left first second offset text found after hfirst ih =>
      obtain ⟨preferred, hpreferred⟩ := Option.isSome_iff_exists.mp (ih hnext)
      rw [run, hpreferred]
      rfl
  | @right first second offset text found after hsecond ih =>
      rw [run]
      cases first.run ⟨offset, text ++ rest⟩ found next with
      | some preferred => rfl
      | none => exact ih hnext
  | group number hinner ih =>
      apply ih
      simpa only [Nat.add_sub_cancel_left, List.take_left] using hnext

theorem run_eq_none {pattern : Pattern} {offset : Nat} {text : List Char} {found : Captures}
    (hnone : ∀ taken rest after, text = taken ++ rest →
      ¬ pattern.Matches offset taken found after) (next : Cursor → Captures → Option α) :
    pattern.run ⟨offset, text⟩ found next = none := by
  cases hrun : pattern.run ⟨offset, text⟩ found next with
  | none => rfl
  | some result =>
      obtain ⟨taken, rest, after, htext, hmatches, -⟩ := exists_matches_of_run hrun
      exact absurd hmatches (hnone taken rest after htext)

end Search

/-- Of the matches at an offset the given one is tried first, or all that are tried before
come to the same. -/
def Prefers (pattern : Pattern) (offset : Nat) (taken rest : List Char)
    (found after : Captures) : Prop :=
  ∀ (α : Type) (next : Cursor → Captures → Option α) (result : α),
    next ⟨offset + taken.length, rest⟩ after = some result →
      pattern.run ⟨offset, taken ++ rest⟩ found next = some result

section Preference

variable {first second inner : Pattern} {cls : CharClass} {offset : Nat}
  {taken left right rest : List Char} {found between after : Captures}

theorem prefers_empty (offset : Nat) (rest : List Char) (found : Captures) :
    empty.Prefers offset [] rest found found :=
  fun _ _ _ hnext => hnext

theorem prefers_one {c : Char} (offset : Nat) (rest : List Char) (found : Captures)
    (hc : cls.holds c = true) : (one cls).Prefers offset [c] rest found found := by
  intro α next result hnext
  simp only [List.cons_append, run, if_pos hc]
  exact hnext

theorem prefers_seq (hfirst : first.Prefers offset left (right ++ rest) found between)
    (hsecond : second.Prefers (offset + left.length) right rest between after) :
    (seq first second).Prefers offset (left ++ right) rest found after := by
  intro α next result hnext
  rw [List.append_assoc]
  apply hfirst
  apply hsecond
  rwa [Nat.add_assoc, ← List.length_append]

/-- A run that cannot go on. -/
theorem prefers_many (offset : Nat) (found : Captures) (htaken : ∀ c ∈ taken, cls.holds c = true)
    (hrest : ∀ c ∈ rest.head?, cls.holds c = false) :
    (many cls).Prefers offset taken rest found found := by
  intro α next result hnext
  rw [run]
  induction taken generalizing offset with
  | nil =>
      cases rest with
      | nil => exact hnext
      | cons c rest =>
          rw [List.nil_append, runMany, if_neg (Bool.eq_false_iff.mp (hrest c rfl))]
          exact hnext
  | cons c taken ih =>
      obtain ⟨hc, hothers⟩ := List.forall_mem_cons.mp htaken
      rw [List.length_cons, Nat.add_comm taken.length, ← Nat.add_assoc] at hnext
      rw [List.cons_append, runMany, if_pos hc, ih (offset + 1) hothers hnext]

theorem prefers_oneOrMore (offset : Nat) (found : Captures) (hnonempty : taken ≠ [])
    (htaken : ∀ c ∈ taken, cls.holds c = true) (hrest : ∀ c ∈ rest.head?, cls.holds c = false) :
    (oneOrMore cls).Prefers offset taken rest found found := by
  obtain ⟨c, others, rfl⟩ := List.exists_cons_of_ne_nil hnonempty
  obtain ⟨hc, hothers⟩ := List.forall_mem_cons.mp htaken
  exact prefers_seq (prefers_one offset (others ++ rest) found hc)
    (prefers_many (offset + 1) found hothers hrest)

theorem prefers_chars (offset : Nat) (cs rest : List Char) (found : Captures) :
    (chars cs).Prefers offset cs rest found found := by
  induction cs generalizing offset with
  | nil => exact prefers_empty offset rest found
  | cons c cs ih =>
      have hc : (CharClass.only c).holds c = true := beq_self_eq_true c
      exact prefers_seq (prefers_one offset (cs ++ rest) found hc) (ih (offset + 1))

theorem prefers_left (hfirst : first.Prefers offset taken rest found after) :
    (either first second).Prefers offset taken rest found after := by
  intro α next result hnext
  rw [run, hfirst α next result hnext]

/-- The second alternative counts where the first has no match. -/
theorem prefers_right
    (hfirst : ∀ start behind within, taken ++ rest = start ++ behind →
      ¬ first.Matches offset start found within)
    (hsecond : second.Prefers offset taken rest found after) :
    (either first second).Prefers offset taken rest found after := by
  intro α next result hnext
  rw [run, run_eq_none hfirst, hsecond α next result hnext]

theorem prefers_group (number : Nat) (hinner : inner.Prefers offset taken rest found after) :
    (group number inner).Prefers offset taken rest found
      ((number, ⟨offset, taken⟩) :: after) := by
  intro α next result hnext
  apply hinner
  simpa only [Nat.add_sub_cancel_left, List.take_left] using hnext

/-- Where there is one match only it is the one that is found, however long the search. -/
theorem Matches.prefers (hmatches : inner.Matches offset taken found after)
    (hunique : ∀ start behind within, taken ++ rest = start ++ behind →
      inner.Matches offset start found within → start = taken ∧ within = after) :
    inner.Prefers offset taken rest found after := by
  intro α next result hnext
  have hsome : (inner.run ⟨offset, taken ++ rest⟩ found next).isSome = true := by
    apply hmatches.isSome_run
    rw [hnext, Option.isSome_some]
  obtain ⟨other, hother⟩ := Option.isSome_iff_exists.mp hsome
  obtain ⟨start, behind, within, htext, hstart, hbehind⟩ := exists_matches_of_run hother
  obtain ⟨rfl, rfl⟩ := hunique start behind within htext hstart
  rw [← List.append_cancel_left htext, hnext] at hbehind
  rw [hother, hbehind]

theorem Prefers.match?_eq (hpattern : first.Prefers 0 taken rest [] after) :
    first.match? (taken ++ rest) = some after :=
  hpattern Captures _ after rfl

end Preference

theorem exists_matches_of_matchAt? {pattern : Pattern} {offset : Nat} {text : List Char}
    {found : Captures} (hfound : pattern.matchAt? ⟨offset, text⟩ = some found) :
    ∃ taken rest, text = taken ++ rest ∧ pattern.Matches offset taken [] found := by
  obtain ⟨taken, rest, after, htext, hmatches, hafter⟩ := exists_matches_of_run hfound
  cases hafter
  exact ⟨taken, rest, htext, hmatches⟩

theorem isSome_matchAt?_iff {pattern : Pattern} {offset : Nat} {text : List Char} :
    (pattern.matchAt? ⟨offset, text⟩).isSome = true ↔
      ∃ taken rest found, text = taken ++ rest ∧ pattern.Matches offset taken [] found := by
  constructor
  · intro hsome
    obtain ⟨found, hfound⟩ := Option.isSome_iff_exists.mp hsome
    obtain ⟨taken, rest, htext, hmatches⟩ := exists_matches_of_matchAt? hfound
    exact ⟨taken, rest, found, htext, hmatches⟩
  · rintro ⟨taken, rest, found, rfl, hmatches⟩
    exact hmatches.isSome_run rfl

/-- A search finds nothing just if the pattern matches nowhere. -/
theorem search?_eq_none_iff {pattern : Pattern} {offset : Nat} {text : List Char} :
    pattern.search? offset text = none ↔
      ∀ before rest, text = before ++ rest →
        pattern.matchAt? ⟨offset + before.length, rest⟩ = none := by
  induction text generalizing offset with
  | nil =>
      constructor
      · intro hnone before rest htext
        obtain ⟨rfl, rfl⟩ := List.append_eq_nil_iff.mp htext.symm
        exact hnone
      · intro hnowhere
        exact hnowhere [] [] rfl
  | cons c text ih =>
      rw [search?]
      cases hfirst : pattern.matchAt? ⟨offset, c :: text⟩ with
      | some found =>
          refine iff_of_false (Option.some_ne_none found) ?_
          intro hnowhere
          have hnone := hnowhere [] (c :: text) rfl
          rw [List.length_nil, Nat.add_zero, hfirst] at hnone
          cases hnone
      | none =>
          refine ih.trans ⟨?_, ?_⟩
          · intro hlater before rest htext
            cases before with
            | nil =>
                rw [List.nil_append] at htext
                rw [← htext]
                exact hfirst
            | cons d before =>
                obtain ⟨-, htext⟩ := List.cons.inj htext
                have hnone := hlater before rest htext
                rwa [Nat.add_right_comm] at hnone
          · intro hnowhere before rest htext
            have hnone := hnowhere (c :: before) rest (by rw [htext, List.cons_append])
            rwa [List.length_cons, ← Nat.add_assoc, Nat.add_right_comm] at hnone

/-- What a search finds is the match that starts first. -/
theorem exists_of_search? {pattern : Pattern} {offset : Nat} {text : List Char}
    {found : Captures} (hfound : pattern.search? offset text = some found) :
    ∃ before rest, text = before ++ rest ∧
      pattern.matchAt? ⟨offset + before.length, rest⟩ = some found ∧
      ∀ earlier later, text = earlier ++ later → earlier.length < before.length →
        pattern.matchAt? ⟨offset + earlier.length, later⟩ = none := by
  induction text generalizing offset with
  | nil => exact ⟨[], [], rfl, hfound, fun _ _ _ hlt => absurd hlt (Nat.not_lt_zero _)⟩
  | cons c text ih =>
      rw [search?] at hfound
      cases hfirst : pattern.matchAt? ⟨offset, c :: text⟩ with
      | some first =>
          rw [hfirst] at hfound
          exact ⟨[], c :: text, rfl, hfirst.trans hfound,
            fun _ _ _ hlt => absurd hlt (Nat.not_lt_zero _)⟩
      | none =>
          rw [hfirst] at hfound
          obtain ⟨before, rest, rfl, hmatch, hnone⟩ := ih hfound
          refine ⟨c :: before, rest, rfl, ?_, ?_⟩
          · rwa [Nat.add_right_comm] at hmatch
          · intro earlier later htext hlt
            cases earlier with
            | nil =>
                rw [List.nil_append] at htext
                rw [← htext]
                exact hfirst
            | cons d earlier =>
                obtain ⟨-, htext⟩ := List.cons.inj htext
                have hlater := hnone earlier later htext (Nat.lt_of_succ_lt_succ hlt)
                rwa [Nat.add_right_comm] at hlater

end KontaktScript.Text.Pattern
