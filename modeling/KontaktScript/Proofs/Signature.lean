import KontaktScript.Builtin.Signature
import KontaktScript.Proofs.Grammar
import KontaktScript.Proofs.Pattern

/-!
# The name in a signature

A signature shows how a builtin is used, with its name in braces.  Texts in braces that
are no names, braces that are not closed and braces in braces may come before it, and
further names in braces behind it.  The name is the one in the first braces that hold
one, and but for these two braces the signature is shown as it is.
-/

namespace KontaktScript

open Text

/-- What braces must hold to be found: a name, behind a sigil or without one. -/
inductive IsBraced : List Char → Prop where
  | bare {name : List Char} (hname : IsName name) : IsBraced name
  | sigiled (type : VarType) {name : List Char} (hname : IsName name) :
      IsBraced (type.sigil :: name)

/-- A cut of a text around a name in braces. -/
structure BracedCut (text before name behind : List Char) : Prop where
  text_eq : text = before ++ '\x7b' :: (name ++ '\x7d' :: behind)
  isBraced : IsBraced name

theorem IsBraced.not_mem {name : List Char} (hbraced : IsBraced name) : '\x7d' ∉ name := by
  have hbrace : ∀ {name : List Char}, IsName name → '\x7d' ∉ name := by
    intro name hname hmem
    exact absurd (hname.isNameChar _ hmem) (by decide)
  cases hbraced with
  | bare hname => exact hbrace hname
  | sigiled type hname =>
      rw [List.mem_cons, not_or]
      exact ⟨by cases type <;> decide, hbrace hname⟩

/-- What stands before the braces determines the rest of a cut. -/
theorem BracedCut.unique {text before name behind other rest : List Char}
    (hcut : BracedCut text before name behind) (hother : BracedCut text before other rest) :
    name = other ∧ behind = rest := by
  have hsame := List.append_cancel_left (hcut.text_eq.symm.trans hother.text_eq)
  have hrun : ∀ {name : List Char}, IsBraced name → ∀ c ∈ name, (c != '\x7d') = true := by
    intro name hbraced c hc
    rw [bne_iff_ne]
    rintro rfl
    exact hbraced.not_mem hc
  have hend : ∀ rest : List Char, ∀ c ∈ ('\x7d' :: rest).head?, (c != '\x7d') = false := by
    rintro rest c ⟨⟩
    rfl
  have hparts := takeWhile_append_run (hrun hcut.isBraced) (hend behind)
  have hparts' := takeWhile_append_run (hrun hother.isBraced) (hend rest)
  rw [(List.cons.inj hsame).2] at hparts
  exact ⟨hparts.1.symm.trans hparts'.1,
    (List.cons.inj (hparts.2.symm.trans hparts'.2)).2⟩

/-- A name with the braces around it. -/
def braced (name : List Char) : List Char :=
  '\x7b' :: (name ++ ['\x7d'])

theorem braced_append (name behind : List Char) :
    braced name ++ behind = '\x7b' :: (name ++ '\x7d' :: behind) := by
  simp only [braced, List.cons_append, List.append_assoc, List.nil_append]

namespace Placeholder

/-- What is captured of a name in braces: the whole and the name. -/
def captures (offset : Nat) (name : List Char) : Captures :=
  [(0, ⟨offset, braced name⟩), (1, ⟨offset + 1, name⟩)]

theorem matches_namePattern_iff {offset : Nat} {text : List Char} {found after : Captures} :
    namePattern.Matches offset text found after ↔ IsBraced text ∧ after = found := by
  simp only [namePattern, Pattern.optional, Pattern.matches_seq_iff, Pattern.matches_either_iff,
    Pattern.matches_one_iff, Pattern.matches_empty_iff, Pattern.matches_oneOrMore_iff]
  constructor
  · rintro ⟨_, name, _, rfl, ⟨⟨c, rfl, hc⟩, rfl⟩ | ⟨rfl, rfl⟩, ⟨hnonempty, hname⟩, rfl⟩
    · obtain ⟨type, htype⟩ := Option.isSome_iff_exists.mp hc
      rw [← VarType.ofSigil?_eq_some_iff.mp htype]
      exact ⟨.sigiled type ⟨hnonempty, hname⟩, rfl⟩
    · exact ⟨.bare ⟨hnonempty, hname⟩, rfl⟩
  · rintro ⟨hbraced, rfl⟩
    cases hbraced with
    | bare hname =>
        exact ⟨[], text, after, rfl, .inr ⟨rfl, rfl⟩, ⟨hname.nonempty, hname.isNameChar⟩, rfl⟩
    | @sigiled type name hname =>
        have hsigil : CharClass.sigil.holds type.sigil = true := by
          rw [CharClass.holds, VarType.ofSigil?_sigil, Option.isSome_some]
        exact ⟨[type.sigil], name, after, rfl, .inl ⟨⟨type.sigil, rfl, hsigil⟩, rfl⟩,
          ⟨hname.nonempty, hname.isNameChar⟩, rfl⟩

theorem matches_pattern_iff {offset : Nat} {text : List Char} {after : Captures} :
    pattern.Matches offset text [] after ↔
      ∃ name, text = braced name ∧ IsBraced name ∧ after = captures offset name := by
  simp only [pattern, Pattern.matches_group_iff, Pattern.matches_seq_iff,
    Pattern.matches_only_iff, matches_namePattern_iff]
  constructor
  · rintro ⟨_, ⟨_, _, _, rfl, ⟨rfl, rfl⟩, name, _, _, rfl, ⟨_, ⟨hbraced, rfl⟩, rfl⟩, rfl, rfl⟩,
      rfl⟩
    exact ⟨name, rfl, hbraced, rfl⟩
  · rintro ⟨name, rfl, hbraced, rfl⟩
    exact ⟨_, ⟨['\x7b'], name ++ ['\x7d'], [], rfl, ⟨rfl, rfl⟩, name, ['\x7d'], _, rfl,
      ⟨[], ⟨hbraced, rfl⟩, rfl⟩, rfl, rfl⟩, rfl⟩

end Placeholder

/-- A cut before which the text has no other. -/
structure FirstBracedCut (text before name behind : List Char) : Prop
    extends BracedCut text before name behind where
  shortest : ∀ earlier other rest, BracedCut text earlier other rest →
    before.length ≤ earlier.length

namespace Placeholder

variable {text before name behind : List Char}

theorem isSome_matchAt?_of_bracedCut (hcut : BracedCut text before name behind) :
    ∃ rest, text = before ++ rest ∧
      (pattern.matchAt? ⟨0 + before.length, rest⟩).isSome = true := by
  refine ⟨braced name ++ behind, ?_, ?_⟩
  · rw [braced_append]
    exact hcut.text_eq
  · rw [Pattern.isSome_matchAt?_iff]
    exact ⟨braced name, behind, _, rfl, matches_pattern_iff.mpr ⟨name, rfl, hcut.isBraced, rfl⟩⟩

/-- What is found is the first name in braces. -/
theorem exists_of_search? {found : Captures} (hfound : pattern.search? 0 text = some found) :
    ∃ before name behind, find? text = some ⟨before, name, behind⟩ ∧
      FirstBracedCut text before name behind := by
  obtain ⟨before, rest, rfl, hmatch, hnone⟩ := Pattern.exists_of_search? hfound
  obtain ⟨taken, behind, rfl, hmatches⟩ := Pattern.exists_matches_of_matchAt? hmatch
  obtain ⟨name, rfl, hbraced, rfl⟩ := matches_pattern_iff.mp hmatches
  refine ⟨before, name, behind, ?_, ⟨?_, hbraced⟩, ?_⟩
  · have hwhole : (captures (0 + before.length) name).lookup 0 =
        some ⟨0 + before.length, braced name⟩ := rfl
    have hname : (captures (0 + before.length) name).text? 1 = some name := rfl
    have htake : (before ++ (braced name ++ behind)).take (0 + before.length) = before := by
      rw [Nat.zero_add, List.take_left]
    have hdrop : (before ++ (braced name ++ behind)).drop
        (0 + before.length + (braced name).length) = behind := by
      rw [Nat.zero_add, ← List.append_assoc, ← List.length_append, List.drop_left]
    rw [find?, hfound]
    simp only [Option.bind_eq_bind, Option.bind_some, hwhole, hname, htake, hdrop]
  · rw [braced_append]
  · intro earlier other rest hcut
    obtain ⟨later, hlater, hother⟩ := isSome_matchAt?_of_bracedCut hcut
    apply Nat.le_of_not_lt
    intro hlt
    rw [hnone earlier later hlater hlt] at hother
    cases hother

theorem isSome_search? (hcut : BracedCut text before name behind) :
    (pattern.search? 0 text).isSome = true := by
  cases hsearch : pattern.search? 0 text with
  | some found => rfl
  | none =>
      obtain ⟨rest, hrest, hmatch⟩ := isSome_matchAt?_of_bracedCut hcut
      rw [Pattern.search?_eq_none_iff.mp hsearch before rest hrest] at hmatch
      cases hmatch

theorem firstBracedCut_of_find? {found : Placeholder} (hfound : find? text = some found) :
    FirstBracedCut text found.before found.name found.behind := by
  obtain ⟨captured, hsearch, -⟩ := Option.bind_eq_some_iff.mp hfound
  obtain ⟨before, name, behind, hother, hfirst⟩ := exists_of_search? hsearch
  cases hfound.symm.trans hother
  exact hfirst

theorem isSome_find? (hcut : BracedCut text before name behind) :
    (find? text).isSome = true := by
  obtain ⟨captured, hsearch⟩ := Option.isSome_iff_exists.mp (isSome_search? hcut)
  obtain ⟨_, _, _, hfound, -⟩ := exists_of_search? hsearch
  rw [hfound, Option.isSome_some]

theorem find?_eq_none_iff :
    find? text = none ↔ ∀ before name behind, ¬ BracedCut text before name behind := by
  constructor
  · intro hnone before name behind hcut
    have hsome := isSome_find? hcut
    rw [hnone] at hsome
    cases hsome
  · intro hcuts
    cases hfound : find? text with
    | none => rfl
    | some found => exact absurd (firstBracedCut_of_find? hfound).toBracedCut (hcuts _ _ _)

theorem find?_eq_some_iff :
    find? text = some ⟨before, name, behind⟩ ↔ FirstBracedCut text before name behind := by
  constructor
  · exact firstBracedCut_of_find?
  · intro hfirst
    obtain ⟨found, hfound⟩ := Option.isSome_iff_exists.mp (isSome_find? hfirst.toBracedCut)
    have hcut := firstBracedCut_of_find? hfound
    have hlength : found.before.length = before.length :=
      Nat.le_antisymm (hcut.shortest _ _ _ hfirst.toBracedCut)
        (hfirst.shortest _ _ _ hcut.toBracedCut)
    obtain ⟨hbefore, -⟩ := List.append_inj (hcut.text_eq.symm.trans hfirst.text_eq) hlength
    obtain ⟨hname, hbehind⟩ := hfirst.toBracedCut.unique (hbefore ▸ hcut.toBracedCut)
    rw [hfound, hname, hbehind, ← hbefore]

end Placeholder

theorem Signature.read?_eq_none_iff {description : String} :
    Signature.read? description = none ↔
      ∀ before name behind, ¬ BracedCut description.toList before name behind := by
  rw [Signature.read?, Option.map_eq_none_iff]
  exact Placeholder.find?_eq_none_iff

theorem Signature.read?_eq_some_iff {description : String} {signature : Signature} :
    Signature.read? description = some signature ↔
      ∃ before name behind, FirstBracedCut description.toList before name behind ∧
        signature.shown.toList = before ++ name ++ behind ∧ signature.name.toList = name := by
  rw [Signature.read?, Option.map_eq_some_iff]
  constructor
  · rintro ⟨found, hfound, rfl⟩
    refine ⟨found.before, found.name, found.behind, Placeholder.find?_eq_some_iff.mp hfound, ?_⟩
    exact ⟨String.toList_ofList, String.toList_ofList⟩
  · rintro ⟨before, name, behind, hfirst, hshown, hname⟩
    refine ⟨⟨before, name, behind⟩, Placeholder.find?_eq_some_iff.mpr hfirst, ?_⟩
    rw [← hshown, ← hname, String.ofList_toList, String.ofList_toList]

/-- Taking the braces around a part out of a text and putting them back. -/
theorem take_append_braces_drop (before name behind : List Char) :
    let shown := before ++ name ++ behind
    shown.take before.length ++
        '\x7b' :: (name ++ '\x7d' :: shown.drop (before.length + name.length)) =
      before ++ '\x7b' :: (name ++ '\x7d' :: behind) := by
  intro shown
  have htake : shown.take before.length = before := by
    simp only [shown, List.append_assoc, List.take_left]
  have hdrop : shown.drop (before.length + name.length) = behind := by
    rw [← List.length_append]
    exact List.drop_left
  rw [htake, hdrop]

/-- A description is read just if it has a name in braces somewhere.  Of several the name
is the first, and the description is shown without the two braces around it: the name
stands where they did, all else is as it was, and putting them back restores the
description. -/
theorem signature_reads_first_braced_name (description : String) :
    let text := description.toList
    (Signature.read? description = none ↔
        ∀ before name behind, ¬ BracedCut text before name behind) ∧
      (∀ signature, Signature.read? description = some signature ↔
        ∃ before name behind, FirstBracedCut text before name behind ∧
          signature.shown.toList = before ++ name ++ behind ∧ signature.name.toList = name) ∧
      ∀ signature before name behind, Signature.read? description = some signature →
        FirstBracedCut text before name behind →
        let shown := signature.shown.toList
        shown.length + 2 = text.length ∧
          signature.name.toList <+: shown.drop before.length ∧
          shown.take before.length ++
              '\x7b' :: (name ++ '\x7d' :: shown.drop (before.length + name.length)) = text := by
  intro text
  refine ⟨Signature.read?_eq_none_iff, fun signature => Signature.read?_eq_some_iff, ?_⟩
  intro signature before name behind hread hfirst
  have hfound := Placeholder.find?_eq_some_iff.mpr hfirst
  rw [Signature.read?, hfound] at hread
  cases hread
  simp only [String.toList_ofList]
  refine ⟨?_, ?_, ?_⟩
  · rw [hfirst.text_eq]
    simp only [List.length_append, List.length_cons]
    omega
  · rw [List.append_assoc, List.drop_left]
    exact List.prefix_append name behind
  · rw [take_append_braces_drop]
    exact hfirst.text_eq.symm

/-- Braces that are not closed, hold two sigils or hold nothing come before the name, and
another name in braces behind it.  The last text has no name in braces at all. -/
theorem signature_reads_first_braced_name_past_others :
    let description := "é\x7ba\x7b$$b\x7d\x7b\x7d\x7b$x_1\x7d(\x7bz\x7d)"
    let shown := "é\x7ba\x7b$$b\x7d\x7b\x7d$x_1(\x7bz\x7d)"
    (∃ before behind, FirstBracedCut description.toList before "$x_1".toList behind ∧
      shown.toList = before ++ "$x_1".toList ++ behind) ∧
      ∀ before name behind, ¬ BracedCut "\x7ba\x7b$\x7d é\x7d".toList before name behind := by
  intro description shown
  have hread : Signature.read? description = some ⟨shown, "$x_1"⟩ := by decide +kernel
  constructor
  · obtain ⟨before, name, behind, hfirst, hshown, rfl⟩ :=
      ((signature_reads_first_braced_name description).2.1 _).mp hread
    exact ⟨before, behind, hfirst, hshown⟩
  · apply (signature_reads_first_braced_name _).1.mp
    decide +kernel

end KontaktScript
