import KontaktScript.Text.Occurrence
import Mathlib.Data.List.Basic
import Mathlib.Order.Bounds.Basic

/-!
# First occurrences

The search for a text in a text finds the least offset at which the one goes on
with the other.  What lies behind an occurrence does not matter to it, and a part
in which no occurrence starts is skipped.
-/

namespace KontaktScript.Text

theorem isSome_after?_iff {lead text : List Char} :
    (after? lead text).isSome = true ↔ lead <+: text := by
  rw [Option.isSome_iff_exists]
  constructor
  · rintro ⟨rest, hrest⟩
    exact ⟨rest, (after?_eq_some_iff.mp hrest).symm⟩
  · rintro ⟨rest, hrest⟩
    exact ⟨rest, after?_eq_some_iff.mpr hrest.symm⟩

variable {needle text : List Char}

theorem firstOccurrence?_self_append (needle rest : List Char) :
    firstOccurrence? needle (needle ++ rest) = some 0 := by
  cases htext : needle ++ rest with
  | nil =>
      rw [firstOccurrence?, if_pos (List.append_eq_nil_iff.mp htext).1]
  | cons c text =>
      rw [firstOccurrence?, if_pos]
      rw [isSome_after?_iff, ← htext]
      exact List.prefix_append needle rest

theorem firstOccurrence?_of_isPrefix (hstarts : needle <+: text) :
    firstOccurrence? needle text = some 0 := by
  obtain ⟨rest, rfl⟩ := hstarts
  exact firstOccurrence?_self_append needle rest

theorem firstOccurrence?_cons_of_not_isPrefix {c : Char} (hskip : ¬ needle <+: c :: text) :
    firstOccurrence? needle (c :: text) = (firstOccurrence? needle text).map (· + 1) := by
  rw [firstOccurrence?, if_neg]
  rwa [isSome_after?_iff]

theorem isSome_firstOccurrence?_of_isInfix (hoccurs : needle <:+: text) :
    (firstOccurrence? needle text).isSome = true := by
  induction text with
  | nil => rw [firstOccurrence?, if_pos (List.infix_nil.mp hoccurs), Option.isSome_some]
  | cons c text ih =>
      by_cases hstarts : needle <+: c :: text
      · rw [firstOccurrence?_of_isPrefix hstarts, Option.isSome_some]
      · rw [firstOccurrence?_cons_of_not_isPrefix hstarts, Option.isSome_map]
        exact ih ((List.infix_cons_iff.mp hoccurs).resolve_left hstarts)

/-- The search finds the least offset at which the text goes on with what is looked
for. -/
theorem isLeast_of_firstOccurrence? {offset : Nat}
    (hoffset : firstOccurrence? needle text = some offset) :
    IsLeast {place | needle <+: text.drop place} offset := by
  induction text generalizing offset with
  | nil =>
      rw [firstOccurrence?] at hoffset
      split_ifs at hoffset with hnil
      cases hoffset
      exact ⟨⟨[], by simp [hnil]⟩, fun place _ => Nat.zero_le place⟩
  | cons c text ih =>
      by_cases hstarts : needle <+: c :: text
      · rw [firstOccurrence?_of_isPrefix hstarts] at hoffset
        cases hoffset
        exact ⟨hstarts, fun place _ => Nat.zero_le place⟩
      · rw [firstOccurrence?_cons_of_not_isPrefix hstarts] at hoffset
        obtain ⟨later, hlater, rfl⟩ := Option.map_eq_some_iff.mp hoffset
        obtain ⟨hthere, hleast⟩ := ih hlater
        refine ⟨hthere, ?_⟩
        intro place hplace
        cases place with
        | zero => exact absurd hplace hstarts
        | succ place => exact Nat.succ_le_succ (hleast hplace)

theorem firstOccurrence?_eq_some_iff {offset : Nat} :
    firstOccurrence? needle text = some offset ↔
      IsLeast {place | needle <+: text.drop place} offset := by
  constructor
  · exact isLeast_of_firstOccurrence?
  · intro hleast
    have hoccurs : needle <:+: text :=
      hleast.1.isInfix.trans (List.drop_suffix offset text).isInfix
    have hsome := isSome_firstOccurrence?_of_isInfix hoccurs
    obtain ⟨found, hfound⟩ := Option.isSome_iff_exists.mp hsome
    rw [hfound, (isLeast_of_firstOccurrence? hfound).unique hleast]

theorem firstOccurrence?_le_length {offset : Nat}
    (hoffset : firstOccurrence? needle text = some offset) : offset ≤ text.length := by
  obtain ⟨hthere, hleast⟩ := isLeast_of_firstOccurrence? hoffset
  by_contra hout
  have hnil : needle = [] := by
    have hend : text.drop offset = [] := List.drop_eq_nil_of_le (Nat.le_of_not_le hout)
    exact List.prefix_nil.mp (hend ▸ hthere)
  have hzero : offset ≤ 0 := hleast (hnil ▸ List.nil_prefix)
  omega

/-- The text is cut at the occurrence. -/
theorem exists_append_of_firstOccurrence? {offset : Nat}
    (hoffset : firstOccurrence? needle text = some offset) :
    ∃ before behind, text = before ++ needle ++ behind ∧ before.length = offset := by
  obtain ⟨behind, hbehind⟩ := (isLeast_of_firstOccurrence? hoffset).1
  refine ⟨text.take offset, behind, ?_, ?_⟩
  · rw [List.append_assoc, hbehind, List.take_append_drop]
  · exact List.length_take_of_le (firstOccurrence?_le_length hoffset)

/-- The first occurrence in a text is also the first in what continues the text. -/
theorem firstOccurrence?_append_of_eq_some {offset : Nat}
    (hoffset : firstOccurrence? needle text = some offset) (rest : List Char) :
    firstOccurrence? needle (text ++ rest) = some offset := by
  obtain ⟨hthere, hleast⟩ := isLeast_of_firstOccurrence? hoffset
  have hinside : ∀ place ≤ offset, text.drop place <+: (text ++ rest).drop place := by
    intro place hle
    have hlength := Nat.le_trans hle (firstOccurrence?_le_length hoffset)
    rw [List.drop_append_of_le_length hlength]
    exact List.prefix_append _ rest
  rw [firstOccurrence?_eq_some_iff]
  constructor
  · exact hthere.trans (hinside offset (Nat.le_refl offset))
  · intro place hplace
    by_contra hbefore
    have hle : place ≤ offset := Nat.le_of_not_le hbefore
    have hfits : needle.length ≤ (text.drop place).length :=
      Nat.le_trans hthere.length_le (List.drop_sublist_drop_left text hle).length_le
    exact hbefore (hleast (List.prefix_of_prefix_length_le hplace (hinside place hle) hfits))

/-- A part of a text in which no occurrence starts is skipped. -/
theorem firstOccurrence?_append {lead rest : List Char}
    (hskip : ∀ left c right, lead = left ++ c :: right → ¬ needle <+: c :: right ++ rest) :
    firstOccurrence? needle (lead ++ rest) =
      (firstOccurrence? needle rest).map (lead.length + ·) := by
  induction lead with
  | nil => simp
  | cons c lead ih =>
      have hhead : ¬ needle <+: c :: (lead ++ rest) := hskip [] c lead rfl
      have htail : ∀ left d right, lead = left ++ d :: right → ¬ needle <+: d :: right ++ rest := by
        rintro left d right rfl
        exact hskip (c :: left) d right rfl
      rw [List.cons_append, firstOccurrence?_cons_of_not_isPrefix hhead, ih htail, Option.map_map]
      congr 1
      funext i
      rw [Function.comp_apply, List.length_cons]
      omega

/-- In particular one without the first character of what is looked for. -/
theorem firstOccurrence?_append_of_not_mem {first : Char} {lead rest : List Char}
    (hlead : first ∉ lead) :
    firstOccurrence? (first :: needle) (lead ++ rest) =
      (firstOccurrence? (first :: needle) rest).map (lead.length + ·) := by
  apply firstOccurrence?_append
  rintro left c right rfl hstarts
  have hfirst : first = c := (List.cons_prefix_cons.mp hstarts).1
  exact hlead (by simp [hfirst])

end KontaktScript.Text
