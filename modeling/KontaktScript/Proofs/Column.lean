import KontaktScript.Proofs.Document

/-!
# Columns of an editor and characters of a line

An editor's column counts UTF-16 code units.  Reading a column as a number of
characters and writing characters as a column are adjoint: a column is read as
at most `n` characters just if it lies at or before the column of `n`
characters.  All that later proofs need of the two conversions follows from
that, also for columns inside a surrogate pair or past the end of the line.
-/

namespace KontaktScript

open Text

namespace Text.Utf16

theorem one_le_units (c : Char) : 1 ≤ units c := by
  rw [units]
  split <;> omega

theorem length_le_utf16Length (cs : List Char) : cs.length ≤ length cs := by
  induction cs with
  | nil => exact Nat.le_refl 0
  | cons c cs ih =>
      have hunits := one_le_units c
      rw [List.length_cons, length_cons]
      omega

/-- A column is read as at most as many characters as stand before the column
that it is at or before, the line's end taken for columns past it. -/
theorem ofColumn_append_le_iff (left right : List Char) (column : Nat) :
    ofColumn (left ++ right) column ≤ left.length ↔
      min column (length (left ++ right)) ≤ length left := by
  induction left generalizing column with
  | nil =>
      cases right with
      | nil => simp [ofColumn]
      | cons c right =>
          have hunits := one_le_units c
          cases column with
          | zero => simp [ofColumn]
          | succ column =>
              simp only [List.nil_append, ofColumn, length_cons, length_nil, List.length_nil]
              omega
  | cons c left ih =>
      have hunits := one_le_units c
      cases column with
      | zero => simp [ofColumn]
      | succ column =>
          rw [List.cons_append, ofColumn, List.length_cons, Nat.add_le_add_iff_right, ih,
            length_cons, length_cons]
          omega

theorem ofColumn_le_length (cs : List Char) (column : Nat) : ofColumn cs column ≤ cs.length := by
  have hbound := ofColumn_append_le_iff cs [] column
  rw [List.append_nil] at hbound
  exact hbound.mpr (Nat.min_le_right _ _)

/-- A column at or behind that of some characters is read as at least as many
characters. -/
theorem length_le_ofColumn {left right : List Char} {column : Nat}
    (hcolumn : length left ≤ column) : left.length ≤ ofColumn (left ++ right) column := by
  rcases List.eq_nil_or_concat' left with rfl | ⟨left, c, rfl⟩
  · exact Nat.zero_le _
  · have hunits := one_le_units c
    have hfewer := ofColumn_append_le_iff left (c :: right) column
    rw [List.append_cons] at hfewer
    simp only [length_append, length_cons, length_nil] at hcolumn hfewer
    rw [List.length_append, List.length_singleton]
    omega

/-- The converse needs that the last of the characters takes one unit: a column
inside a surrogate pair is read as the end of the pair. -/
theorem utf16Length_le_min {left right : List Char} {column : Nat}
    (hlast : ∀ c ∈ left.getLast?, units c = 1)
    (hcolumn : left.length ≤ ofColumn (left ++ right) column) :
    length left ≤ min column (length (left ++ right)) := by
  rcases List.eq_nil_or_concat' left with rfl | ⟨left, c, rfl⟩
  · exact Nat.zero_le _
  · have hunits : units c = 1 := hlast c (by simp)
    have hfewer := ofColumn_append_le_iff left (c :: right) column
    rw [List.append_cons] at hfewer
    rw [List.length_append, List.length_singleton] at hcolumn
    simp only [length_append, length_cons, length_nil] at hfewer ⊢
    omega

/-- Of one text, parts from its start with the same number of units are
equal. -/
theorem eq_of_append_eq_append {left left' right right' : List Char}
    (hline : left ++ right = left' ++ right') (hlength : length left = length left') :
    left = left' := by
  have hnil : ∀ cs : List Char, length cs = 0 → cs = [] := by
    intro cs hcs
    apply List.length_eq_zero_iff.mp
    have hle := length_le_utf16Length cs
    omega
  rcases List.append_eq_append_iff.mp hline with ⟨more, rfl, -⟩ | ⟨more, rfl, -⟩
  · rw [length_append] at hlength
    rw [hnil more (by omega), List.append_nil]
  · rw [length_append] at hlength
    rw [hnil more (by omega), List.append_nil]

end Text.Utf16

namespace Document

/-- The columns of all lines are words of the protocol. -/
def IsNarrow (doc : Document) : Prop :=
  ∀ i < doc.lineCount, Utf16.length (doc.lineText i) < UInt32.size

instance (doc : Document) : Decidable doc.IsNarrow :=
  inferInstanceAs (Decidable (∀ i < doc.lineCount, Utf16.length (doc.lineText i) < UInt32.size))

theorem line?_eq_some_lineText {doc : Document} {i : Nat} (hi : i < doc.lineCount) :
    doc.line? i = some (doc.lineText i) := by
  cases hline : doc.line? i with
  | none =>
      have hout := (doc.line?_eq_none_iff i).mp hline
      omega
  | some line => rw [lineText_of_line? hline]

variable {doc : Document}

theorem IsNarrow.length_lt (hnarrow : doc.IsNarrow) (i : Nat) :
    Utf16.length (doc.lineText i) < UInt32.size := by
  by_cases hi : i < doc.lineCount
  · exact hnarrow i hi
  · have hnone : doc.line? i = none := (doc.line?_eq_none_iff i).mpr (by omega)
    rw [lineText_of_line?_eq_none hnone]
    decide

theorem IsNarrow.length_line?_lt (hnarrow : doc.IsNarrow) {i : Nat} {line : Line}
    (hline : doc.line? i = some line) : line.length < UInt32.size := by
  have hlength := hnarrow.length_lt i
  rw [lineText_of_line? hline] at hlength
  exact Nat.lt_of_le_of_lt (Utf16.length_le_utf16Length line) hlength

theorem toNat_column_pointOf (hnarrow : doc.IsNarrow) (position : Position) :
    (doc.pointOf position).column.toNat =
      Utf16.ofColumn (doc.lineText position.line.toNat) position.character.toNat := by
  have hlength := hnarrow.length_lt position.line.toNat
  have hchars := Utf16.length_le_utf16Length (doc.lineText position.line.toNat)
  have hcolumn := Utf16.ofColumn_le_length (doc.lineText position.line.toNat)
    position.character.toNat
  exact UInt32.toNat_ofNat_of_lt' (by omega)

theorem toNat_character_positionOf (hnarrow : doc.IsNarrow) {number : UInt32}
    {left right : List Char} (hline : doc.lineText number.toNat = left ++ right) :
    (doc.positionOf ⟨number, left.length.toUInt32⟩).character.toNat = Utf16.length left := by
  have hlength := hnarrow.length_lt number.toNat
  have hchars := Utf16.length_le_utf16Length left
  rw [hline, Utf16.length_append] at hlength
  have hcolumn : left.length.toUInt32.toNat = left.length :=
    UInt32.toNat_ofNat_of_lt' (by omega)
  rw [positionOf, hline, hcolumn, Utf16.toColumn, List.take_left]
  exact UInt32.toNat_ofNat_of_lt' (by omega)

/-- A range that marks a part of one line, between what stands before it on the
line and what stands behind it. -/
structure Marks (doc : Document) (range : Range) (before part behind : List Char) : Prop where
  stop_line : range.stop.line = range.start.line
  line_eq : doc.line? range.start.line.toNat = some (before ++ part ++ behind)
  start_eq : range.start.character.toNat = Utf16.length before
  stop_eq : range.stop.character.toNat = Utf16.length (before ++ part)

/-- The range of characters on one line marks them. -/
theorem marks_rangeOf (hnarrow : doc.IsNarrow) {number : UInt32}
    {before part behind : List Char}
    (hline : doc.line? number.toNat = some (before ++ part ++ behind)) :
    doc.Marks
      (doc.rangeOf ⟨⟨number, before.length.toUInt32⟩,
        ⟨number, (before.length + part.length).toUInt32⟩⟩)
      before part behind where
  stop_line := rfl
  line_eq := hline
  start_eq := by
    apply toNat_character_positionOf hnarrow
    rw [lineText_of_line? hline, List.append_assoc]
  stop_eq := by
    rw [← List.length_append]
    exact toNat_character_positionOf hnarrow (lineText_of_line? hline)

/-- A range marks one part only. -/
theorem Marks.unique {range : Range} {before part behind before' part' behind' : List Char}
    (hmarks : doc.Marks range before part behind)
    (hmarks' : doc.Marks range before' part' behind') :
    before = before' ∧ part = part' ∧ behind = behind' := by
  have hline : before ++ part ++ behind = before' ++ part' ++ behind' := by
    have hlines := hmarks.line_eq.symm.trans hmarks'.line_eq
    exact Option.some.inj hlines
  have hstop : before ++ part = before' ++ part' :=
    Utf16.eq_of_append_eq_append hline (hmarks.stop_eq.symm.trans hmarks'.stop_eq)
  have hbefore : before = before' :=
    Utf16.eq_of_append_eq_append hstop (hmarks.start_eq.symm.trans hmarks'.start_eq)
  subst hbefore
  have hpart : part = part' := List.append_cancel_left hstop
  subst hpart
  exact ⟨rfl, rfl, List.append_cancel_left hline⟩

end Document

end KontaktScript
