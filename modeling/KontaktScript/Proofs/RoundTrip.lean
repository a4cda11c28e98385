import KontaktScript.Proofs.Column
import Mathlib.Order.Bounds.Defs

/-!
# Columns there and back

Characters that are written as a column and read again are the same characters, a
number past the end of the line being taken for the end.  A column that is read
and written again goes up to the next character, which is further only from the
middle of a surrogate pair.  Both follow from the adjunction of the two
conversions.

The counts that the conversions keep on the way fit into the words of the
protocol wherever the units of the whole line do.
-/

namespace KontaktScript

open Text

namespace Text.Utf16

/-- A column at which a character starts or the text ends. -/
def IsCharBoundary (cs : List Char) (column : Nat) : Prop :=
  ∃ left right, cs = left ++ right ∧ length left = column

theorem isCharBoundary_toColumn (cs : List Char) (index : Nat) :
    IsCharBoundary cs (toColumn cs index) :=
  ⟨cs.take index, cs.drop index, (List.take_append_drop index cs).symm, rfl⟩

theorem toColumn_append (left right : List Char) :
    toColumn (left ++ right) left.length = length left := by
  rw [toColumn, List.take_left]

theorem toColumn_le_toColumn (cs : List Char) {index later : Nat} (hle : index ≤ later) :
    toColumn cs index ≤ toColumn cs later := by
  obtain ⟨more, rfl⟩ := Nat.exists_eq_add_of_le hle
  rw [toColumn, toColumn, List.take_add, length_append]
  exact Nat.le_add_right _ _

theorem toColumn_le_length (cs : List Char) (index : Nat) : toColumn cs index ≤ length cs := by
  calc toColumn cs index
      ≤ length (cs.take index) + length (cs.drop index) := Nat.le_add_right _ _
    _ = length cs := by rw [← length_append, List.take_append_drop]

theorem toColumn_min_length (cs : List Char) (index : Nat) :
    toColumn cs (min index cs.length) = toColumn cs index := by
  rw [toColumn, toColumn, ← List.take_eq_take_min]

/-- The adjunction: a column is read as at most `index` characters just if it lies
at or before the column of these. -/
theorem ofColumn_le_iff {cs : List Char} {index : Nat} (hindex : index ≤ cs.length)
    (column : Nat) :
    ofColumn cs column ≤ index ↔ min column (length cs) ≤ toColumn cs index := by
  have hadjoint := ofColumn_append_le_iff (cs.take index) (cs.drop index) column
  rwa [List.take_append_drop, List.length_take_of_le hindex] at hadjoint

/-- Characters are read as they were written. -/
theorem ofColumn_toColumn (cs : List Char) (index : Nat) :
    ofColumn cs (toColumn cs index) = min index cs.length := by
  rw [← toColumn_min_length]
  have hindex : min index cs.length ≤ cs.length := Nat.min_le_right _ _
  generalize min index cs.length = index at hindex ⊢
  apply Nat.le_antisymm
  · rw [ofColumn_le_iff hindex]
    exact Nat.min_le_left _ _
  · have hleast : (cs.take index).length ≤
        ofColumn (cs.take index ++ cs.drop index) (toColumn cs index) :=
      length_le_ofColumn (Nat.le_refl _)
    rwa [List.take_append_drop, List.length_take_of_le hindex] at hleast

/-- A column goes up to the next boundary of characters when it is read and written
again. -/
theorem isLeast_toColumn_ofColumn (cs : List Char) (column : Nat) :
    IsLeast {boundary | IsCharBoundary cs boundary ∧ min column (length cs) ≤ boundary}
      (toColumn cs (ofColumn cs column)) := by
  constructor
  · constructor
    · exact isCharBoundary_toColumn cs _
    · exact (ofColumn_le_iff (ofColumn_le_length cs column) column).mp (Nat.le_refl _)
  · rintro boundary ⟨⟨left, right, rfl, rfl⟩, hcolumn⟩
    have hread := (ofColumn_append_le_iff left right column).mpr hcolumn
    calc toColumn (left ++ right) (ofColumn (left ++ right) column)
        ≤ toColumn (left ++ right) left.length := toColumn_le_toColumn _ hread
      _ = length left := toColumn_append left right

theorem units_eq_one_or_two (c : Char) : units c = 1 ∨ units c = 2 := by
  rw [units]
  split
  · exact .inl rfl
  · exact .inr rfl

/-- A column that lies between the two units of a character. -/
def IsInPair (cs : List Char) (column : Nat) : Prop :=
  ∃ left c right, cs = left ++ c :: right ∧ units c = 2 ∧ column = length left + 1

/-- Only a column inside a surrogate pair goes up at all, and that by one. -/
theorem toColumn_ofColumn_cases (cs : List Char) (column : Nat) :
    toColumn cs (ofColumn cs column) = min column (length cs) ∨
      toColumn cs (ofColumn cs column) = min column (length cs) + 1 ∧
        IsInPair cs (min column (length cs)) := by
  have hread := ofColumn_le_length cs column
  have hup := (ofColumn_le_iff hread column).mp (Nat.le_refl _)
  cases hpassed : ofColumn cs column with
  | zero =>
      rw [hpassed] at hup
      exact .inl (Nat.le_antisymm (Nat.zero_le _) hup)
  | succ passed =>
      rw [hpassed] at hread hup
      have hbefore : toColumn cs passed < min column (length cs) := by
        have hfewer := ofColumn_le_iff (Nat.le_of_succ_le hread) column
        omega
      have hsplit : cs = cs.take passed ++ cs[passed] :: cs.drop (passed + 1) := by
        rw [← List.drop_eq_getElem_cons hread, List.take_append_drop]
      have hlast : toColumn cs (passed + 1) = toColumn cs passed + units cs[passed] := by
        rw [toColumn, List.take_succ_eq_append_getElem hread, length_append]
        rfl
      rw [hlast] at hup ⊢
      rcases units_eq_one_or_two cs[passed] with hone | htwo
      · left
        omega
      · by_cases hend : min column (length cs) = toColumn cs passed + units cs[passed]
        · exact .inl hend.symm
        · right
          constructor
          · omega
          · refine ⟨_, _, _, hsplit, htwo, ?_⟩
            rw [toColumn] at hup hbefore hend
            omega

/-! ## Counting in words -/

/-- The sum of two words, unless it is too large for one. -/
def addWords? (left right : UInt32) : Option UInt32 :=
  if left.toNat + right.toNat < UInt32.size then some (left + right) else none

/-- The column of the first characters, their units being added up in a word. -/
def toColumnWord? (cs : List Char) (index : UInt32) : Option UInt32 :=
  (cs.take index.toNat).foldlM (fun sum c => addWords? sum (units c).toUInt32) 0

/-- The number of characters that are passed until their units reach a column, both
counted in words from what was passed before. -/
def passedWord? (column : UInt32) : (sum passed : UInt32) → List Char → Option UInt32
  | _, passed, [] => some passed
  | sum, passed, c :: cs =>
      if column ≤ sum then some passed
      else do
        let sum ← addWords? sum (units c).toUInt32
        let passed ← addWords? passed 1
        passedWord? column sum passed cs

def ofColumnWord? (cs : List Char) (column : UInt32) : Option UInt32 :=
  passedWord? column 0 0 cs

theorem addWords?_toUInt32 {left right : Nat} (hsum : left + right < UInt32.size) :
    addWords? left.toUInt32 right.toUInt32 = some (left + right).toUInt32 := by
  have hleft : left.toUInt32.toNat = left := UInt32.toNat_ofNat_of_lt' (by omega)
  have hright : right.toUInt32.toNat = right := UInt32.toNat_ofNat_of_lt' (by omega)
  rw [addWords?, hleft, hright, if_pos hsum]
  exact congrArg some (UInt32.ofNat_add left right).symm

theorem foldlM_addWords? (cs : List Char) (sum : Nat) (hsum : sum + length cs < UInt32.size) :
    cs.foldlM (fun sum c => addWords? sum (units c).toUInt32) sum.toUInt32 =
      some (sum + length cs).toUInt32 := by
  induction cs generalizing sum with
  | nil => rfl
  | cons c cs ih =>
      rw [length_cons, ← Nat.add_assoc] at hsum ⊢
      rw [List.foldlM_cons, addWords?_toUInt32 (by omega)]
      exact ih _ hsum

theorem toNat_toColumnWord? {cs : List Char} (hnarrow : length cs < UInt32.size)
    (index : UInt32) :
    (toColumnWord? cs index).map UInt32.toNat = some (toColumn cs index.toNat) := by
  have hcolumn : toColumn cs index.toNat < UInt32.size :=
    Nat.lt_of_le_of_lt (toColumn_le_length cs index.toNat) hnarrow
  have hcount : toColumnWord? cs index = some (toColumn cs index.toNat).toUInt32 := by
    have hfold := foldlM_addWords? (cs.take index.toNat) 0
    rw [Nat.zero_add] at hfold
    exact hfold hcolumn
  rw [hcount, Option.map_some]
  exact congrArg some (UInt32.toNat_ofNat_of_lt' hcolumn)

/-- While the column is not reached, what is left to reach is the column less the
units so far. -/
theorem passedWord?_eq (column : UInt32) (cs : List Char) (sum passed : Nat)
    (hsum : sum + length cs < UInt32.size) (hpassed : passed + cs.length < UInt32.size) :
    passedWord? column sum.toUInt32 passed.toUInt32 cs =
      some (passed + ofColumn cs (column.toNat - sum)).toUInt32 := by
  induction cs generalizing sum passed with
  | nil => rfl
  | cons c cs ih =>
      rw [length_cons] at hsum
      rw [List.length_cons] at hpassed
      have hword : sum.toUInt32.toNat = sum := UInt32.toNat_ofNat_of_lt' (by omega)
      have hle : column ≤ sum.toUInt32 ↔ column.toNat ≤ sum := by
        rw [UInt32.le_iff_toNat_le, hword]
      rw [passedWord?]
      by_cases hreached : column.toNat ≤ sum
      · rw [if_pos (hle.mpr hreached), Nat.sub_eq_zero_of_le hreached]
        rfl
      · have hsub : column.toNat - sum ≠ 0 := by omega
        obtain ⟨missing, hmissing⟩ := Nat.exists_eq_succ_of_ne_zero hsub
        have hrest : column.toNat - (sum + units c) = missing + 1 - units c := by omega
        have hone : addWords? passed.toUInt32 1 = some (passed + 1).toUInt32 :=
          addWords?_toUInt32 (show passed + 1 < UInt32.size by omega)
        have hcount : passed + (ofColumn cs (missing + 1 - units c) + 1) =
            passed + 1 + ofColumn cs (column.toNat - (sum + units c)) := by
          rw [hrest]
          omega
        rw [if_neg (mt hle.mp hreached), addWords?_toUInt32 (by omega), hone, hmissing, ofColumn,
          hcount]
        exact ih (sum + units c) (passed + 1) (by omega) (by omega)

theorem toNat_ofColumnWord? {cs : List Char} (hnarrow : length cs < UInt32.size)
    (column : UInt32) :
    (ofColumnWord? cs column).map UInt32.toNat = some (ofColumn cs column.toNat) := by
  have hchars := length_le_utf16Length cs
  have hread := ofColumn_le_length cs column.toNat
  have hcount : ofColumnWord? cs column = some (ofColumn cs column.toNat).toUInt32 := by
    have hpassed := passedWord?_eq column cs 0 0
    rw [Nat.zero_add, Nat.zero_add, Nat.zero_add, Nat.sub_zero] at hpassed
    exact hpassed hnarrow (Nat.lt_of_le_of_lt hchars hnarrow)
  rw [hcount, Option.map_some]
  exact congrArg some (UInt32.toNat_ofNat_of_lt' (by omega))

end Text.Utf16

/-- A point is found again at its position, if the units of its line are words. -/
theorem Document.toNat_column_pointOf_positionOf (doc : Document) (point : Point)
    (hnarrow : Utf16.length (doc.lineText point.line.toNat) < UInt32.size) :
    (doc.pointOf (doc.positionOf point)).column.toNat =
      min point.column.toNat (doc.lineText point.line.toNat).length := by
  generalize hline : doc.lineText point.line.toNat = line at hnarrow
  have hcharacter : (doc.positionOf point).character.toNat =
      Utf16.toColumn line point.column.toNat := by
    rw [positionOf, hline]
    exact UInt32.toNat_ofNat_of_lt'
      (Nat.lt_of_le_of_lt (Utf16.toColumn_le_length line point.column.toNat) hnarrow)
  have hsmall : min point.column.toNat line.length < UInt32.size :=
    Nat.lt_of_le_of_lt (Nat.min_le_left _ _) point.column.toNat_lt_size
  calc (doc.pointOf (doc.positionOf point)).column.toNat
      = (Utf16.ofColumn line (Utf16.toColumn line point.column.toNat)).toUInt32.toNat := by
        rw [← hcharacter, ← hline]
        rfl
    _ = (min point.column.toNat line.length).toUInt32.toNat := by rw [Utf16.ofColumn_toColumn]
    _ = min point.column.toNat line.length := UInt32.toNat_ofNat_of_lt' hsmall

/-- Columns there and back.  On a line whose units are words, characters are read as
they were written, and a column that is read and written again goes up to the next
boundary of characters, by one unit from inside a surrogate pair and otherwise not at
all.  The two conversions are adjoint, and what they count on the way are words.
Hence every point of a document is found again at its position, as the end of the line
if it lies behind that; a missing line is empty. -/
theorem columns_there_and_back :
    (∀ line : Line, Utf16.length line < UInt32.size →
      (∀ index, Utf16.ofColumn line (Utf16.toColumn line index) = min index line.length) ∧
      (∀ column,
        let target := min column (Utf16.length line)
        let written := Utf16.toColumn line (Utf16.ofColumn line column)
        IsLeast {boundary | Utf16.IsCharBoundary line boundary ∧ target ≤ boundary} written ∧
          (written = target ∨ written = target + 1 ∧ Utf16.IsInPair line target)) ∧
      (∀ column, ∀ index ≤ line.length,
        Utf16.ofColumn line column ≤ index ↔
          min column (Utf16.length line) ≤ Utf16.toColumn line index) ∧
      (∀ index : UInt32,
        (Utf16.toColumnWord? line index).map UInt32.toNat =
          some (Utf16.toColumn line index.toNat)) ∧
      ∀ column : UInt32,
        (Utf16.ofColumnWord? line column).map UInt32.toNat =
          some (Utf16.ofColumn line column.toNat)) ∧
    ∀ (doc : Document) (point : Point),
      let line := (doc.line? point.line.toNat).getD []
      Utf16.length line < UInt32.size →
        (doc.pointOf (doc.positionOf point)).line = point.line ∧
          (doc.pointOf (doc.positionOf point)).column.toNat =
            min point.column.toNat line.length := by
  constructor
  · intro line hnarrow
    refine ⟨Utf16.ofColumn_toColumn line, ?_, ?_, Utf16.toNat_toColumnWord? hnarrow,
      Utf16.toNat_ofColumnWord? hnarrow⟩
    · intro column target written
      exact ⟨Utf16.isLeast_toColumn_ofColumn line column,
        Utf16.toColumn_ofColumn_cases line column⟩
    · intro column index hindex
      exact Utf16.ofColumn_le_iff hindex column
  · intro doc point line hnarrow
    exact ⟨rfl, doc.toNat_column_pointOf_positionOf point hnarrow⟩

/-- A column inside a surrogate pair, a point behind the end of its line and one on a
line that is missing. -/
theorem columns_there_and_back_in_surrogate_pair :
    let line := "a𝄞b".toList
    let doc := Document.ofString "\na𝄞b"
    Utf16.length line < UInt32.size ∧
      IsLeast {boundary | Utf16.IsCharBoundary line boundary ∧ 2 ≤ boundary} 3 ∧
      Utf16.IsInPair line 2 ∧
      (Utf16.ofColumnWord? line 2).map UInt32.toNat = some 2 ∧
      (doc.pointOf (doc.positionOf ⟨1, 7⟩)).column.toNat = 3 ∧
      (doc.pointOf (doc.positionOf ⟨5, 7⟩)).column.toNat = 0 := by
  intro line doc
  obtain ⟨hlines, hpoints⟩ := columns_there_and_back
  have hnarrow : Utf16.length line < UInt32.size := by decide
  obtain ⟨-, hup, -, -, hwords⟩ := hlines line hnarrow
  obtain ⟨hleast, hsame | ⟨-, hpair⟩⟩ := hup 2
  · exact absurd hsame (by decide)
  · refine ⟨hnarrow, hleast, hpair, hwords 2, ?_, ?_⟩
    · have hlength : ((doc.line? 1).getD []).length = 3 := by decide +kernel
      have hback := (hpoints doc ⟨1, 7⟩ (by decide +kernel)).2
      exact hback.trans (congrArg (min 7) hlength)
    · have hlength : ((doc.line? 5).getD []).length = 0 := by decide +kernel
      have hback := (hpoints doc ⟨5, 7⟩ (by decide +kernel)).2
      exact hback.trans (congrArg (min 7) hlength)

end KontaktScript
