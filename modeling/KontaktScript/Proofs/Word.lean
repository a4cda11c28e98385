import KontaktScript.Token
import Mathlib.Data.List.Basic
import Mathlib.Data.List.TakeWhile

/-!
# The word around a cursor

A line is cut around a word into what stands before it, the word, and what
stands behind it, such that neither neighbour could belong to the word.  From
any cursor in the word all scans find the same cut, although the scans for its
ends stay at the cursor when the word reaches an end of the line.
-/

namespace KontaktScript.Word

open Text

theorem isBoundary_eq_false_iff {c : Char} : isBoundary c = false ↔ isInner c = true := by
  rw [isInner, Bool.not_eq_true']

/-- A run of word characters that goes on neither in what stands before it nor
in what stands behind it. -/
structure IsCut (before word behind : List Char) : Prop where
  inner : ∀ c ∈ word, isInner c = true
  before_closed : before.getLast?.any isInner = false
  behind_closed : behind.head?.any isInner = false

theorem takeWhile_inner_eq_nil {text : List Char} (htext : text.head?.any isInner = false) :
    text.takeWhile isInner = [] := by
  cases text with
  | nil => rfl
  | cons c text => exact List.takeWhile_cons_of_neg (by simpa using htext)

theorem dropWhile_inner_eq_self {text : List Char} (htext : text.head?.any isInner = false) :
    text.dropWhile isInner = text := by
  cases text with
  | nil => rfl
  | cons c text => exact List.dropWhile_cons_of_neg (by simpa using htext)

theorem any_head?_dropWhile_inner (text : List Char) :
    (text.dropWhile isInner).head?.any isInner = false := by
  have hhead := List.head?_dropWhile_not isInner text
  cases htext : (text.dropWhile isInner).head? with
  | none => rfl
  | some c => simpa [htext] using hhead

/-- A line can be cut around any cursor, which divides the run it stands in or
next to.  One past the end of the line divides it at its end. -/
theorem exists_isCut_at (line : Line) (cursor : Nat) :
    ∃ before left right behind, IsCut before (left ++ right) behind ∧
      line.take cursor = before ++ left ∧ line.drop cursor = right ++ behind := by
  let left := (line.take cursor).reverse
  let right := line.drop cursor
  have hleft : (left.dropWhile isInner).reverse ++ (left.takeWhile isInner).reverse =
      line.take cursor := by
    rw [← List.reverse_append, List.takeWhile_append_dropWhile, List.reverse_reverse]
  refine ⟨(left.dropWhile isInner).reverse, (left.takeWhile isInner).reverse,
    right.takeWhile isInner, right.dropWhile isInner,
    ⟨?_, ?_, any_head?_dropWhile_inner right⟩, hleft.symm, ?_⟩
  · intro c hc
    rcases List.mem_append.mp hc with hc | hc
    · exact List.mem_takeWhile_imp (List.mem_reverse.mp hc)
    · exact List.mem_takeWhile_imp hc
  · rw [List.getLast?_reverse]
    exact any_head?_dropWhile_inner left
  · exact List.takeWhile_append_dropWhile.symm

theorem exists_isCut {line : Line} {cursor : Nat} (hcursor : cursor ≤ line.length) :
    ∃ before left right behind, IsCut before (left ++ right) behind ∧
      line = before ++ left ++ (right ++ behind) ∧ cursor = (before ++ left).length := by
  obtain ⟨before, left, right, behind, hcut, htake, hdrop⟩ := exists_isCut_at line cursor
  refine ⟨before, left, right, behind, hcut, ?_, ?_⟩
  · rw [← htake, ← hdrop, List.take_append_drop]
  · rw [← htake, List.length_take, Nat.min_eq_left hcursor]

/-- A cursor in a text divides it. -/
theorem exists_division {before word : List Char} {cursor : Nat}
    (hstart : before.length ≤ cursor) (hstop : cursor ≤ before.length + word.length) :
    ∃ left right, word = left ++ right ∧ cursor = (before ++ left).length := by
  refine ⟨word.take (cursor - before.length), word.drop (cursor - before.length), ?_, ?_⟩
  · rw [List.take_append_drop]
  · rw [List.length_append, List.length_take]
    omega

/-- A line cut around a divided word is divided at the cursor. -/
theorem append_division (before left right behind : List Char) :
    before ++ (left ++ right) ++ behind = before ++ left ++ (right ++ behind) := by
  simp only [List.append_assoc]

namespace IsCut

variable {before left right behind : List Char} {c : Char}

theorem inner_left (hcut : IsCut before (left ++ right) behind) :
    ∀ d ∈ left.reverse, isInner d = true :=
  fun d hd => hcut.inner d (List.mem_append_left right (List.mem_reverse.mp hd))

theorem inner_right (hcut : IsCut before (left ++ right) behind) :
    ∀ d ∈ right, isInner d = true :=
  fun d hd => hcut.inner d (List.mem_append_right left hd)

theorem takeWhile_left (hcut : IsCut before (left ++ right) behind) :
    (before ++ left).reverse.takeWhile isInner = left.reverse := by
  have hbefore : before.reverse.takeWhile isInner = [] :=
    takeWhile_inner_eq_nil (by simpa using hcut.before_closed)
  rw [List.reverse_append, List.takeWhile_append_of_pos hcut.inner_left, hbefore,
    List.append_nil]

theorem dropWhile_left (hcut : IsCut before (left ++ right) behind) :
    (before ++ left).reverse.dropWhile isInner = before.reverse := by
  rw [List.reverse_append, List.dropWhile_append_of_pos hcut.inner_left]
  exact dropWhile_inner_eq_self (by simpa using hcut.before_closed)

theorem takeWhile_right (hcut : IsCut before (left ++ right) behind) :
    (right ++ behind).takeWhile isInner = right := by
  rw [List.takeWhile_append_of_pos hcut.inner_right,
    takeWhile_inner_eq_nil hcut.behind_closed, List.append_nil]

theorem dropWhile_right (hcut : IsCut before (left ++ right) behind) :
    (right ++ behind).dropWhile isInner = behind := by
  rw [List.dropWhile_append_of_pos hcut.inner_right]
  exact dropWhile_inner_eq_self hcut.behind_closed

/-- The scan to the left ends at the word's start, but stays at the cursor if
the word starts the line. -/
theorem first_of_take (hcut : IsCut before (left ++ right) behind) {line : Line} {cursor : Nat}
    (htake : line.take cursor = before ++ left) :
    first line cursor = if before = [] then cursor else before.length := by
  rw [first, htake, hcut.takeWhile_left]
  simp only [List.length_reverse, List.length_append]
  by_cases hnil : before = []
  · simp [hnil]
  · have hpos : 0 < before.length := List.length_pos_iff.mpr hnil
    rw [if_neg hnil, if_neg (by omega)]
    omega

theorem first_eq (hcut : IsCut before (left ++ right) behind) :
    first (before ++ left ++ (right ++ behind)) (before ++ left).length =
      if before = [] then left.length else before.length := by
  rw [hcut.first_of_take List.take_left]
  by_cases hnil : before = []
  · rw [if_pos hnil, if_pos hnil, hnil, List.nil_append]
  · rw [if_neg hnil, if_neg hnil]

/-- The scan to the right ends at the word's last character, but stays at the
cursor if the word ends the line. -/
theorem last_of_drop (hcut : IsCut before (left ++ right) behind) {line : Line} {cursor : Nat}
    (hdrop : line.drop (cursor + 1) = right ++ behind) :
    last line cursor = if behind = [] then cursor else cursor + right.length := by
  rw [last, hdrop, hcut.takeWhile_right]
  simp only [List.length_append]
  by_cases hnil : behind = []
  · simp [hnil]
  · have hpos : 0 < behind.length := List.length_pos_iff.mpr hnil
    rw [if_neg hnil, if_neg (by omega)]

theorem last_eq (hcut : IsCut before (left ++ c :: right) behind) :
    last (before ++ left ++ (c :: right ++ behind)) (before ++ left).length =
      if behind = [] then (before ++ left).length
      else (before ++ left).length + right.length := by
  have hrest : IsCut before ((left ++ [c]) ++ right) behind := by simpa using hcut
  apply hrest.last_of_drop
  rw [List.drop_append]
  simp

/-- At a cursor stands a word character if more of the run follows. -/
theorem isInnerAt_eq (hcut : IsCut before (left ++ right) behind) :
    isInnerAt (before ++ left ++ (right ++ behind)) (before ++ left).length =
      !right.isEmpty := by
  have hhead : (before ++ left ++ (right ++ behind))[(before ++ left).length]? =
      (right ++ behind).head? := by
    rw [List.getElem?_append_right (Nat.le_refl _), Nat.sub_self, List.head?_eq_getElem?]
  rw [isInnerAt, hhead]
  cases right with
  | nil => exact hcut.behind_closed
  | cons c right => exact hcut.inner c (List.mem_append_right left List.mem_cons_self)

/-- In front of a cursor stands a word character if some of the run
precedes. -/
theorem isInnerAt_pred (hcut : IsCut before (left ++ right) behind)
    (hpos : 0 < (before ++ left).length) :
    isInnerAt (before ++ left ++ (right ++ behind)) ((before ++ left).length - 1) =
      !left.isEmpty := by
  have hlast : (before ++ left ++ (right ++ behind))[(before ++ left).length - 1]? =
      (before ++ left).getLast? := by
    rw [List.getElem?_append_left (Nat.sub_lt hpos Nat.one_pos), List.getLast?_eq_getElem?]
  rw [isInnerAt, hlast]
  rcases List.eq_nil_or_concat' left with rfl | ⟨left, c, rfl⟩
  · rw [List.append_nil]
    exact hcut.before_closed
  · have hc : isInner c = true := hcut.inner c (by simp)
    rw [← List.append_assoc, List.getLast?_concat]
    simp [hc]

end IsCut

/-- A line can be cut around the word to which a character belongs. -/
theorem exists_isCut_of_isInnerAt {line : Line} {i : Nat} (hinner : isInnerAt line i = true) :
    ∃ before word behind, IsCut before word behind ∧ line = before ++ word ++ behind ∧
      before.length ≤ i ∧ i < before.length + word.length := by
  have hi : i < line.length := by
    by_contra hout
    rw [isInnerAt, List.getElem?_eq_none (Nat.le_of_not_lt hout)] at hinner
    cases hinner
  obtain ⟨before, left, right, behind, hcut, rfl, rfl⟩ := exists_isCut (Nat.le_of_lt hi)
  have hright : 0 < right.length := by
    rw [hcut.isInnerAt_eq] at hinner
    exact List.length_pos_iff.mpr (by simpa using hinner)
  refine ⟨before, left ++ right, behind, hcut, (append_division ..).symm, ?_, ?_⟩
  · rw [List.length_append]
    exact Nat.le_add_right _ _
  · simp only [List.length_append]
    omega

/-- The word characters of a line from offset `start` up to `stop`, which go on
at neither end. -/
structure IsRun (line : Line) (start stop : Nat) : Prop where
  nonempty : start < stop
  inner : ∀ i, start ≤ i → i < stop → isInnerAt line i = true
  start_closed : 0 < start → isInnerAt line (start - 1) = false
  stop_closed : isInnerAt line stop = false

/-- A cut around a word tells the offsets of a run. -/
theorem IsCut.isRun {before word behind : List Char} (hcut : IsCut before word behind)
    (hword : word ≠ []) :
    IsRun (before ++ word ++ behind) before.length (before.length + word.length) where
  nonempty := Nat.lt_add_of_pos_right (List.length_pos_iff.mpr hword)
  inner i hstart hstop := by
    obtain ⟨left, right, rfl, rfl⟩ := exists_division hstart (Nat.le_of_lt hstop)
    have hright : right ≠ [] := by
      rintro rfl
      simp only [List.append_nil, List.length_append] at hstop
      omega
    rw [append_division, hcut.isInnerAt_eq]
    simpa using hright
  start_closed hpos := by
    have hleft : IsCut before ([] ++ word) behind := hcut
    have hinner := hleft.isInnerAt_pred (by simpa using hpos)
    simpa using hinner
  stop_closed := by
    have hright : IsCut before (word ++ []) behind := by simpa using hcut
    have hinner := hright.isInnerAt_eq
    simpa using hinner

theorem not_isBlank_of_isInner {c : Char} (hc : isInner c = true) : isBlank c = false := by
  rw [isInner, isBoundary, Bool.not_eq_true', Bool.or_eq_false_iff] at hc
  exact hc.1

theorem eq_quote_of_mem_leadingQuote {c : Char} {text : List Char}
    (hc : c ∈ leadingQuote text) : c = '"' := by
  rw [leadingQuote.eq_def] at hc
  split at hc
  · exact List.mem_singleton.mp hc
  · cases hc

theorem trim_eq_self {text : List Char} (htext : ∀ c ∈ text, isBlank c = false) :
    trim text = text := by
  have hkeep : ∀ other : List Char, (∀ c ∈ other, isBlank c = false) →
      other.dropWhile isBlank = other := by
    intro other hother
    cases other with
    | nil => rfl
    | cons c other =>
        have hc : ¬ isBlank c = true := by simp [hother c List.mem_cons_self]
        exact List.dropWhile_cons_of_neg hc
  have hreverse : ∀ c ∈ text.reverse, isBlank c = false := fun c hc =>
    htext c (List.mem_reverse.mp hc)
  rw [trim, trimLeft, hkeep text htext, trimRight, hkeep text.reverse hreverse,
    List.reverse_reverse]

/-- The text of a word comes with the quotes next to it. -/
theorem IsCut.around_of_take_drop {before left right behind : List Char}
    (hcut : IsCut before (left ++ right) behind) {line : Line} {cursor : Nat}
    (htake : line.take cursor = before ++ left) (hdrop : line.drop cursor = right ++ behind) :
    around line cursor =
      leadingQuote before.reverse ++ (left ++ right) ++ leadingQuote behind := by
  rw [around, htake, hdrop, hcut.takeWhile_left, hcut.dropWhile_left, hcut.takeWhile_right,
    hcut.dropWhile_right, List.reverse_reverse]
  have happend : leadingQuote before.reverse ++ left ++ (right ++ leadingQuote behind) =
      leadingQuote before.reverse ++ (left ++ right) ++ leadingQuote behind := by
    simp only [List.append_assoc]
  rw [happend]
  apply trim_eq_self
  intro c hc
  rcases List.mem_append.mp hc with hc | hc
  · rcases List.mem_append.mp hc with hc | hc
    · rw [eq_quote_of_mem_leadingQuote hc]
      decide
    · exact not_isBlank_of_isInner (hcut.inner c hc)
  · rw [eq_quote_of_mem_leadingQuote hc]
    decide

theorem IsCut.around_eq {before left right behind : List Char}
    (hcut : IsCut before (left ++ right) behind) :
    around (before ++ left ++ (right ++ behind)) (before ++ left).length =
      leadingQuote before.reverse ++ (left ++ right) ++ leadingQuote behind :=
  hcut.around_of_take_drop List.take_left List.drop_left

/-- The quote at an offset of a line, if one stands there. -/
def quoteAt (chars : Line) (i : Nat) : List Char :=
  if chars[i]? = some '"' then ['"'] else []

/-- The characters of a line from offset `start` up to `stop`, with the quotes
next to them. -/
def quoted (line : Line) (start stop : Nat) : List Char :=
  (if 0 < start then quoteAt line (start - 1) else []) ++ line.extract start stop ++
    quoteAt line stop

theorem leadingQuote_eq (text : List Char) :
    leadingQuote text = if text.head? = some '"' then ['"'] else [] := by
  rw [leadingQuote.eq_def]
  split
  · rfl
  · rename_i hquote
    rw [if_neg]
    intro hhead
    obtain ⟨rest, rfl⟩ := List.head?_eq_some_iff.mp hhead
    exact hquote rest rfl

/-- What stands at the offsets of a cut is the word, and next to it the ends of
what the cut leaves. -/
theorem quoted_append (before word behind : List Char) :
    quoted (before ++ word ++ behind) before.length (before.length + word.length) =
      leadingQuote before.reverse ++ word ++ leadingQuote behind := by
  have hword : (before ++ word ++ behind).extract before.length
      (before.length + word.length) = word := by
    simp [List.extract_eq_take_drop]
  have hbehind : quoteAt (before ++ word ++ behind) (before.length + word.length) =
      leadingQuote behind := by
    rw [quoteAt, leadingQuote_eq, ← List.length_append,
      List.getElem?_append_right (Nat.le_refl _), Nat.sub_self, List.head?_eq_getElem?]
  have hbefore : (if 0 < before.length then
      quoteAt (before ++ word ++ behind) (before.length - 1) else []) =
        leadingQuote before.reverse := by
    rw [leadingQuote_eq, List.head?_reverse]
    by_cases hpos : 0 < before.length
    · rw [if_pos hpos, quoteAt, List.append_assoc,
        List.getElem?_append_left (Nat.sub_lt hpos Nat.one_pos), List.getLast?_eq_getElem?]
    · have hnil : before = [] := List.length_eq_zero_iff.mp (by omega)
      subst hnil
      rfl
  rw [quoted, hbefore, hword, hbehind]

end KontaktScript.Word
