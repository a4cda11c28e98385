import KontaktScript.Proofs.Word

/-!
# The text around a cursor

From the cursor two walks collect characters, to the right in their order and to
the left against it.  Each ends at the first boundary and takes that along if it is
a quote.  Together they collect the longest run without a boundary on either side
of the cursor and the quotes next to it, a piece of the line in which there is no
white space to remove.
-/

namespace KontaktScript.Word

open Text

/-- The longest of the given pieces of a text in which no boundary stands. -/
structure IsLongest (IsPiece : List Char → Prop) (run : List Char) : Prop where
  piece : IsPiece run
  free : ∀ c ∈ run, isBoundary c = false
  longest : ∀ other, IsPiece other → (∀ c ∈ other, isBoundary c = false) →
    other.length ≤ run.length

/-- No start of a text without a boundary goes on where the run does not. -/
theorem length_le_of_isPrefix {run rest other : List Char}
    (hclosed : rest.head?.any isInner = false) (hother : other <+: run ++ rest)
    (hfree : ∀ c ∈ other, isBoundary c = false) : other.length ≤ run.length := by
  by_contra hlonger
  have hrun : run <+: other :=
    List.prefix_of_prefix_length_le (List.prefix_append run rest) hother
      (Nat.le_of_not_le hlonger)
  obtain ⟨more, rfl⟩ := hrun
  cases more with
  | nil => exact hlonger (by rw [List.append_nil])
  | cons c more =>
      obtain ⟨behind, rfl⟩ := (List.prefix_append_right_inj run).mp hother
      have hinner : isInner c = true :=
        isBoundary_eq_false_iff.mp (hfree c (List.mem_append_right run List.mem_cons_self))
      have houter : isInner c = false := hclosed
      rw [hinner] at houter
      cases houter

namespace IsCut

variable {before left right behind : List Char}

theorem isLongest_left (hcut : IsCut before (left ++ right) behind) :
    IsLongest (· <:+ before ++ left) left where
  piece := List.suffix_append before left
  free c hc := isBoundary_eq_false_iff.mpr (hcut.inner c (List.mem_append_left right hc))
  longest other hother hfree := by
    rw [← List.reverse_prefix, List.reverse_append] at hother
    have hclosed : before.reverse.head?.any isInner = false := by
      rw [List.head?_reverse]
      exact hcut.before_closed
    have hle := length_le_of_isPrefix hclosed hother
      fun c hc => hfree c (List.mem_reverse.mp hc)
    rwa [List.length_reverse, List.length_reverse] at hle

theorem isLongest_right (hcut : IsCut before (left ++ right) behind) :
    IsLongest (· <+: right ++ behind) right where
  piece := List.prefix_append right behind
  free c hc := isBoundary_eq_false_iff.mpr (hcut.inner c (List.mem_append_right left hc))
  longest _ hother hfree := length_le_of_isPrefix hcut.behind_closed hother hfree

end IsCut

theorem leadingQuote_isPrefix (text : List Char) : leadingQuote text <+: text := by
  rw [leadingQuote_eq]
  split
  · rename_i hhead
    obtain ⟨rest, rfl⟩ := List.head?_eq_some_iff.mp hhead
    exact ⟨rest, rfl⟩
  · exact List.nil_prefix

theorem reverse_leadingQuote (text : List Char) :
    (leadingQuote text).reverse = leadingQuote text := by
  rw [leadingQuote_eq]
  split
  · rfl
  · rfl

theorem quote_append_isPrefix_iff (run rest : List Char) :
    run ++ ['"'] <+: run ++ rest ↔ rest.head? = some '"' := by
  rw [List.prefix_append_right_inj, List.head?_eq_some_iff]
  constructor
  · rintro ⟨behind, rfl⟩
    exact ⟨behind, rfl⟩
  · rintro ⟨behind, rfl⟩
    exact ⟨behind, rfl⟩

theorem quote_cons_isSuffix_iff (run rest : List Char) :
    '"' :: run <:+ rest ++ run ↔ rest.reverse.head? = some '"' := by
  rw [← quote_append_isPrefix_iff run.reverse, ← List.reverse_cons, ← List.reverse_append,
    List.reverse_prefix]

/-- The characters up to the first boundary, and that too if it is a quote. -/
def collect : List Char → List Char
  | [] => []
  | c :: rest =>
      if isBoundary c then if c = '"' then [c] else []
      else c :: collect rest

/-- What the walks from a cursor collect. -/
def collected (line : Line) (cursor : Nat) : List Char :=
  (collect (line.take cursor).reverse).reverse ++ collect (line.drop cursor)

theorem collect_eq (text : List Char) :
    collect text = text.takeWhile isInner ++ leadingQuote (text.dropWhile isInner) := by
  induction text with
  | nil => rfl
  | cons c rest ih =>
      rw [collect]
      cases hboundary : isBoundary c with
      | true =>
          have hc : ¬ isInner c = true := by simp [isInner, hboundary]
          rw [List.takeWhile_cons_of_neg hc, List.dropWhile_cons_of_neg hc, leadingQuote_eq]
          by_cases hquote : c = '"'
          · simp [hquote]
          · simp [hquote]
      | false =>
          have hc : isInner c = true := isBoundary_eq_false_iff.mp hboundary
          rw [List.takeWhile_cons_of_pos hc, List.dropWhile_cons_of_pos hc, ih]
          rfl

theorem around_eq_trim_collected (line : Line) (cursor : Nat) :
    around line cursor = trim (collected line cursor) := by
  rw [around, collected, collect_eq, collect_eq, List.reverse_append, reverse_leadingQuote]

/-- A walk takes along no boundary but a quote, so it never takes white space. -/
theorem not_isBlank_of_mem_collect {text : List Char} :
    ∀ c ∈ collect text, isBlank c = false := by
  induction text with
  | nil => exact fun c hc => absurd hc List.not_mem_nil
  | cons d rest ih =>
      intro c hc
      rw [collect] at hc
      split_ifs at hc with hboundary hquote
      · rw [List.mem_singleton.mp hc, hquote]
        decide
      · cases hc
      · rcases List.mem_cons.mp hc with rfl | hc
        · have hinner := isBoundary_eq_false_iff.mp (eq_false_of_ne_true hboundary)
          exact not_isBlank_of_isInner hinner
        · exact ih c hc

theorem not_isBlank_of_mem_collected {line : Line} {cursor : Nat} :
    ∀ c ∈ collected line cursor, isBlank c = false := by
  intro c hc
  rcases List.mem_append.mp hc with hc | hc
  · exact not_isBlank_of_mem_collect c (List.mem_reverse.mp hc)
  · exact not_isBlank_of_mem_collect c hc

theorem trim_collected (line : Line) (cursor : Nat) :
    trim (collected line cursor) = collected line cursor :=
  trim_eq_self not_isBlank_of_mem_collected

/-- The text around a cursor stands on the line and touches the cursor. -/
theorem IsCut.exists_around_piece {before left right behind : List Char}
    (hcut : IsCut before (left ++ right) behind) {line : Line} {cursor : Nat}
    (htake : line.take cursor = before ++ left) (hdrop : line.drop cursor = right ++ behind) :
    ∃ front back, line = front ++ around line cursor ++ back ∧
      front.length ≤ (line.take cursor).length ∧
      (line.take cursor).length ≤ front.length + (around line cursor).length := by
  have hopening : leadingQuote before.reverse <:+ before := by
    rw [← List.reverse_prefix, reverse_leadingQuote]
    exact leadingQuote_isPrefix before.reverse
  obtain ⟨front, hfront⟩ := hopening
  obtain ⟨back, hback⟩ := leadingQuote_isPrefix behind
  have hbefore : before.length = front.length + (leadingQuote before.reverse).length := by
    rw [← List.length_append, hfront]
  have hline : line = before ++ left ++ (right ++ behind) := by
    rw [← htake, ← hdrop, List.take_append_drop]
  refine ⟨front, back, ?_, ?_, ?_⟩
  · rw [hcut.around_of_take_drop htake hdrop]
    calc line = before ++ left ++ (right ++ behind) := hline
      _ = front ++ leadingQuote before.reverse ++ left ++
            (right ++ (leadingQuote behind ++ back)) := by rw [hfront, hback]
      _ = front ++ (leadingQuote before.reverse ++ (left ++ right) ++ leadingQuote behind) ++
            back := by simp only [List.append_assoc]
  · rw [htake, List.length_append]
    omega
  · rw [hcut.around_of_take_drop htake hdrop, htake]
    simp only [List.length_append]
    omega

/-- The text around a cursor.  With the cursor taken for the end of the line if it
lies behind that, the text is the longest run without a boundary that ends at the
cursor and the longest one that starts there, together with a quote in front if one
stands directly before them and a quote behind if one stands directly after them.
So it is a piece of the line which touches the cursor and holds no white space, and
of what the walks collect nothing is trimmed. -/
theorem around_is_longest_run_with_quotes (line : Line) (cursor : Nat) :
    let here := min cursor line.length
    ∃ left right : List Char,
      IsLongest (· <:+ line.take here) left ∧ IsLongest (· <+: line.drop here) right ∧
      around line cursor =
        (if '"' :: left <:+ line.take here then ['"'] else []) ++ (left ++ right) ++
          (if right ++ ['"'] <+: line.drop here then ['"'] else []) ∧
      (∃ front back, line = front ++ around line cursor ++ back ∧
        front.length ≤ here ∧ here ≤ front.length + (around line cursor).length) ∧
      (∀ c ∈ around line cursor, isBlank c = false) ∧
      around line cursor = trim (collected line cursor) ∧
      trim (collected line cursor) = collected line cursor := by
  intro here
  obtain ⟨before, left, right, behind, hcut, htake, hdrop⟩ := exists_isCut_at line cursor
  have htake' : line.take here = before ++ left := List.take_eq_take_min.symm.trans htake
  have hdrop' : line.drop here = right ++ behind := List.drop_eq_drop_min.symm.trans hdrop
  have hhere : here = (line.take cursor).length := List.length_take.symm
  have htrim := trim_collected line cursor
  have haround := around_eq_trim_collected line cursor
  refine ⟨left, right, ?_, ?_, ?_, ?_, ?_, haround, htrim⟩
  · rw [htake']
    exact hcut.isLongest_left
  · rw [hdrop']
    exact hcut.isLongest_right
  · rw [hcut.around_of_take_drop htake hdrop, htake', hdrop', leadingQuote_eq, leadingQuote_eq]
    simp only [quote_cons_isSuffix_iff, quote_append_isPrefix_iff]
  · rw [hhere]
    exact hcut.exists_around_piece htake hdrop
  · rw [haround, htrim]
    exact not_isBlank_of_mem_collected

/-- A cursor between two quotes gets both, and one on a blank what ends there. -/
example : around "set(\"\", b)".toList 5 = "\"\"".toList ∧
    around "set (x)".toList 3 = "set".toList := by
  decide +kernel

end KontaktScript.Word
