import KontaktScript.Proofs.Word

/-!
# The token at a cursor

The token is the maximal run of word characters that the cursor stands in or
directly behind, with the quotes next to it.  All columns from the start of the
run to its end, the end included, therefore give one token.
-/

namespace KontaktScript

open Text

namespace Token

variable {before left right behind : List Char} {c : Char}

theorem firstOffset_eq (hcut : Word.IsCut before (left ++ right) behind) :
    firstOffset (before ++ left ++ (right ++ behind)) (before ++ left).length =
      before.length := by
  simp only [firstOffset, hcut.first_eq]
  by_cases hleft : left = []
  · -- Nothing of the run precedes the cursor, so the scan is right to stay.
    subst hleft
    have hstay : ¬ (0 < (before ++ []).length ∧
        Word.isInnerAt (before ++ [] ++ (right ++ behind)) ((before ++ []).length - 1) = true) := by
      rintro ⟨hpos, hinner⟩
      rw [hcut.isInnerAt_pred hpos] at hinner
      cases hinner
    rw [if_neg (fun hmoved => hstay hmoved.2)]
    by_cases hbefore : before = []
    · rw [if_pos hbefore, hbefore]
    · rw [if_neg hbefore]
  · have hlength : 0 < left.length := List.length_pos_iff.mpr hleft
    have hpos : 0 < (before ++ left).length := by
      rw [List.length_append]
      omega
    have hinner : Word.isInnerAt (before ++ left ++ (right ++ behind))
        ((before ++ left).length - 1) = true := by
      rw [hcut.isInnerAt_pred hpos]
      simpa using hleft
    by_cases hbefore : before = []
    · subst hbefore
      rw [if_pos rfl, if_pos ⟨rfl, hpos, hinner⟩]
      rfl
    · rw [if_neg hbefore, if_neg]
      rintro ⟨hlengths, -⟩
      rw [List.length_append] at hlengths
      omega

theorem lastOffset_eq (hcut : Word.IsCut before (left ++ c :: right) behind) :
    lastOffset (before ++ left ++ (c :: right ++ behind)) (before ++ left).length =
      (before ++ left).length + right.length := by
  have hrest : Word.IsCut before ((left ++ [c]) ++ right) behind := by simpa using hcut
  have hinner : Word.isInnerAt (before ++ left ++ (c :: right ++ behind))
      ((before ++ left).length + 1) = !right.isEmpty := by
    have hnext := hrest.isInnerAt_eq
    simpa [Nat.add_assoc] using hnext
  simp only [lastOffset, hcut.last_eq, hinner]
  by_cases hright : right = []
  · subst hright
    simp
  · have hlength : 0 < right.length := List.length_pos_iff.mpr hright
    by_cases hbehind : behind = []
    · subst hbehind
      rw [if_pos rfl, if_pos ⟨rfl, by simpa using hright⟩]
      simp only [List.length_append, List.length_cons, List.length_nil]
      omega
    · rw [if_neg hbehind, if_neg]
      rintro ⟨hlengths, -⟩
      omega

/-- A cursor in the run or directly behind it has a character of the run as its
anchor. -/
theorem exists_anchor? {before word behind : List Char} (hcut : Word.IsCut before word behind)
    (hword : word ≠ []) {cursor : Nat} (hstart : before.length ≤ cursor)
    (hstop : cursor ≤ before.length + word.length) :
    ∃ left c right, word = left ++ c :: right ∧
      anchor? (before ++ word ++ behind) cursor = some (before ++ left).length := by
  obtain ⟨left, right, rfl, rfl⟩ := Word.exists_division hstart hstop
  rw [Word.append_division, anchor?, hcut.isInnerAt_eq]
  cases right with
  | cons c right => exact ⟨left, c, right, rfl, rfl⟩
  | nil =>
      rcases List.eq_nil_or_concat' left with rfl | ⟨left, c, rfl⟩
      · exact absurd rfl hword
      · have hpos : 0 < (before ++ (left ++ [c])).length := by
          simp only [List.length_append, List.length_singleton]
          omega
        refine ⟨left, c, [], List.append_nil _, ?_⟩
        rw [hcut.isInnerAt_pred hpos]
        simp

/-- The token of a run, with the quotes next to it. -/
def ofRun (line : Line) (number start stop : UInt32) : Token where
  text := String.ofList (Word.quoted line start.toNat stop.toNat)
  span := ⟨⟨number, start⟩, ⟨number, stop⟩⟩

/-- From every cursor in a run or directly behind it the token is that of the
run. -/
theorem at?_eq_some_ofRun {doc : Document} {point : Point} {start stop : UInt32}
    {before word behind : List Char}
    (hline : doc.line? point.line.toNat = some (before ++ word ++ behind))
    (hcut : Word.IsCut before word behind) (hword : word ≠ [])
    (hstart : start.toNat = before.length) (hstop : stop.toNat = before.length + word.length)
    (hfrom : start ≤ point.column) (hto : point.column ≤ stop) :
    at? doc point = some (ofRun (before ++ word ++ behind) point.line start stop) := by
  rw [UInt32.le_iff_toNat_le] at hfrom hto
  rw [hstart] at hfrom
  rw [hstop] at hto
  have htext := Word.quoted_append before word behind
  obtain ⟨left, c, right, rfl, hanchor⟩ := exists_anchor? hcut hword hfrom hto
  have hsome : (Word.leadingQuote before.reverse ++ (left ++ c :: right) ++
      Word.leadingQuote behind).isEmpty = false := by
    simp
  have hfirst : before.length.toUInt32 = start := by
    rw [← hstart]
    exact UInt32.ofNat_toNat
  have hlast : ((before ++ left).length + right.length).toUInt32 + 1 = stop := by
    have hlength : stop.toNat = (before ++ left).length + right.length + 1 := by
      rw [hstop]
      simp only [List.length_append, List.length_cons]
      omega
    have hsucc := congrArg Nat.toUInt32 hlength
    exact (UInt32.ofNat_add _ 1).symm.trans (hsucc.symm.trans UInt32.ofNat_toNat)
  rw [ofRun, hstart, hstop, htext]
  rw [Word.append_division] at hline hanchor
  simp only [at?, hline, hanchor, Option.bind_eq_bind, Option.bind_some, hcut.around_eq, hsome,
    firstOffset_eq hcut, lastOffset_eq hcut, hfirst, hlast]
  rfl

/-- The offset of the word character that a cursor is on: the one at the cursor,
or else the one directly before it. -/
def IsAnchor (line : Line) (cursor offset : Nat) : Prop :=
  Word.isInnerAt line offset = true ∧
    (offset = cursor ∨ Word.isInnerAt line cursor = false ∧ offset + 1 = cursor)

instance (line : Line) (cursor offset : Nat) : Decidable (IsAnchor line cursor offset) :=
  inferInstanceAs (Decidable (_ ∧ _))

theorem exists_isAnchor_iff (line : Line) (cursor : Nat) :
    (∃ offset, IsAnchor line cursor offset) ↔
      Word.isInnerAt line cursor = true ∨
        0 < cursor ∧ Word.isInnerAt line (cursor - 1) = true := by
  constructor
  · rintro ⟨offset, hinner, rfl | ⟨-, rfl⟩⟩
    · exact .inl hinner
    · exact .inr ⟨Nat.succ_pos offset, hinner⟩
  · intro hcursor
    by_cases hinner : Word.isInnerAt line cursor = true
    · exact ⟨cursor, hinner, .inl rfl⟩
    · obtain ⟨hpos, hpred⟩ := hcursor.resolve_left hinner
      exact ⟨cursor - 1, hpred, .inr ⟨eq_false_of_ne_true hinner, Nat.sub_add_cancel hpos⟩⟩

theorem isAnchor_of_anchor? {line : Line} {cursor offset : Nat}
    (hanchor : anchor? line cursor = some offset) : IsAnchor line cursor offset := by
  rw [anchor?] at hanchor
  split_ifs at hanchor with hinner hpred
  · cases hanchor
    exact ⟨hinner, .inl rfl⟩
  · cases hanchor
    exact ⟨hpred.2, .inr ⟨eq_false_of_ne_true hinner, Nat.sub_add_cancel hpred.1⟩⟩

theorem exists_isAnchor_of_isSome_at? {doc : Document} {point : Point}
    (htoken : (at? doc point).isSome = true) :
    ∃ line, doc.line? point.line.toNat = some line ∧
      ∃ offset, IsAnchor line point.column.toNat offset := by
  obtain ⟨token, htoken⟩ := Option.isSome_iff_exists.mp htoken
  obtain ⟨line, hline, hrest⟩ := Option.bind_eq_some_iff.mp htoken
  obtain ⟨offset, hanchor, -⟩ := Option.bind_eq_some_iff.mp hrest
  exact ⟨line, hline, offset, isAnchor_of_anchor? hanchor⟩

/-- A line can be cut around the word that a cursor is on, which then stands in
the word or directly behind it. -/
theorem exists_isCut_of_isAnchor {line : Line} {cursor offset : Nat}
    (hanchor : IsAnchor line cursor offset) :
    ∃ before word behind, Word.IsCut before word behind ∧ line = before ++ word ++ behind ∧
      before.length ≤ offset ∧ offset < before.length + word.length ∧
      before.length ≤ cursor ∧ cursor ≤ before.length + word.length := by
  obtain ⟨hinner, hcursor⟩ := hanchor
  obtain ⟨before, word, behind, hcut, hline, hfirst, hlast⟩ :=
    Word.exists_isCut_of_isInnerAt hinner
  refine ⟨before, word, behind, hcut, hline, hfirst, hlast, ?_, ?_⟩
  · omega
  · omega

def ofCut (number : UInt32) (before word behind : List Char) : Token :=
  ofRun (before ++ word ++ behind) number before.length.toUInt32
    (before.length + word.length).toUInt32

/-- From every cursor in a word or directly behind it the token is that of the
cut around the word. -/
theorem at?_eq_some_ofCut {doc : Document} {number : UInt32} {before word behind : List Char}
    (hline : doc.line? number.toNat = some (before ++ word ++ behind))
    (hlength : (before ++ word ++ behind).length < UInt32.size)
    (hcut : Word.IsCut before word behind) (hword : word ≠ []) {column : UInt32}
    (hfrom : before.length ≤ column.toNat) (hto : column.toNat ≤ before.length + word.length) :
    at? doc ⟨number, column⟩ = some (ofCut number before word behind) := by
  simp only [List.length_append] at hlength
  have hstart : before.length.toUInt32.toNat = before.length :=
    UInt32.toNat_ofNat_of_lt' (by omega)
  have hstop : (before.length + word.length).toUInt32.toNat = before.length + word.length :=
    UInt32.toNat_ofNat_of_lt' (by omega)
  apply at?_eq_some_ofRun hline hcut hword hstart hstop
  · rwa [UInt32.le_iff_toNat_le, hstart]
  · rwa [UInt32.le_iff_toNat_le, hstop]

/-- The token of a cursor on a word character is the run around it, which is the
token of all cursors from its start to its end. -/
theorem exists_run_of_isAnchor {doc : Document} {point : Point} {line : Line} {offset : Nat}
    (hline : doc.line? point.line.toNat = some line) (hlength : line.length < UInt32.size)
    (hanchor : IsAnchor line point.column.toNat offset) :
    ∃ start stop : UInt32, Word.IsRun line start.toNat stop.toNat ∧
      start.toNat ≤ offset ∧ offset < stop.toNat ∧
      at? doc point = some (ofRun line point.line start stop) ∧
      ∀ column, start ≤ column → column ≤ stop →
        at? doc ⟨point.line, column⟩ = at? doc point := by
  obtain ⟨before, word, behind, hcut, rfl, hfirst, hlast, hfrom, hto⟩ :=
    exists_isCut_of_isAnchor hanchor
  have hword : word ≠ [] := by
    rintro rfl
    rw [List.length_nil] at hlast
    omega
  have hpoint := at?_eq_some_ofCut hline hlength hcut hword hfrom hto
  have hfit : before.length + word.length < UInt32.size := by
    simp only [List.length_append] at hlength
    omega
  have hstart : before.length.toUInt32.toNat = before.length :=
    UInt32.toNat_ofNat_of_lt' (by omega)
  have hstop : (before.length + word.length).toUInt32.toNat = before.length + word.length :=
    UInt32.toNat_ofNat_of_lt' hfit
  refine ⟨before.length.toUInt32, (before.length + word.length).toUInt32, ?_, ?_, ?_, hpoint, ?_⟩
  · rw [hstart, hstop]
    exact hcut.isRun hword
  · rwa [hstart]
  · rwa [hstop]
  · intro column hfrom hto
    rw [UInt32.le_iff_toNat_le, hstart] at hfrom
    rw [UInt32.le_iff_toNat_le, hstop] at hto
    exact (at?_eq_some_ofCut hline hlength hcut hword hfrom hto).trans hpoint.symm

/-- There is a token if the cursor is on a word character of an existing line,
and it is the maximal run around that character, with the quotes next to it.
All columns of the run and the one behind it give the same token. -/
theorem at?_eq_maximal_run (doc : Document) (point : Point)
    (hlength : (doc.lineText point.line.toNat).length < UInt32.size - 1) :
    ((at? doc point).isSome = true ↔ ∃ line, doc.line? point.line.toNat = some line ∧
        (Word.isInnerAt line point.column.toNat = true ∨
          0 < point.column.toNat ∧ Word.isInnerAt line (point.column.toNat - 1) = true)) ∧
      ∀ line offset, doc.line? point.line.toNat = some line →
        IsAnchor line point.column.toNat offset →
        ∃ start stop : UInt32, Word.IsRun line start.toNat stop.toNat ∧
          start.toNat ≤ offset ∧ offset < stop.toNat ∧
          at? doc point = some (ofRun line point.line start stop) ∧
          ∀ column, start ≤ column → column ≤ stop →
            at? doc ⟨point.line, column⟩ = at? doc point := by
  have hfit : ∀ line, doc.line? point.line.toNat = some line → line.length < UInt32.size := by
    intro line hline
    rw [Document.lineText, hline, Option.getD_some] at hlength
    omega
  refine ⟨⟨?_, ?_⟩, ?_⟩
  · intro hsome
    obtain ⟨line, hline, hanchor⟩ := exists_isAnchor_of_isSome_at? hsome
    exact ⟨line, hline, (exists_isAnchor_iff line point.column.toNat).mp hanchor⟩
  · rintro ⟨line, hline, hcursor⟩
    obtain ⟨offset, hanchor⟩ := (exists_isAnchor_iff line point.column.toNat).mpr hcursor
    obtain ⟨start, stop, -, -, -, htoken, -⟩ :=
      exists_run_of_isAnchor hline (hfit line hline) hanchor
    rw [htoken, Option.isSome_some]
  · intro line offset hline hanchor
    exact exists_run_of_isAnchor hline (hfit line hline) hanchor

/-- The cursor stands behind a word in quotes, which ends the line. -/
theorem at?_eq_maximal_run_in_quotes :
    let doc := Document.ofString "on init\r\nset(\"alpha\""
    (doc.lineText 1).length < UInt32.size - 1 ∧
      IsAnchor (doc.lineText 1) 10 9 ∧
      ∃ start stop : UInt32, Word.IsRun (doc.lineText 1) start.toNat stop.toNat ∧
        start.toNat ≤ 9 ∧ 9 < stop.toNat ∧
        at? doc ⟨1, 10⟩ = some (ofRun (doc.lineText 1) 1 start stop) ∧
        at? doc ⟨1, 10⟩ = some ⟨"\"alpha\"", ⟨⟨1, 5⟩, ⟨1, 10⟩⟩⟩ := by
  intro doc
  have hlength : (doc.lineText 1).length < UInt32.size - 1 := by decide
  have hanchor : IsAnchor (doc.lineText 1) 10 9 := by decide
  obtain ⟨start, stop, hrun, hfirst, hlast, htoken, -⟩ :=
    (at?_eq_maximal_run doc ⟨1, 10⟩ hlength).2 (doc.lineText 1) 9 (by decide) hanchor
  exact ⟨hlength, hanchor, start, stop, hrun, hfirst, hlast, htoken, by decide⟩

end Token

end KontaktScript
