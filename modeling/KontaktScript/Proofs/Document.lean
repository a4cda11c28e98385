import KontaktScript.Document
import Mathlib.Data.String.Basic

/-!
# The lines of a document

Lines are cut out of a text by byte offsets.  Here these offsets are tied to the
characters: line by line a document holds the pieces of its text between line
feeds, each without one carriage return at its end.  All cuts fall between two
characters, and the offsets are those of the bytes `0x0A`, as no other character
than a line feed has that byte in its encoding.
-/

namespace KontaktScript

open Text

/-- A text is a single line, or a line, a line feed and another text. -/
theorem lines_induction {motive : List Char → Prop}
    (last : ∀ line, '\n' ∉ line → motive line)
    (more : ∀ line rest, '\n' ∉ line → motive rest → motive (line ++ '\n' :: rest))
    (text : List Char) : motive text := by
  have hread : ∀ line, '\n' ∉ line → motive (line ++ text) := by
    induction text with
    | nil =>
        intro line hline
        rw [List.append_nil]
        exact last line hline
    | cons c text ih =>
        intro line hline
        by_cases hc : c = '\n'
        · subst hc
          have hrest : motive text := ih [] List.not_mem_nil
          exact more line text hline hrest
        · have hnext : '\n' ∉ line ++ [c] := by
            simp [hline, Ne.symm hc]
          rw [List.append_cons]
          exact ih (line ++ [c]) hnext
  exact hread [] List.not_mem_nil

theorem lineStartsFrom_append {line : List Char} (hline : '\n' ∉ line) (offset : Nat)
    (rest : List Char) :
    lineStartsFrom offset (line ++ rest) =
      lineStartsFrom (offset + String.utf8Len line) rest := by
  induction line generalizing offset with
  | nil => rfl
  | cons c line ih =>
      have hc : c ≠ '\n' := fun heq => hline (by simp [heq])
      have htail : '\n' ∉ line := fun hmem => hline (List.mem_cons_of_mem c hmem)
      rw [List.cons_append, lineStartsFrom, if_neg hc, ih htail, String.utf8Len_cons]
      congr 1
      omega

/-- A text without a line feed has one line only. -/
theorem lineStartsFrom_of_not_mem {line : List Char} (hline : '\n' ∉ line) (offset : Nat) :
    lineStartsFrom offset line = [] := by
  have hempty := lineStartsFrom_append hline offset []
  rwa [List.append_nil] at hempty

/-- The line behind a line feed starts right behind it. -/
theorem lineStartsFrom_append_feed {line : List Char} (hline : '\n' ∉ line) (offset : Nat)
    (rest : List Char) :
    let next := offset + String.utf8Len line + 1
    lineStartsFrom offset (line ++ '\n' :: rest) = next :: lineStartsFrom next rest := by
  rw [lineStartsFrom_append hline]
  rfl

theorem length_lineStartsFrom (offset : Nat) (text : List Char) :
    (lineStartsFrom offset text).length = text.count '\n' := by
  induction text generalizing offset with
  | nil => rfl
  | cons c text ih =>
      rw [lineStartsFrom]
      by_cases hc : c = '\n'
      · rw [if_pos hc, List.length_cons, ih, hc, List.count_cons_self]
      · rw [if_neg hc, ih, List.count_cons_of_ne hc]

theorem length_splitOn_feed (text : List Char) :
    (text.splitOn '\n').length = text.count '\n' + 1 := by
  induction text using lines_induction with
  | last line hline =>
      rw [List.splitOn_eq_singleton hline, List.count_eq_zero_of_not_mem hline]
      rfl
  | more line rest hline ih =>
      rw [List.splitOn_append_cons_self_of_not_mem hline, List.length_cons, ih,
        List.count_append, List.count_eq_zero_of_not_mem hline, List.count_cons_self]
      omega

/-- Piece number `i` of a text that starts at byte `offset`, between what stands
before it and what stands behind it.  The piece starts where line `i` does, and
the next line, if there is one, starts one byte behind the piece. -/
structure IsPiece (offset : Nat) (text : List Char) (i : Nat)
    (before piece behind : List Char) : Prop where
  text_eq : text = before ++ piece ++ behind
  start_eq : (offset :: lineStartsFrom offset text)[i]? = some (offset + String.utf8Len before)
  next_eq : (lineStartsFrom offset text)[i]? =
    if behind = [] then none else some (offset + String.utf8Len (before ++ piece) + 1)

/-- Every piece of a text stands where the starts of its lines say. -/
theorem exists_isPiece (text : List Char) {i : Nat} {piece : List Char}
    (hpiece : (text.splitOn '\n')[i]? = some piece) (offset : Nat) :
    ∃ before behind, IsPiece offset text i before piece behind := by
  induction text using lines_induction generalizing i offset with
  | last line hline =>
      rw [List.splitOn_eq_singleton hline] at hpiece
      cases i with
      | zero =>
          cases hpiece
          refine ⟨[], [], ?_, rfl, ?_⟩
          · simp
          · rw [lineStartsFrom_of_not_mem hline]
            rfl
      | succ i => cases hpiece
  | more line rest hline ih =>
      rw [List.splitOn_append_cons_self_of_not_mem hline] at hpiece
      have hstarts := lineStartsFrom_append_feed hline offset rest
      cases i with
      | zero =>
          cases hpiece
          refine ⟨[], '\n' :: rest, ?_, rfl, ?_⟩
          · simp
          · rw [hstarts]
            rfl
      | succ i =>
          obtain ⟨before, behind, hrest⟩ := ih hpiece (offset + String.utf8Len line + 1)
          have hlength : String.utf8Len (line ++ '\n' :: before) =
              String.utf8Len line + 1 + String.utf8Len before := by
            rw [String.utf8Len_append, String.utf8Len_cons]
            have hfeed : '\n'.utf8Size = 1 := rfl
            omega
          refine ⟨line ++ '\n' :: before, behind, ?_, ?_, ?_⟩
          · rw [hrest.text_eq]
            simp
          · rw [hstarts, List.getElem?_cons_succ, hrest.start_eq, hlength]
            congr 1
            omega
          · rw [hstarts, List.getElem?_cons_succ, hrest.next_eq, String.utf8Len_append,
              String.utf8Len_append, hlength]
            congr 2
            omega

namespace Document

variable (doc : Document)

theorem toList_starts : doc.starts.toList = lineStartsFrom 0 doc.text.toList := by
  rw [doc.starts_eq]
  rfl

theorem lineCount_eq : doc.lineCount = doc.text.toList.count '\n' + 1 := by
  rw [lineCount, ← Array.length_toList, toList_starts, length_lineStartsFrom]

/-- The pieces of the text between line feeds. -/
def pieces : List (List Char) :=
  doc.text.toList.splitOn '\n'

theorem length_pieces : doc.pieces.length = doc.lineCount := by
  rw [pieces, length_splitOn_feed, lineCount_eq]

theorem lineBounds?_eq (i : Nat) :
    doc.lineBounds? i = ((0 :: doc.starts.toList)[i]?).map fun start =>
      (start, (doc.starts.toList[i]?.map (· - 1)).getD doc.text.utf8ByteSize) := by
  rw [Array.getElem?_toList]
  cases i with
  | zero =>
      simp only [lineBounds?]
      cases doc.starts[0]? <;> rfl
  | succ before =>
      rw [List.getElem?_cons_succ, Array.getElem?_toList]
      simp only [lineBounds?]
      cases doc.starts[before]? <;> cases doc.starts[before + 1]? <;> rfl

theorem text_eq_ofList {i : Nat} {before piece behind : List Char}
    (hpiece : IsPiece 0 doc.text.toList i before piece behind) :
    doc.text = String.ofList (before ++ piece ++ behind) := by
  rw [← hpiece.text_eq, String.ofList_toList]

/-- The bytes of a line are those of its piece. -/
theorem lineBounds?_eq_some {i : Nat} {before piece behind : List Char}
    (hpiece : IsPiece 0 doc.text.toList i before piece behind) :
    doc.lineBounds? i =
      some (String.utf8Len before, String.utf8Len before + String.utf8Len piece) := by
  have hsize : doc.text.utf8ByteSize = String.utf8Len (before ++ piece ++ behind) := by
    rw [← String.utf8ByteSize_ofList, ← doc.text_eq_ofList hpiece]
  rw [lineBounds?_eq, toList_starts, hpiece.start_eq, hpiece.next_eq, hsize]
  by_cases hbehind : behind = []
  · simp [hbehind]
  · simp [hbehind]

/-- A line is the piece with its number, without a carriage return at its
end. -/
theorem line?_eq (i : Nat) : doc.line? i = (doc.pieces[i]?).map dropReturn := by
  cases hpiece : doc.pieces[i]? with
  | none =>
      have hout : doc.lineCount ≤ i := by
        rw [← length_pieces]
        exact List.getElem?_eq_none_iff.mp hpiece
      have hstart : (0 :: doc.starts.toList)[i]? = none := by
        apply List.getElem?_eq_none
        rwa [List.length_cons, Array.length_toList]
      rw [line?, lineBounds?_eq, hstart]
      rfl
  | some piece =>
      obtain ⟨before, behind, hplace⟩ := exists_isPiece doc.text.toList hpiece 0
      rw [line?, doc.lineBounds?_eq_some hplace, Option.map_some, Option.map_some,
        doc.text_eq_ofList hplace, String.extract_of_valid, String.toList_ofList]

theorem line?_eq_none_iff (i : Nat) : doc.line? i = none ↔ doc.lineCount ≤ i := by
  rw [line?_eq, Option.map_eq_none_iff, List.getElem?_eq_none_iff, length_pieces]

theorem lineText_of_line? {doc : Document} {i : Nat} {line : Line}
    (hline : doc.line? i = some line) : doc.lineText i = line := by
  rw [lineText, hline, Option.getD_some]

theorem lineText_of_line?_eq_none {doc : Document} {i : Nat} (hline : doc.line? i = none) :
    doc.lineText i = [] := by
  rw [lineText, hline, Option.getD_none]

/-- Two byte offsets between which a text can be cut out: both are offsets of
characters or the end of the text, and they are in order. -/
structure IsSlice (text : String) (start stop : Nat) : Prop where
  start_le_stop : start ≤ stop
  stop_le_size : stop ≤ text.utf8ByteSize
  start_isValid : String.Pos.Raw.IsValid text ⟨start⟩
  stop_isValid : String.Pos.Raw.IsValid text ⟨stop⟩

theorem isValid_utf8Len (left right : List Char) :
    String.Pos.Raw.IsValid (String.ofList (left ++ right)) ⟨String.utf8Len left⟩ := by
  rw [String.Pos.Raw.isValid_iff_exists_append]
  refine ⟨String.ofList left, String.ofList right, String.ofList_append, ?_⟩
  rw [String.rawEndPos_ofList]

/-- A line is cut out between characters. -/
theorem isSlice_of_lineBounds? {i start stop : Nat}
    (hbounds : doc.lineBounds? i = some (start, stop)) : IsSlice doc.text start stop := by
  have hsome : doc.line? i ≠ none := by
    rw [line?, hbounds]
    exact Option.some_ne_none _
  rw [line?_eq, Ne, Option.map_eq_none_iff] at hsome
  obtain ⟨piece, hpiece⟩ := Option.ne_none_iff_exists'.mp hsome
  obtain ⟨before, behind, hplace⟩ := exists_isPiece doc.text.toList hpiece 0
  rw [doc.lineBounds?_eq_some hplace] at hbounds
  cases hbounds
  have htext := doc.text_eq_ofList hplace
  constructor
  · exact Nat.le_add_right _ _
  · rw [htext, String.utf8ByteSize_ofList, String.utf8Len_append, String.utf8Len_append]
    exact Nat.le_add_right _ _
  · rw [htext, List.append_assoc]
    exact isValid_utf8Len before (piece ++ behind)
  · rw [htext, ← String.utf8Len_append]
    exact isValid_utf8Len (before ++ piece) behind

end Document

/-! ## Bytes -/

/-- No character but a line feed has the byte of one in its encoding. -/
theorem ne_feed_of_mem_utf8EncodeChar {c : Char} (hc : c ≠ '\n') :
    ∀ byte ∈ String.utf8EncodeChar c, byte ≠ 0x0A := by
  have hvalue : c.val.toNat ≠ 10 := by
    intro heq
    apply hc
    exact Char.toNat_inj.mp heq
  intro byte hbyte heq
  subst heq
  have hten : ∀ n, n < 256 → (10 : UInt8) = UInt8.ofNat n → n = 10 := by
    intro n hn heq
    have hnat := congrArg UInt8.toNat heq
    rw [UInt8.toNat_ofNat_of_lt' hn] at hnat
    exact hnat.symm
  simp only [String.utf8EncodeChar] at hbyte
  split_ifs at hbyte with hone htwo hthree <;>
    simp only [List.mem_cons, List.not_mem_nil, or_false] at hbyte
  · exact hvalue (hten _ (by omega) hbyte)
  · rcases hbyte with hbyte | hbyte <;>
      exact absurd (hten _ (by omega) hbyte) (by omega)
  · rcases hbyte with hbyte | hbyte | hbyte <;>
      exact absurd (hten _ (by omega) hbyte) (by omega)
  · rcases hbyte with hbyte | hbyte | hbyte | hbyte <;>
      exact absurd (hten _ (by omega) hbyte) (by omega)

/-- Lines start behind the bytes that are line feeds. -/
theorem lineStartsFrom_eq_idxsOf (offset : Nat) (text : List Char) :
    lineStartsFrom offset text =
      (text.flatMap String.utf8EncodeChar).idxsOf 0x0A (offset + 1) := by
  induction text generalizing offset with
  | nil => rfl
  | cons c text ih =>
      have hlength : (String.utf8EncodeChar c).length = c.utf8Size :=
        String.length_utf8EncodeChar c
      rw [lineStartsFrom, List.flatMap_cons, List.idxsOf_append, hlength, ih]
      by_cases hc : c = '\n'
      · subst hc
        rfl
      · have hnone : (String.utf8EncodeChar c).idxsOf 0x0A (offset + 1) = [] := by
          rw [List.idxsOf_eq_nil_iff]
          intro byte hbyte
          simpa using ne_feed_of_mem_utf8EncodeChar hc byte hbyte
        rw [if_neg hc, hnone, List.nil_append]
        congr 1
        omega

namespace Document

theorem toList_starts_eq_bytes (doc : Document) :
    doc.starts.toList = (doc.text.toUTF8.data.toList.idxsOf 0x0A).map (· + 1) := by
  have hbytes : doc.text.toUTF8.data.toList = doc.text.toList.flatMap String.utf8EncodeChar := by
    rw [String.toUTF8_eq_toByteArray, ← String.utf8Encode_toList, List.utf8Encode]
    simp
  rw [toList_starts, lineStartsFrom_eq_idxsOf, hbytes, List.idxsOf_start]

/-- The line that a piece of a text holds: one carriage return at the end of the
piece is no part of it. -/
def IsLineOf (line piece : List Char) : Prop :=
  piece = line ++ ['\r'] ∨ piece = line ∧ ¬ ['\r'] <:+ piece

theorem dropReturn_eq_iff {piece line : List Char} :
    dropReturn piece = line ↔ IsLineOf line piece := by
  rw [dropReturn, IsLineOf]
  rcases List.eq_nil_or_concat' piece with rfl | ⟨piece, c, rfl⟩
  · simp
  · by_cases hc : c = '\r'
    · subst hc
      simp
    · have hreturn : '\r' ≠ c := fun heq => hc heq.symm
      simp [hc, hreturn]

/-- The lines of a document are the pieces of its text between line feeds, each
without one carriage return at its end.  Lines start right behind the bytes that
are line feeds, so no start is zero, and all cuts fall between characters. -/
theorem line?_eq_piece (text : String) :
    let doc := ofString text
    doc.lineCount = text.toList.count '\n' + 1 ∧
      doc.starts.toList = (text.toUTF8.data.toList.idxsOf 0x0A).map (· + 1) ∧
      ∀ i,
        (doc.line? i = none ↔ doc.lineCount ≤ i) ∧
        (∀ line, doc.line? i = some line ↔
          ∃ piece, (text.toList.splitOn '\n')[i]? = some piece ∧ IsLineOf line piece) ∧
        (∀ line, doc.line? i = some line → doc.lineText i = line) ∧
        (doc.line? i = none → doc.lineText i = []) ∧
        ((doc.lineBounds? i).isSome ↔ (doc.line? i).isSome) ∧
        (∀ start stop, doc.lineBounds? i = some (start, stop) → IsSlice text start stop) ∧
        ∀ next, doc.starts[i]? = some next → 0 < next := by
  intro doc
  have hstarts : doc.starts.toList = (text.toUTF8.data.toList.idxsOf 0x0A).map (· + 1) :=
    doc.toList_starts_eq_bytes
  refine ⟨doc.lineCount_eq, hstarts, ?_⟩
  intro i
  refine ⟨doc.line?_eq_none_iff i, ?_, ?_, ?_, ?_, ?_, ?_⟩
  · intro line
    rw [line?_eq, Option.map_eq_some_iff]
    simp only [dropReturn_eq_iff]
    rfl
  · intro line hline
    exact lineText_of_line? hline
  · intro hline
    exact lineText_of_line?_eq_none hline
  · rw [line?, Option.isSome_map]
  · intro start stop hbounds
    exact doc.isSlice_of_lineBounds? hbounds
  · intro next hnext
    have hmem : next ∈ doc.starts.toList := by
      rw [← Array.getElem?_toList] at hnext
      exact List.mem_of_getElem? hnext
    rw [hstarts] at hmem
    obtain ⟨feed, -, rfl⟩ := List.mem_map.mp hmem
    exact Nat.succ_pos feed

example : (List.range 4).map (ofString "a\r\r\n\rb\n").line? =
    [some ['a', '\r'], some ['\r', 'b'], some [], none] := by decide

end Document

end KontaktScript
