import KontaktScript.Proofs.Word

/-!
# The extent of a word

A word starts directly behind the nearest boundary before the cursor and ends
directly before the nearest one behind it.  Only the search for a boundary is
confined to the line: where there is none, the cursor itself is the answer,
however far past the end of the line it lies.

Cursors are numbers of 64 bits.  The searches stay on the line and their
arithmetic does not overflow, not even from the largest cursor.
-/

namespace KontaktScript.Word

open Text

/-- Whether a boundary stands at an offset of a line. -/
def isBoundaryAt (chars : Line) (i : Nat) : Bool :=
  (chars[i]?).any isBoundary

/-- No boundary stands on a line from offset `start` up to `stop`. -/
def IsFree (line : Line) (start stop : Nat) : Prop :=
  ∀ i, start ≤ i → i < stop → isBoundaryAt line i = false

/-- Behind the boundary before `start` there is none up to the cursor. -/
structure IsStart (line : Line) (cursor start : Nat) : Prop where
  pos : 1 ≤ start
  le : start ≤ min cursor line.length
  boundary : isBoundaryAt line (start - 1) = true
  free : IsFree line start (min cursor line.length)

/-- Behind the cursor there is no boundary up to the one behind `stop`. -/
structure IsStop (line : Line) (cursor stop : Nat) : Prop where
  le : cursor ≤ stop
  lt : stop + 1 < line.length
  boundary : isBoundaryAt line (stop + 1) = true
  free : IsFree line (cursor + 1) (stop + 1)

theorem IsFree.le_of_boundary {line : Line} {start stop i : Nat} (hfree : IsFree line start stop)
    (hboundary : isBoundaryAt line i = true) (hstart : start ≤ i) : stop ≤ i := by
  by_contra hlt
  rw [hfree i hstart (Nat.lt_of_not_le hlt)] at hboundary
  cases hboundary

theorem IsFree.not_isStart {line : Line} {cursor start : Nat}
    (hfree : IsFree line 0 (min cursor line.length)) : ¬ IsStart line cursor start := by
  intro hstart
  have hnear := hfree.le_of_boundary hstart.boundary (Nat.zero_le _)
  have hle := hstart.le
  have hpos := hstart.pos
  omega

theorem IsFree.not_isStop {line : Line} {cursor stop : Nat}
    (hfree : IsFree line (cursor + 1) line.length) : ¬ IsStop line cursor stop := by
  intro hstop
  have hnear := hfree.le_of_boundary hstop.boundary (Nat.succ_le_succ hstop.le)
  exact Nat.not_le_of_lt hstop.lt hnear

theorem IsStart.unique {line : Line} {cursor start other : Nat}
    (hstart : IsStart line cursor start) (hother : IsStart line cursor other) :
    start = other := by
  have hle := hstart.le
  have hle' := hother.le
  have hpos := hstart.pos
  have hpos' := hother.pos
  have hnear := hstart.free.le_of_boundary hother.boundary
  have hnear' := hother.free.le_of_boundary hstart.boundary
  omega

theorem IsStop.unique {line : Line} {cursor stop other : Nat}
    (hstop : IsStop line cursor stop) (hother : IsStop line cursor other) :
    stop = other := by
  have hle := hstop.free.le_of_boundary hother.boundary (Nat.succ_le_succ hother.le)
  have hge := hother.free.le_of_boundary hstop.boundary (Nat.succ_le_succ hstop.le)
  omega

theorem isBoundaryAt_append (before : List Char) (c : Char) (behind : List Char) :
    isBoundaryAt (before ++ c :: behind) before.length = isBoundary c := by
  simp [isBoundaryAt]

theorem isFree_append {word : List Char} (hword : ∀ c ∈ word, isInner c = true)
    (before behind : List Char) :
    IsFree (before ++ word ++ behind) before.length (before.length + word.length) := by
  intro i hstart hstop
  rw [isBoundaryAt, List.getElem?_append_left (by simpa using hstop),
    List.getElem?_append_right hstart]
  cases hchar : word[i - before.length]? with
  | none => rfl
  | some c => exact isBoundary_eq_false_iff.mpr (hword c (List.mem_of_getElem? hchar))

theorem isFree_or_isStart_first (line : Line) (cursor : Nat) :
    IsFree line 0 (min cursor line.length) ∧ first line cursor = cursor ∨
      IsStart line cursor (first line cursor) := by
  obtain ⟨before, left, right, behind, hcut, htake, hdrop⟩ := exists_isCut_at line cursor
  have hline : line = before ++ left ++ (right ++ behind) := by
    rw [← htake, ← hdrop, List.take_append_drop]
  have hreach : min cursor line.length = before.length + left.length := by
    rw [← List.length_take, htake, List.length_append]
  have hfree : IsFree line before.length (min cursor line.length) := by
    rw [hreach, hline]
    exact isFree_append (fun c hc => hcut.inner c (List.mem_append_left right hc)) _ _
  rw [hcut.first_of_take htake]
  rcases List.eq_nil_or_concat' before with rfl | ⟨front, c, rfl⟩
  · exact .inl ⟨hfree, if_pos rfl⟩
  · right
    have hlength : (front ++ [c]).length = front.length + 1 := List.length_append
    have hfront : line = front ++ c :: (left ++ (right ++ behind)) := by
      rw [hline, List.append_assoc, List.append_assoc, List.singleton_append]
    have hclosed : isInner c = false := by simpa using hcut.before_closed
    rw [if_neg (List.append_ne_nil_of_right_ne_nil front (List.cons_ne_nil c []))]
    refine ⟨?_, ?_, ?_, hfree⟩
    · rw [hlength]
      exact Nat.succ_pos _
    · rw [hreach]
      exact Nat.le_add_right _ _
    · rw [hlength, Nat.add_sub_cancel, hfront, isBoundaryAt_append]
      simpa [isInner] using hclosed

theorem isFree_or_isStop_last (line : Line) (cursor : Nat) :
    IsFree line (cursor + 1) line.length ∧ last line cursor = cursor ∨
      IsStop line cursor (last line cursor) := by
  obtain ⟨before, left, right, behind, hcut, htake, hdrop⟩ := exists_isCut_at line (cursor + 1)
  have hline : line = before ++ left ++ right ++ behind := by
    rw [List.append_assoc, ← htake, ← hdrop, List.take_append_drop]
  have hreach : (before ++ left).length = min (cursor + 1) line.length := by
    rw [← htake, List.length_take]
  have hrest : right.length + behind.length = line.length - (cursor + 1) := by
    rw [← List.length_append, ← hdrop, List.length_drop]
  have hfree : IsFree line (before ++ left).length ((before ++ left).length + right.length) := by
    rw [hline]
    exact isFree_append (fun c hc => hcut.inner c (List.mem_append_right left hc)) _ _
  rw [hcut.last_of_drop hdrop]
  cases behind with
  | nil =>
      left
      refine ⟨?_, if_pos rfl⟩
      intro i hcursor hend
      rw [List.length_nil] at hrest
      exact hfree i (by omega) (by omega)
  | cons c behind =>
      right
      rw [List.length_cons] at hrest
      have hstart : (before ++ left).length = cursor + 1 := by omega
      have hstop : (before ++ left ++ right).length = cursor + right.length + 1 := by
        rw [List.length_append, hstart]
        exact Nat.add_right_comm _ _ _
      have hclosed : isInner c = false := hcut.behind_closed
      rw [if_neg (List.cons_ne_nil c behind)]
      refine ⟨Nat.le_add_right _ _, by omega, ?_, ?_⟩
      · rw [← hstop, hline, isBoundaryAt_append]
        simpa [isInner] using hclosed
      · rw [hstart, Nat.add_right_comm] at hfree
        exact hfree

/-- An answer that is the cursor, or else the one offset with a property which
excludes that, is told apart from all other offsets. -/
theorem answer_eq_iff {free : Prop} {IsEnd : Nat → Prop} {answer cursor : Nat}
    (hanswer : free ∧ answer = cursor ∨ IsEnd answer)
    (hfree : ∀ offset, free → ¬ IsEnd offset)
    (hunique : ∀ offset other, IsEnd offset → IsEnd other → offset = other) (offset : Nat) :
    answer = offset ↔ free ∧ offset = cursor ∨ IsEnd offset := by
  constructor
  · rintro rfl
    exact hanswer
  · rintro (⟨hnone, rfl⟩ | hend)
    · exact (hanswer.resolve_right (hfree answer hnone)).2
    · exact hunique _ _ (hanswer.resolve_left fun hstay => hfree offset hstay.1 hend) hend

theorem first_eq_iff (line : Line) (cursor start : Nat) :
    first line cursor = start ↔
      IsFree line 0 (min cursor line.length) ∧ start = cursor ∨ IsStart line cursor start :=
  answer_eq_iff (isFree_or_isStart_first line cursor) (fun _ hfree => hfree.not_isStart)
    (fun _ _ => IsStart.unique) start

theorem last_eq_iff (line : Line) (cursor stop : Nat) :
    last line cursor = stop ↔
      IsFree line (cursor + 1) line.length ∧ stop = cursor ∨ IsStop line cursor stop :=
  answer_eq_iff (isFree_or_isStop_last line cursor) (fun _ hfree => hfree.not_isStop)
    (fun _ _ => IsStop.unique) stop

theorem first_le (line : Line) (cursor : Nat) : first line cursor ≤ cursor := by
  rcases isFree_or_isStart_first line cursor with ⟨-, hstay⟩ | hstart
  · exact Nat.le_of_eq hstay
  · exact Nat.le_trans hstart.le (Nat.min_le_left _ _)

theorem le_last (line : Line) (cursor : Nat) : cursor ≤ last line cursor := by
  rcases isFree_or_isStop_last line cursor with ⟨-, hstay⟩ | hstop
  · exact Nat.le_of_eq hstay.symm
  · exact hstop.le

/-! ## Offsets of 64 bits -/

/-- The next number, unless it takes more than 64 bits. -/
def succ64? (i : UInt64) : Option UInt64 :=
  if i.toNat + 1 < UInt64.size then some (i + 1) else none

/-- The number before, unless there is none. -/
def pred64? (i : UInt64) : Option UInt64 :=
  if 0 < i.toNat then some (i - 1) else none

/-- The offsets from `start` up to `stop`, in this order. -/
def offsets64 (start stop : UInt64) : List UInt64 :=
  (List.range' start.toNat (stop.toNat - start.toNat)).map Nat.toUInt64

/-- Whether a boundary stands at an offset, which has to lie on the line. -/
def boundaryAt64? (chars : Line) (i : UInt64) : Option Bool :=
  (chars[i.toNat]?).map isBoundary

/-- The cursor, or the end of the line if the cursor lies behind it. -/
def reach64 (line : Line) (cursor : UInt64) : UInt64 :=
  if cursor ≤ line.length.toUInt64 then cursor else line.length.toUInt64

/-- The first offset of the word that holds the cursor.  Fails where an offset
leaves the line or becomes too large. -/
def first64? (line : Line) (cursor : UInt64) : Option UInt64 := do
  let nearest ← (offsets64 0 (reach64 line cursor)).reverse.findM? (boundaryAt64? line)
  nearest.elim (some cursor) succ64?

/-- The last offset of the word that holds the cursor.  Fails where an offset
leaves the line or becomes negative.  The search starts behind the cursor, but at
the cursor if that is the largest number. -/
def last64? (line : Line) (cursor : UInt64) : Option UInt64 := do
  let behind := (succ64? cursor).getD cursor
  let nearest ← (offsets64 behind line.length.toUInt64).findM? (boundaryAt64? line)
  nearest.elim (some cursor) pred64?

theorem exists_succ64? {i : UInt64} (hfits : i.toNat + 1 < UInt64.size) :
    ∃ next, succ64? i = some next ∧ next.toNat = i.toNat + 1 := by
  refine ⟨i + 1, if_pos hfits, ?_⟩
  rw [UInt64.toNat_add]
  exact Nat.mod_eq_of_lt hfits

theorem exists_pred64? {i : UInt64} (hpos : 0 < i.toNat) :
    ∃ previous, pred64? i = some previous ∧ previous.toNat = i.toNat - 1 :=
  ⟨i - 1, if_pos hpos, UInt64.toNat_sub_of_le i 1 (UInt64.le_iff_toNat_le.mpr hpos)⟩

theorem toNat_reach64 {line : Line} (hlength : line.length < UInt64.size) (cursor : UInt64) :
    (reach64 line cursor).toNat = min cursor.toNat line.length := by
  have hend : line.length.toUInt64.toNat = line.length := UInt64.toNat_ofNat_of_lt' hlength
  have hle_iff : cursor ≤ line.length.toUInt64 ↔ cursor.toNat ≤ line.length := by
    rw [UInt64.le_iff_toNat_le, hend]
  by_cases hle : cursor ≤ line.length.toUInt64
  · rw [reach64, if_pos hle, Nat.min_eq_left (hle_iff.mp hle)]
  · rw [reach64, if_neg hle, hend, Nat.min_eq_right (Nat.le_of_not_le (mt hle_iff.mpr hle))]

theorem toNat_toUInt64_of_lt {n : Nat} {stop : UInt64} (hn : n < stop.toNat) :
    n.toUInt64.toNat = n :=
  UInt64.toNat_ofNat_of_lt' (Nat.lt_trans hn stop.toNat_lt_size)

theorem mem_offsets64 {start stop i : UInt64} :
    i ∈ offsets64 start stop ↔ start.toNat ≤ i.toNat ∧ i.toNat < stop.toNat := by
  rw [offsets64, List.mem_map]
  constructor
  · rintro ⟨n, hn, rfl⟩
    rw [List.mem_range'_1] at hn
    have hstop : n < stop.toNat := by omega
    rw [toNat_toUInt64_of_lt hstop]
    exact ⟨hn.1, hstop⟩
  · intro hi
    refine ⟨i.toNat, ?_, UInt64.ofNat_toNat⟩
    rw [List.mem_range'_1]
    omega

theorem exists_mem_offsets64 {start stop : UInt64} {n : Nat} (hstart : start.toNat ≤ n)
    (hstop : n < stop.toNat) : ∃ i ∈ offsets64 start stop, i.toNat = n := by
  refine ⟨n.toUInt64, ?_, toNat_toUInt64_of_lt hstop⟩
  rw [mem_offsets64, toNat_toUInt64_of_lt hstop]
  exact ⟨hstart, hstop⟩

theorem pairwise_offsets64 (start stop : UInt64) :
    (offsets64 start stop).Pairwise fun i j => i.toNat < j.toNat := by
  rw [offsets64, List.pairwise_map]
  refine List.Pairwise.imp_of_mem ?_ List.pairwise_lt_range'
  intro n m hn hm hlt
  rw [List.mem_range'_1] at hn hm
  have hn' : n < stop.toNat := by omega
  have hm' : m < stop.toNat := by omega
  rwa [toNat_toUInt64_of_lt hn', toNat_toUInt64_of_lt hm']

theorem boundaryAt64?_eq {line : Line} {i : UInt64} (hi : i.toNat < line.length) :
    boundaryAt64? line i = some (isBoundaryAt line i.toNat) := by
  rw [boundaryAt64?, isBoundaryAt, List.getElem?_eq_getElem hi]
  rfl

/-- A search over offsets of the line finds the boundary that comes first in the
order of the search, or there is none at any of them. -/
theorem findM?_boundaryAt64? {line : Line} {Earlier : UInt64 → UInt64 → Prop}
    (hasymm : ∀ i j, Earlier i j → ¬ Earlier j i) {offsets : List UInt64}
    (hline : ∀ i ∈ offsets, i.toNat < line.length) (horder : offsets.Pairwise Earlier) :
    offsets.findM? (boundaryAt64? line) = some none ∧
        (∀ i ∈ offsets, isBoundaryAt line i.toNat = false) ∨
      ∃ i ∈ offsets, offsets.findM? (boundaryAt64? line) = some (some i) ∧
        isBoundaryAt line i.toNat = true ∧
        ∀ j ∈ offsets, Earlier j i → isBoundaryAt line j.toNat = false := by
  induction offsets with
  | nil => exact .inl ⟨rfl, fun i hi => absurd hi List.not_mem_nil⟩
  | cons i rest ih =>
      obtain ⟨hfirst, hrest⟩ := List.pairwise_cons.mp horder
      have hstep : (i :: rest).findM? (boundaryAt64? line) =
          if isBoundaryAt line i.toNat then some (some i)
          else rest.findM? (boundaryAt64? line) := by
        rw [List.findM?, boundaryAt64?_eq (hline i List.mem_cons_self)]
        cases isBoundaryAt line i.toNat <;> rfl
      rw [hstep]
      cases hboundary : isBoundaryAt line i.toNat with
      | true =>
          refine .inr ⟨i, List.mem_cons_self, rfl, hboundary, ?_⟩
          intro j hj hearlier
          rcases List.mem_cons.mp hj with rfl | hj
          · exact absurd hearlier (hasymm _ _ hearlier)
          · exact absurd hearlier (hasymm _ _ (hfirst j hj))
      | false =>
          have hline' : ∀ j ∈ rest, j.toNat < line.length := fun j hj =>
            hline j (List.mem_cons_of_mem i hj)
          rcases ih hline' hrest with ⟨hnone, hfree⟩ | ⟨j, hj, hfound, hat, hfree⟩
          · exact .inl ⟨hnone, List.forall_mem_cons.mpr ⟨hboundary, hfree⟩⟩
          · refine .inr ⟨j, List.mem_cons_of_mem i hj, hfound, hat, ?_⟩
            exact List.forall_mem_cons.mpr ⟨fun _ => hboundary, hfree⟩

/-- Searched in any order, the offsets from `start` up to `stop` have no boundary
earlier than the one that is found. -/
theorem findM?_interval {line : Line} (Earlier : Nat → Nat → Prop)
    (hasymm : ∀ n m, Earlier n m → ¬ Earlier m n) {start stop : UInt64}
    (hstop : stop.toNat ≤ line.length) {offsets : List UInt64}
    (hmem : ∀ i, i ∈ offsets ↔ i ∈ offsets64 start stop)
    (horder : offsets.Pairwise fun i j => Earlier i.toNat j.toNat) :
    offsets.findM? (boundaryAt64? line) = some none ∧ IsFree line start.toNat stop.toNat ∨
      ∃ i, offsets.findM? (boundaryAt64? line) = some (some i) ∧
        start.toNat ≤ i.toNat ∧ i.toNat < stop.toNat ∧ isBoundaryAt line i.toNat = true ∧
        ∀ n, start.toNat ≤ n → n < stop.toNat → Earlier n i.toNat →
          isBoundaryAt line n = false := by
  have hline : ∀ i ∈ offsets, i.toNat < line.length := fun i hi =>
    Nat.lt_of_lt_of_le (mem_offsets64.mp ((hmem i).mp hi)).2 hstop
  have hsearched : ∀ n, start.toNat ≤ n → n < stop.toNat → ∃ i ∈ offsets, i.toNat = n := by
    intro n hfrom hto
    obtain ⟨i, hi, hword⟩ := exists_mem_offsets64 hfrom hto
    exact ⟨i, (hmem i).mpr hi, hword⟩
  rcases findM?_boundaryAt64? (fun _ _ => hasymm _ _) hline horder with
    ⟨hnone, hfree⟩ | ⟨i, hi, hfound, hboundary, hfree⟩
  · refine .inl ⟨hnone, ?_⟩
    intro n hfrom hto
    obtain ⟨i, hi, rfl⟩ := hsearched n hfrom hto
    exact hfree i hi
  · have hrange := mem_offsets64.mp ((hmem i).mp hi)
    refine .inr ⟨i, hfound, hrange.1, hrange.2, hboundary, ?_⟩
    intro n hfrom hto hearlier
    obtain ⟨j, hj, rfl⟩ := hsearched n hfrom hto
    exact hfree j hj hearlier

/-- The scan to the left goes through without leaving the line or 64 bits. -/
theorem exists_first64? {line : Line} (hlength : line.length < UInt64.size) (cursor : UInt64) :
    ∃ start, first64? line cursor = some start ∧ start.toNat = first line cursor.toNat := by
  have hreach := toNat_reach64 hlength cursor
  have hline : (reach64 line cursor).toNat ≤ line.length := by
    rw [hreach]
    exact Nat.min_le_right _ _
  have horder := List.pairwise_reverse.mpr (pairwise_offsets64 0 (reach64 line cursor))
  rcases findM?_interval (· > ·) (fun _ _ => Nat.lt_asymm) hline (fun _ => List.mem_reverse)
    horder with ⟨hnone, hfree⟩ | ⟨i, hfound, hfrom, hlt, hboundary, hfree⟩
  · refine ⟨cursor, ?_, ?_⟩
    · rw [first64?, hnone]
      rfl
    · rw [hreach] at hfree
      exact ((first_eq_iff line cursor.toNat _).mpr (.inl ⟨hfree, rfl⟩)).symm
  · have hsize := (reach64 line cursor).toNat_lt_size
    obtain ⟨start, hsucc, hstart⟩ := exists_succ64? (Nat.lt_of_le_of_lt hlt hsize)
    refine ⟨start, ?_, ?_⟩
    · rw [first64?, hfound]
      exact hsucc
    · have hbehind : IsFree line start.toNat (min cursor.toNat line.length) := fun n hn hto =>
        hfree n (by omega) (by omega) (by omega)
      have hboundary' : isBoundaryAt line (start.toNat - 1) = true := by
        rwa [hstart, Nat.add_sub_cancel]
      exact ((first_eq_iff line cursor.toNat _).mpr
        (.inr ⟨by omega, by omega, hboundary', hbehind⟩)).symm

theorem toNat_getD_succ64? (cursor : UInt64) :
    ((succ64? cursor).getD cursor).toNat = min (cursor.toNat + 1) (UInt64.size - 1) := by
  have hsize := cursor.toNat_lt_size
  by_cases hfits : cursor.toNat + 1 < UInt64.size
  · obtain ⟨next, hsucc, hnext⟩ := exists_succ64? hfits
    rw [hsucc, Option.getD_some, hnext]
    omega
  · rw [succ64?, if_neg hfits, Option.getD_none]
    omega

/-- The scan to the right goes through without leaving the line or 64 bits. -/
theorem exists_last64? {line : Line} (hlength : line.length < UInt64.size) (cursor : UInt64) :
    ∃ stop, last64? line cursor = some stop ∧ stop.toNat = last line cursor.toNat := by
  have hstart := toNat_getD_succ64? cursor
  have hend : line.length.toUInt64.toNat = line.length := UInt64.toNat_ofNat_of_lt' hlength
  have horder := pairwise_offsets64 ((succ64? cursor).getD cursor) line.length.toUInt64
  rcases findM?_interval (· < ·) (fun _ _ => Nat.lt_asymm) (Nat.le_of_eq hend)
    (fun _ => Iff.rfl) horder with ⟨hnone, hfree⟩ | ⟨i, hfound, hfrom, hlt, hboundary, hfree⟩
  · refine ⟨cursor, ?_, ?_⟩
    · rw [last64?, hnone]
      rfl
    · have hbehind : IsFree line (cursor.toNat + 1) line.length := fun n hcursor hn =>
        hfree n (by omega) (by omega)
      exact ((last_eq_iff line cursor.toNat _).mpr (.inl ⟨hbehind, rfl⟩)).symm
  · -- The largest number is no offset of the line, so the search did start behind the cursor.
    have hcursor : cursor.toNat + 1 ≤ i.toNat := by omega
    obtain ⟨stop, hpred, hstop⟩ := exists_pred64? (Nat.lt_of_lt_of_le (Nat.succ_pos _) hcursor)
    have hnext : i.toNat = stop.toNat + 1 := by omega
    refine ⟨stop, ?_, ?_⟩
    · rw [last64?, hfound]
      exact hpred
    · have hbehind : IsFree line (cursor.toNat + 1) (stop.toNat + 1) := fun n hfrom hn =>
        hfree n (by omega) (by omega) (by omega)
      rw [hnext] at hboundary
      exact ((last_eq_iff line cursor.toNat _).mpr
        (.inr ⟨by omega, by omega, hboundary, hbehind⟩)).symm

/-- The extent of a word.  The scan to the left answers with the one offset behind
a boundary after which there is none up to the cursor or the end of the line, and
with the cursor if no boundary stands before it.  The scan to the right answers with
the one offset before the first boundary behind the cursor, and with the cursor if
there is none.  So the cursor lies between the two answers.  In 64 bits, on a line
whose length has no more, both scans go through: no offset leaves the line and none
becomes too large or negative. -/
theorem extent_determined (line : Line) (cursor : UInt64) :
    (∀ start, first line cursor.toNat = start ↔
      IsFree line 0 (min cursor.toNat line.length) ∧ start = cursor.toNat ∨
        IsStart line cursor.toNat start) ∧
    (∀ stop, last line cursor.toNat = stop ↔
      IsFree line (cursor.toNat + 1) line.length ∧ stop = cursor.toNat ∨
        IsStop line cursor.toNat stop) ∧
    first line cursor.toNat ≤ cursor.toNat ∧ cursor.toNat ≤ last line cursor.toNat ∧
    (line.length < UInt64.size →
      (∃ start, first64? line cursor = some start ∧
        start.toNat = first line cursor.toNat) ∧
      ∃ stop, last64? line cursor = some stop ∧ stop.toNat = last line cursor.toNat) := by
  refine ⟨first_eq_iff line cursor.toNat, last_eq_iff line cursor.toNat,
    first_le line cursor.toNat, le_last line cursor.toNat, ?_⟩
  intro hlength
  exact ⟨exists_first64? hlength cursor, exists_last64? hlength cursor⟩

/-- Inside a word, and from the largest cursor, far past the end of the line. -/
theorem extent_determined_from_largest_cursor :
    let line := "a + bcd - e".toList
    line.length < UInt64.size ∧
      (∃ start, first64? line 5 = some start ∧ start.toNat = 4) ∧
      (∃ stop, last64? line 5 = some stop ∧ stop.toNat = 6) ∧
      (∃ start, first64? line 18446744073709551615 = some start ∧ start.toNat = 10) ∧
      ∃ stop, last64? line 18446744073709551615 = some stop ∧
        stop.toNat = 18446744073709551615 := by
  intro line
  have hlength : line.length < UInt64.size := by decide +kernel
  obtain ⟨-, -, -, -, hinside⟩ := extent_determined line 5
  obtain ⟨-, -, -, -, hfar⟩ := extent_determined line 18446744073709551615
  obtain ⟨⟨start, hstart, hfirst⟩, stop, hstop, hlast⟩ := hinside hlength
  obtain ⟨⟨farStart, hfarStart, hfarFirst⟩, farStop, hfarStop, hfarLast⟩ := hfar hlength
  exact ⟨hlength, ⟨start, hstart, hfirst.trans (by decide +kernel)⟩,
    ⟨stop, hstop, hlast.trans (by decide +kernel)⟩,
    ⟨farStart, hfarStart, hfarFirst.trans (by decide +kernel)⟩,
    farStop, hfarStop, hfarLast.trans (by decide +kernel)⟩

end KontaktScript.Word
