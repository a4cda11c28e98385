import KontaktScript.Proofs.Session
import Mathlib.Data.List.Nodup

/-!
# Requests to the editor and their responses

The server numbers its requests to the editor and keeps the ids of those under
way.  Behind any session these are just the requests that were sent and not
answered since, so a response is heard if it answers such a request and has no
effect otherwise.  As long as the ids do not run out they are all different, and
then no callback runs twice and a request that could not be sent leaves nothing
behind.
-/

namespace KontaktScript

namespace State

/-- The id that comes `count` ids behind another. -/
def idBehind (first : Int32) : Nat → Int32
  | 0 => first
  | count + 1 => idAfter (idBehind first count)

/-- Its value, given that the ids go on with zero behind the largest. -/
def idValue (first : Int32) (count : Nat) : Int :=
  let value := first.toInt + count
  if value ≤ Int32.maxValue.toInt then value else value - (Int32.maxValue.toInt + 1)

/-- Counting on never overflows. -/
theorem toInt_idAfter (id : Int32) :
    (idAfter id).toInt = if id.toInt = Int32.maxValue.toInt then 0 else id.toInt + 1 := by
  have hmax : Int32.maxValue.toInt = 2147483647 := rfl
  have hlow := id.le_toInt
  have hhigh := id.toInt_le
  rw [idAfter]
  by_cases hid : id = Int32.maxValue
  · rw [if_pos hid, if_pos (congrArg Int32.toInt hid)]
    rfl
  · have hvalue : id.toInt ≠ Int32.maxValue.toInt := fun heq => hid (Int32.toInt_inj.mp heq)
    have hone : (1 : Int32).toInt = 1 := rfl
    rw [if_neg hid, if_neg hvalue, Int32.toInt_add, hone]
    exact Int.bmod_eq_of_le (by omega) (by omega)

theorem toInt_idBehind (first : Int32) {count : Nat}
    (hcount : (count : Int) ≤ Int32.maxValue.toInt) :
    (idBehind first count).toInt = idValue first count := by
  have hmax : Int32.maxValue.toInt = 2147483647 := rfl
  have hhigh := first.toInt_le
  induction count with
  | zero => simp [idBehind, idValue, hhigh]
  | succ count ih =>
      rw [idBehind, toInt_idAfter, ih (by omega)]
      simp only [idValue]
      split_ifs <;> omega

/-- Ids come back only after all those from zero on. -/
theorem eq_of_idBehind_eq {first : Int32} {left right : Nat}
    (hleft : (left : Int) ≤ Int32.maxValue.toInt) (hright : (right : Int) ≤ Int32.maxValue.toInt)
    (hids : idBehind first left = idBehind first right) : left = right := by
  have hvalues := congrArg Int32.toInt hids
  rw [toInt_idBehind first hleft, toInt_idBehind first hright] at hvalues
  have hmax : Int32.maxValue.toInt = 2147483647 := rfl
  have hhigh := first.toInt_le
  simp only [idValue] at hvalues
  split_ifs at hvalues <;> omega

def firstIds (first : Int32) (count : Nat) : List RequestId :=
  (List.range count).map fun k => .number (idBehind first k)

theorem firstIds_succ (first : Int32) (count : Nat) :
    firstIds first (count + 1) = firstIds first count ++ [.number (idBehind first count)] := by
  rw [firstIds, List.range_succ, List.map_append]
  rfl

theorem nodup_firstIds (first : Int32) {count : Nat}
    (hcount : (count : Int) ≤ Int32.maxValue.toInt) : (firstIds first count).Nodup := by
  apply List.Nodup.map_on _ List.nodup_range
  intro left hleft right hright hids
  rw [List.mem_range] at hleft hright
  exact eq_of_idBehind_eq (by omega) (by omega) (RequestId.number.inj hids)

end State

def askedIds (log : List Event) : List RequestId :=
  log.filterMap Event.asked?

def sentIds (log : List Event) : List RequestId :=
  log.filterMap Event.sent?

/-- The ids of the requests whose callback ran, as often as it did. -/
def heardIds (log : List Event) : List RequestId :=
  log.filterMap Event.heard?

@[simp]
theorem askedIds_concat (log : List Event) (event : Event) :
    askedIds (log ++ [event]) = askedIds log ++ event.asked?.toList := by
  rw [askedIds, List.filterMap_append]
  cases event <;> rfl

@[simp]
theorem sentIds_concat (log : List Event) (event : Event) :
    sentIds (log ++ [event]) = sentIds log ++ event.sent?.toList := by
  rw [sentIds, List.filterMap_append]
  rcases event with ⟨id, _ | _⟩ | ⟨id, heard⟩ <;> rfl

@[simp]
theorem heardIds_concat (log : List Event) (event : Event) :
    heardIds (log ++ [event]) = heardIds log ++ event.heard?.toList := by
  rw [heardIds, List.filterMap_append]
  rcases event with ⟨id, sent⟩ | ⟨id, _ | _⟩ <;> rfl

theorem sentIds_sublist_askedIds (log : List Event) : (sentIds log).Sublist (askedIds log) := by
  induction log with
  | nil => exact .slnil
  | cons event log ih =>
      cases event with
      | asked id sent =>
          cases sent with
          | true => exact ih.cons_cons id
          | false => exact ih.cons id
      | answered id heard => exact ih

/-- Of ids that are all different, one that could not be sent was not sent. -/
theorem not_mem_sentIds_of_unsent {log : List Event} (hnodup : (askedIds log).Nodup)
    {id : RequestId} (hunsent : .asked id false ∈ log) : id ∉ sentIds log := by
  obtain ⟨before, after, rfl⟩ := List.append_of_mem hunsent
  intro hsent
  have hothers : id ∈ sentIds before ++ sentIds after := by
    rwa [sentIds, List.filterMap_append] at hsent
  have hasked : id ∈ askedIds before ++ askedIds after :=
    ((sentIds_sublist_askedIds before).append (sentIds_sublist_askedIds after)).subset hothers
  rw [askedIds, List.filterMap_append] at hnodup
  exact (List.nodup_cons.mp (List.nodup_middle.mp hnodup)).1 hasked

/-- A response was heard just if a request with its id was outstanding. -/
def HearsOutstanding (log : List Event) : Prop :=
  ∀ before id heard after, log = before ++ .answered id heard :: after →
    (heard = true ↔ Outstanding before id)

theorem HearsOutstanding.concat {log : List Event} (hlog : HearsOutstanding log) {event : Event}
    (hevent : ∀ id heard, event = .answered id heard → (heard = true ↔ Outstanding log id)) :
    HearsOutstanding (log ++ [event]) := by
  intro before id heard after hsplit
  rcases List.eq_nil_or_concat' after with rfl | ⟨after, last, rfl⟩
  · obtain ⟨rfl, hlast⟩ := List.append_inj' hsplit rfl
    exact hevent id heard (List.cons.inj hlast).1
  · rw [← List.cons_append, ← List.append_assoc] at hsplit
    exact hlog before id heard after (List.append_inj' hsplit rfl).1

namespace Session

/-- The server's record of its requests is true to the log of a session, which
began with the given id. -/
structure Accounts (first : Int32) (session : Session) : Prop where
  askedIds_eq : askedIds session.log = State.firstIds first (askedIds session.log).length
  nextId_eq : session.state.nextId = State.idBehind first (askedIds session.log).length
  mem_awaiting_iff : ∀ id, id ∈ session.state.awaiting ↔ Outstanding session.log id
  hearsOutstanding : HearsOutstanding session.log
  /-- A request that is under way can be heard once more. -/
  count_heardIds_le : ∀ id,
    (heardIds session.log).count id + (if id ∈ session.state.awaiting then 1 else 0) ≤
      (sentIds session.log).count id

theorem accounts_start (link : Link) {state : State} (hawaiting : state.awaiting = []) :
    Accounts state.nextId ⟨link, state, []⟩ where
  askedIds_eq := rfl
  nextId_eq := rfl
  mem_awaiting_iff id := by simp [hawaiting, not_outstanding_nil]
  hearsOutstanding before id heard after hlog := by simp at hlog
  count_heardIds_le id := by simp [hawaiting, heardIds]

variable {first : Int32} {session next : Session}

/-- Another request uses up an id, and is under way if it was sent. -/
theorem Accounts.ask (haccounts : session.Accounts first)
    (hlog : next.log =
      session.log ++ [.asked (.number session.state.nextId) (session.link = .live)])
    (hnext : next.state.nextId = State.idAfter session.state.nextId)
    (hawaiting : next.state.awaiting =
      if session.link = .live then session.state.awaiting.insert (.number session.state.nextId)
      else session.state.awaiting) :
    next.Accounts first := by
  have hlength : (askedIds next.log).length = (askedIds session.log).length + 1 := by
    rw [hlog, askedIds_concat, List.length_append]
    rfl
  constructor
  · rw [hlength, State.firstIds_succ, ← haccounts.askedIds_eq, ← haccounts.nextId_eq, hlog,
      askedIds_concat]
    rfl
  · rw [hlength, State.idBehind, hnext, haccounts.nextId_eq]
  · intro id
    rw [hlog, hawaiting, outstanding_concat_asked, ← haccounts.mem_awaiting_iff]
    cases session.link with
    | live => simp [List.mem_insert_iff]
    | lost => simp
  · rw [hlog]
    refine haccounts.hearsOutstanding.concat ?_
    intro id heard hevent
    cases hevent
  · intro id
    have hcount := haccounts.count_heardIds_le id
    rw [hlog, hawaiting, heardIds_concat, sentIds_concat, List.count_append, List.count_append]
    cases session.link with
    | live =>
        by_cases hid : id = .number session.state.nextId
        · simp [Event.heard?, Event.sent?, hid] at hcount ⊢
          omega
        · simp [Event.heard?, Event.sent?, List.mem_insert_iff, hid] at hcount ⊢
          omega
    | lost =>
        simp [Event.heard?, Event.sent?] at hcount ⊢
        exact hcount

/-- A response ends what it answers, and is heard if that was under way. -/
theorem Accounts.answer (haccounts : session.Accounts first) {id : RequestId}
    (hlog : next.log = session.log ++ [.answered id (id ∈ session.state.awaiting)])
    (hnext : next.state.nextId = session.state.nextId)
    (hawaiting : next.state.awaiting = session.state.awaiting.filter (· ≠ id)) :
    next.Accounts first := by
  have hasked : askedIds next.log = askedIds session.log := by
    rw [hlog, askedIds_concat]
    exact List.append_nil _
  constructor
  · rw [hasked, ← haccounts.askedIds_eq]
  · rw [hasked, hnext, haccounts.nextId_eq]
  · intro other
    rw [hlog, hawaiting, outstanding_concat_answered, ← haccounts.mem_awaiting_iff,
      List.mem_filter, decide_eq_true_iff]
  · rw [hlog]
    refine haccounts.hearsOutstanding.concat ?_
    intro other heard hevent
    cases hevent
    rw [decide_eq_true_iff, haccounts.mem_awaiting_iff]
  · intro other
    have hcount := haccounts.count_heardIds_le other
    rw [hlog, hawaiting, heardIds_concat, sentIds_concat, List.count_append, List.count_append]
    by_cases hid : id ∈ session.state.awaiting
    · by_cases hother : other = id
      · simp [Event.heard?, Event.sent?, hother, hid] at hcount ⊢
        exact hcount
      · simp [Event.heard?, Event.sent?, hid, hother, Ne.symm hother] at hcount ⊢
        exact hcount
    · by_cases hother : other = id
      · simp [Event.heard?, Event.sent?, hother, hid] at hcount ⊢
        exact hcount
      · simp [Event.heard?, Event.sent?, hid, hother] at hcount ⊢
        exact hcount

theorem Accounts.move (haccounts : session.Accounts first) (hmoves : session.Moves next) :
    next.Accounts first := by
  cases hmoves with
  | asks hlog hnext hawaiting => exact haccounts.ask hlog hnext hawaiting
  | answers id hlog hnext hawaiting => exact haccounts.answer hlog hnext hawaiting
  | rests hlog hnext hawaiting =>
      rcases haccounts with ⟨hasked, hnumber, hmem, hhears, hcount⟩
      exact ⟨by rw [hlog, ← hasked], by rw [hlog, hnext, hnumber], by rwa [hlog, hawaiting],
        by rwa [hlog], by rwa [hlog, hawaiting]⟩

/-- The record is true behind every session that began without requests under
way. -/
theorem accounts_run (tables : Tables) (link : Link) {state : State}
    (hawaiting : state.awaiting = []) (happenings : List Happening) :
    ((⟨link, state, []⟩ : Session).run tables happenings).Accounts state.nextId :=
  run_induction tables _ (fun _ _ hmoves haccounts => haccounts.move hmoves)
    (accounts_start link hawaiting) happenings

theorem step_unsolicited (tables : Tables) {id : RequestId} (result : Option Json)
    (hid : id ∉ session.state.awaiting) :
    (Stage.serving session.state).step tables session.link (.response id result) =
      (.serving session.state, []) := by
  rw [Stage.step_serving tables session.link session.state rfl]
  apply Stage.carryOut_of_ok
  refine (Action.run_onResponse id result).trans ?_
  rw [if_neg hid, session.state.settle_of_not_mem hid]
  rfl

end Session

/-- Requests to the editor and their responses correspond behind every session that
began without requests under way, as long as there were fewer requests than ids
from zero on.  All ids are different and counted without overflow.  The requests
under way are those that were sent and not answered since; only a response to
one of them is heard, so each is heard at most once, and one that could not be
sent is not under way. -/
theorem requests_correspond (tables : Tables) (link : Link) (state : State)
    (hawaiting : state.awaiting = []) (happenings : List Happening)
    (hfew : ((askedIds ((⟨link, state, []⟩ : Session).run tables happenings).log).length : Int) ≤
      Int32.maxValue.toInt) :
    let session := (⟨link, state, []⟩ : Session).run tables happenings
    let asked := askedIds session.log
    asked.Nodup ∧
      asked = State.firstIds state.nextId asked.length ∧
      session.state.nextId = State.idBehind state.nextId asked.length ∧
      (∀ count ≤ asked.length,
        (State.idBehind state.nextId count).toInt = State.idValue state.nextId count) ∧
      (∀ id, id ∈ session.state.awaiting ↔ Outstanding session.log id) ∧
      HearsOutstanding session.log ∧
      (heardIds session.log).Nodup ∧
      (∀ id ∈ heardIds session.log, id ∈ sentIds session.log) ∧
      (∀ id, .asked id false ∈ session.log → id ∉ session.state.awaiting) ∧
      ∀ id result, ¬ Outstanding session.log id →
        (Stage.serving session.state).step tables session.link (.response id result) =
          (.serving session.state, []) := by
  intro session asked
  have haccounts : session.Accounts state.nextId :=
    Session.accounts_run tables link hawaiting happenings
  have hnodup : asked.Nodup := by
    have hfirst := State.nodup_firstIds state.nextId hfew
    rwa [← haccounts.askedIds_eq] at hfirst
  have hsent : (sentIds session.log).Nodup :=
    hnodup.sublist (sentIds_sublist_askedIds session.log)
  have hheard : ∀ id, (heardIds session.log).count id ≤ (sentIds session.log).count id :=
    fun id => Nat.le_of_add_right_le (haccounts.count_heardIds_le id)
  refine ⟨hnodup, haccounts.askedIds_eq, haccounts.nextId_eq, ?_, haccounts.mem_awaiting_iff,
    haccounts.hearsOutstanding, ?_, ?_, ?_, ?_⟩
  · intro count hcount
    exact State.toInt_idBehind state.nextId (Int.le_trans (Int.ofNat_le.mpr hcount) hfew)
  · rw [List.nodup_iff_count_le_one]
    intro id
    exact Nat.le_trans (hheard id) (List.nodup_iff_count_le_one.mp hsent id)
  · intro id hid
    exact List.count_pos_iff.mp (Nat.lt_of_lt_of_le (List.count_pos_iff.mpr hid) (hheard id))
  · intro id hunsent hmem
    have hcount := haccounts.count_heardIds_le id
    rw [if_pos hmem, List.count_eq_zero_of_not_mem (not_mem_sentIds_of_unsent hnodup hunsent)]
      at hcount
    omega
  · intro id result hid
    rw [← haccounts.mem_awaiting_iff] at hid
    exact Session.step_unsolicited tables result hid

/-- Two requests go out across the largest id, the first is answered twice, a
response comes that nobody asked for, and a last request fails. -/
theorem requests_correspond_across_largest_id :
    let state : State := { State.start none true with nextId := Int32.maxValue }
    let nudge : Happening := .message
      (.notification "workspace/didChangeConfiguration" (.object [("settings", .null)]))
    let answer (id : RequestId) : Happening := .message (.response id (some (.array [])))
    let largest : RequestId := .number Int32.maxValue
    let happenings := [.opening, nudge, answer largest, answer largest, answer (.name "0"),
      .disconnect, nudge]
    let session := (⟨.live, state, []⟩ : Session).run ⟨[], [], []⟩ happenings
    state.awaiting = [] ∧
      session.log = [.asked largest true, .asked (.number 0) true, .answered largest true,
        .answered largest false, .answered (.name "0") false, .asked (.number 1) false] ∧
      (askedIds session.log).Nodup ∧ (heardIds session.log).Nodup ∧
      .number 0 ∈ session.state.awaiting ∧ .number 1 ∉ session.state.awaiting := by
  intro state nudge answer largest happenings session
  have hlog : session.log = [.asked largest true, .asked (.number 0) true,
      .answered largest true, .answered largest false, .answered (.name "0") false,
      .asked (.number 1) false] := by decide
  have hfew : ((askedIds session.log).length : Int) ≤ Int32.maxValue.toInt := by
    rw [hlog]
    decide
  obtain ⟨hnodup, -, -, -, hmem, -, hheard, -, hunsent, -⟩ :=
    requests_correspond ⟨[], [], []⟩ .live state rfl happenings hfew
  refine ⟨rfl, hlog, hnodup, hheard, ?_, ?_⟩
  · rw [hmem, hlog]
    decide
  · apply hunsent
    rw [hlog]
    decide

end KontaktScript
