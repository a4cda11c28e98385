import KontaktScript.Proofs.Run
import Mathlib.Data.List.Induction
import Mathlib.Data.List.Nodup

/-!
# What the store holds after a history

The entry for a document depends on the notices about it alone: on the last
time it was opened or closed and on the whole texts that changes brought since.
Of these texts the one with the greatest version stands, and of several with
that version the one that came last.
-/

namespace KontaktScript

/-- The notices among messages, in the order of their arrival. -/
def notices (messages : List Incoming) : List Notice :=
  messages.filterMap Incoming.notice?

structure Draft where
  version : Int32
  text : String
  deriving DecidableEq, Repr

namespace Notice

def opens (uri : Uri) : Notice → Bool
  | opened other _ _ _ => other = uri
  | _ => false

def closes (uri : Uri) : Notice → Bool
  | closed other => other = uri
  | _ => false

/-- The text that a change brings for a document: that of its last change
without a range. -/
def draft? (uri : Uri) : Notice → Option Draft
  | changed other version changes =>
      if other = uri then
        (changes.filter (·.range.isNone)).getLast?.map fun change => ⟨version, change.text⟩
      else none
  | _ => none

theorem eq_opened_of_opens {uri : Uri} {notice : Notice} (hopens : notice.opens uri = true) :
    ∃ languageId version text, notice = .opened uri languageId version text := by
  cases notice with
  | opened other languageId version text =>
      have huri : other = uri := by simpa [opens] using hopens
      exact ⟨languageId, version, text, by rw [huri]⟩
  | changed other version changes => cases hopens
  | closed other => cases hopens
  | configured settings => cases hopens

theorem eq_closed_of_closes {uri : Uri} {notice : Notice} (hcloses : notice.closes uri = true) :
    notice = .closed uri := by
  cases notice with
  | closed other =>
      have huri : other = uri := by simpa [closes] using hcloses
      rw [huri]
  | opened other languageId version text => cases hcloses
  | changed other version changes => cases hcloses
  | configured settings => cases hcloses

end Notice

def Settled (uri : Uri) (history : List Notice) : Prop :=
  ∀ notice ∈ history, notice.opens uri = false ∧ notice.closes uri = false

/-- The draft has the greatest version of all, and no later one has it too. -/
structure Draft.IsLatest (drafts : List Draft) (draft : Draft) : Prop where
  version_le : ∀ other ∈ drafts, other.version ≤ draft.version
  getLast?_filter : (drafts.filter (·.version = draft.version)).getLast? = some draft

namespace Draft

/-- The draft that stands after another came in. -/
def succeed (draft other : Draft) : Draft :=
  if other.version < draft.version then draft else other

theorem succeed_of_lt {draft other : Draft} (hversion : other.version < draft.version) :
    draft.succeed other = draft := if_pos hversion

theorem succeed_of_le {draft other : Draft} (hversion : draft.version ≤ other.version) :
    draft.succeed other = other := if_neg (Int32.not_lt.mpr hversion)

theorem isLatest_singleton (draft : Draft) : IsLatest [draft] draft where
  version_le other hother := by
    rw [List.mem_singleton.mp hother]
    exact Int32.le_refl _
  getLast?_filter := by simp

/-- A draft that comes in stands unless it is older. -/
theorem IsLatest.concat {drafts : List Draft} {draft : Draft} (hdraft : IsLatest drafts draft)
    (other : Draft) : IsLatest (drafts ++ [other]) (draft.succeed other) := by
  by_cases holder : other.version < draft.version
  · rw [succeed_of_lt holder]
    have hne : other.version ≠ draft.version := by
      intro heq
      rw [heq] at holder
      exact Int32.lt_irrefl holder
    constructor
    · intro third hthird
      rcases List.mem_append.mp hthird with hthird | hthird
      · exact hdraft.version_le third hthird
      · rw [List.mem_singleton.mp hthird]
        exact Int32.le_of_lt holder
    · rw [List.filter_append]
      simpa [hne] using hdraft.getLast?_filter
  · have hle : draft.version ≤ other.version := Int32.not_lt.mp holder
    rw [succeed_of_le hle]
    constructor
    · intro third hthird
      rcases List.mem_append.mp hthird with hthird | hthird
      · exact Int32.le_trans (hdraft.version_le third hthird) hle
      · rw [List.mem_singleton.mp hthird]
        exact Int32.le_refl _
    · rw [List.filter_append]
      simp

theorem isLatest_foldl (draft : Draft) (drafts : List Draft) :
    IsLatest (draft :: drafts) (drafts.foldl succeed draft) := by
  induction drafts using List.reverseRecOn with
  | nil => exact isLatest_singleton draft
  | append_singleton drafts other ih =>
      rw [List.foldl_append, ← List.cons_append]
      exact ih.concat other

theorem version_le_succeed (draft other : Draft) :
    other.version ≤ (draft.succeed other).version := by
  by_cases holder : other.version < draft.version
  · rw [succeed_of_lt holder]
    exact Int32.le_of_lt holder
  · rw [succeed_of_le (Int32.not_lt.mp holder)]
    exact Int32.le_refl _

/-- An older draft that comes in too late changes nothing. -/
theorem succeed_newer_older (draft : Draft) {older newer : Draft}
    (hversion : older.version < newer.version) :
    (draft.succeed newer).succeed older = draft.succeed newer :=
  succeed_of_lt (Int32.lt_of_lt_of_le hversion (version_le_succeed draft newer))

theorem succeed_older_newer (draft : Draft) {older newer : Draft}
    (hversion : older.version < newer.version) :
    (draft.succeed older).succeed newer = draft.succeed newer := by
  by_cases holder : older.version < draft.version
  · rw [succeed_of_lt holder]
  · have hle : draft.version ≤ older.version := Int32.not_lt.mp holder
    have hnewer : older.version ≤ newer.version := Int32.le_of_lt hversion
    rw [succeed_of_le hle, succeed_of_le hnewer, succeed_of_le (Int32.le_trans hle hnewer)]

/-- Drafts with different versions may come in either order. -/
theorem succeed_right_comm (draft : Draft) {left right : Draft}
    (hversion : left.version ≠ right.version) :
    (draft.succeed left).succeed right = (draft.succeed right).succeed left := by
  rcases Int32.lt_or_lt_of_ne hversion with hlt | hlt
  · rw [succeed_older_newer draft hlt, succeed_newer_older draft hlt]
  · rw [succeed_newer_older draft hlt, succeed_older_newer draft hlt]

/-- The order in which drafts come in does not matter if their versions
differ. -/
theorem foldl_succeed_perm (draft : Draft) {left right : List Draft} (hperm : left.Perm right)
    (hversions : (left.map version).Nodup) :
    left.foldl succeed draft = right.foldl succeed draft := by
  apply hperm.foldl_eq'
  intro first hfirst second hsecond start
  by_cases hversion : first.version = second.version
  · rw [List.inj_on_of_nodup_map hversions hfirst hsecond hversion]
  · exact succeed_right_comm start hversion

end Draft

def OpenDocument.ofDraft (language : Language) (draft : Draft) : OpenDocument :=
  ⟨.ofString draft.text, language, draft.version⟩

/-- A document is replaced by a draft that is not older. -/
def OpenDocument.amend (source : OpenDocument) (draft : Draft) : OpenDocument :=
  if draft.version < source.version then source else ofDraft source.language draft

theorem OpenDocument.amend_ofDraft (language : Language) (draft other : Draft) :
    (ofDraft language draft).amend other = ofDraft language (draft.succeed other) := by
  rw [amend, Draft.succeed]
  exact (apply_ite (ofDraft language) (other.version < draft.version) draft other).symm

theorem OpenDocument.foldl_amend_ofDraft (language : Language) (draft : Draft)
    (drafts : List Draft) :
    drafts.foldl amend (ofDraft language draft) =
      ofDraft language (drafts.foldl Draft.succeed draft) := by
  induction drafts generalizing draft with
  | nil => rfl
  | cons other drafts ih =>
      rw [List.foldl_cons, List.foldl_cons, amend_ofDraft]
      exact ih (draft.succeed other)

namespace Notice

/-- The entry for a document behind a notice, given the entry before it. -/
def revise (uri : Uri) (entry : Option OpenDocument) (notice : Notice) : Option OpenDocument :=
  match notice with
  | opened other languageId version text =>
      if other = uri then some (.ofDraft (.detect languageId uri) ⟨version, text⟩) else entry
  | closed other => if other = uri then none else entry
  | changed _ _ _ =>
      match notice.draft? uri with
      | some draft => entry.map (·.amend draft)
      | none => entry
  | configured _ => entry

theorem fullText?_eq (changes : List Change) :
    fullText? changes = (changes.filter (·.range.isNone)).getLast?.map Change.text := by
  rw [fullText?, ← List.head?_filter, List.filter_reverse, List.head?_reverse]

theorem get?_updateDocuments_changed_of_ne (documents : Store) {other uri : Uri}
    (huri : other ≠ uri) (version : Int32) (changes : List Change) :
    (State.updateDocuments documents (.changed other version changes)).get? uri =
      documents.get? uri := by
  rw [State.updateDocuments]
  split
  · split
    · rfl
    · rw [Store.get?_insert, if_neg (Ne.symm huri)]
  · rfl

/-- A change amends the entry for its document by the draft it brings. -/
theorem get?_updateDocuments_changed (documents : Store) (uri : Uri) (version : Int32)
    (changes : List Change) :
    (State.updateDocuments documents (.changed uri version changes)).get? uri =
      (changed uri version changes).revise uri (documents.get? uri) := by
  rw [State.updateDocuments, revise, draft?, if_pos rfl, fullText?_eq]
  cases hentry : documents.get? uri with
  | none =>
      cases (changes.filter (·.range.isNone)).getLast? with
      | none => exact hentry
      | some change => exact hentry
  | some source =>
      cases (changes.filter (·.range.isNone)).getLast? with
      | none => exact hentry
      | some change =>
          simp only [Option.map_some, OpenDocument.amend]
          split
          · exact hentry
          · rw [Store.get?_insert, if_pos rfl]
            rfl

/-- The store changes an entry by the notices about its document alone. -/
theorem get?_updateDocuments (documents : Store) (notice : Notice) (uri : Uri) :
    (State.updateDocuments documents notice).get? uri =
      notice.revise uri (documents.get? uri) := by
  cases notice with
  | opened other languageId version text =>
      rw [State.updateDocuments, Store.get?_insert, revise]
      by_cases huri : other = uri
      · subst huri
        simp only [if_true]
        rfl
      · rw [if_neg huri, if_neg (Ne.symm huri)]
  | changed other version changes =>
      by_cases huri : other = uri
      · subst huri
        exact get?_updateDocuments_changed documents other version changes
      · rw [get?_updateDocuments_changed_of_ne documents huri, revise, draft?, if_neg huri]
  | closed other =>
      rw [State.updateDocuments, Store.get?_erase, revise]
      by_cases huri : other = uri
      · rw [if_pos huri, if_pos huri.symm]
      · rw [if_neg huri, if_neg (Ne.symm huri)]
  | configured settings => rfl

end Notice

/-- The entry for a document after a run is made by the notices of the run. -/
theorem State.get?_serve (tables : Tables) (state : State) {messages : List Incoming}
    (hmessages : Unstopped messages) (uri : Uri) :
    (state.serve tables .live messages).state.documents.get? uri =
      (notices messages).foldl (Notice.revise uri) (state.documents.get? uri) := by
  induction messages generalizing state with
  | nil => rfl
  | cons message rest ih =>
      rw [serve_cons tables state hmessages.head, Outcome.after,
        ih (state.next tables message) hmessages.tail, documents_next, notices, notices,
        List.filterMap_cons]
      cases message.notice? with
      | none => rfl
      | some notice =>
          simp only [Option.toList_some, List.foldl_cons, List.foldl_nil,
            Notice.get?_updateDocuments]

theorem Notice.revise_of_settled (uri : Uri) (entry : Option OpenDocument) {notice : Notice}
    (hopens : notice.opens uri = false) (hcloses : notice.closes uri = false) :
    notice.revise uri entry =
      entry.map fun source => (notice.draft? uri).toList.foldl OpenDocument.amend source := by
  cases notice with
  | opened other languageId version text =>
      have huri : other ≠ uri := by simpa [opens] using hopens
      simp [revise, draft?, huri]
  | changed other version changes =>
      rw [revise]
      cases (changed other version changes).draft? uri with
      | none => simp
      | some draft => rfl
  | closed other =>
      have huri : other ≠ uri := by simpa [closes] using hcloses
      simp [revise, draft?, huri]
  | configured settings => simp [revise, draft?]

/-- While a document is neither opened nor closed, its entry is amended by one
draft after another. -/
theorem Settled.foldl_revise {uri : Uri} {history : List Notice} (hsettled : Settled uri history)
    (entry : Option OpenDocument) :
    history.foldl (Notice.revise uri) entry =
      entry.map fun source =>
        (history.filterMap (Notice.draft? uri)).foldl OpenDocument.amend source := by
  induction history generalizing entry with
  | nil => simp
  | cons notice history ih =>
      obtain ⟨hopens, hcloses⟩ := hsettled notice List.mem_cons_self
      have hrest : Settled uri history :=
        fun other hother => hsettled other (List.mem_cons_of_mem notice hother)
      rw [List.foldl_cons, Notice.revise_of_settled uri entry hopens hcloses, ih hrest,
        Option.map_map, List.filterMap_cons]
      cases notice.draft? uri with
      | none => rfl
      | some draft => rfl

theorem foldl_revise_closed {uri : Uri} (before : List Notice) {after : List Notice}
    (hsettled : Settled uri after) (entry : Option OpenDocument) :
    (before ++ .closed uri :: after).foldl (Notice.revise uri) entry = none := by
  rw [List.foldl_append, List.foldl_cons, hsettled.foldl_revise, Notice.revise, if_pos rfl]
  rfl

/-- A document that is opened and then not closed has the latest draft as its
entry. -/
theorem foldl_revise_opened {uri : Uri} (before : List Notice) (languageId : String)
    (version : Int32) (text : String) {after : List Notice} (hsettled : Settled uri after)
    (entry : Option OpenDocument) :
    (before ++ .opened uri languageId version text :: after).foldl (Notice.revise uri) entry =
      some (.ofDraft (.detect languageId uri)
        ((after.filterMap (Notice.draft? uri)).foldl Draft.succeed ⟨version, text⟩)) := by
  rw [List.foldl_append, List.foldl_cons, hsettled.foldl_revise, Notice.revise, if_pos rfl,
    Option.map_some, OpenDocument.foldl_amend_ofDraft]

/-- A history either leaves a document alone or tells last that it was opened
or that it was closed. -/
theorem settled_or_last (uri : Uri) (history : List Notice) :
    Settled uri history ∨
      (∃ before after, history = before ++ .closed uri :: after ∧ Settled uri after) ∨
      ∃ before languageId version text after,
        history = before ++ .opened uri languageId version text :: after ∧
          Settled uri after := by
  induction history with
  | nil => exact .inl fun notice hnotice => by cases hnotice
  | cons notice history ih =>
      rcases ih with hsettled | ⟨before, after, rfl, hafter⟩ |
        ⟨before, languageId, version, text, after, rfl, hafter⟩
      · by_cases hopens : notice.opens uri = true
        · obtain ⟨languageId, version, text, rfl⟩ := Notice.eq_opened_of_opens hopens
          exact .inr (.inr ⟨[], languageId, version, text, history, rfl, hsettled⟩)
        by_cases hcloses : notice.closes uri = true
        · obtain rfl := Notice.eq_closed_of_closes hcloses
          exact .inr (.inl ⟨[], history, rfl, hsettled⟩)
        refine .inl ?_
        intro other hother
        rcases List.mem_cons.mp hother with rfl | hother
        · exact ⟨eq_false_of_ne_true hopens, eq_false_of_ne_true hcloses⟩
        · exact hsettled other hother
      · exact .inr (.inl ⟨notice :: before, after, rfl, hafter⟩)
      · exact .inr (.inr ⟨notice :: before, languageId, version, text, after, rfl, hafter⟩)

/-- A document has no entry just if it was never opened or was closed last. -/
theorem foldl_revise_eq_none_iff (uri : Uri) (history : List Notice) :
    history.foldl (Notice.revise uri) none = none ↔
      (∀ notice ∈ history, notice.opens uri = false) ∨
        ∃ before after, history = before ++ .closed uri :: after ∧ Settled uri after := by
  constructor
  · intro hnone
    rcases settled_or_last uri history with hsettled | hclosed |
      ⟨before, languageId, version, text, after, rfl, hafter⟩
    · exact .inl fun notice hnotice => (hsettled notice hnotice).1
    · exact .inr hclosed
    · rw [foldl_revise_opened before languageId version text hafter] at hnone
      cases hnone
  · rintro (hunopened | ⟨before, after, rfl, hafter⟩)
    · rcases settled_or_last uri history with hsettled | ⟨before, after, rfl, hafter⟩ |
        ⟨before, languageId, version, text, after, rfl, hafter⟩
      · rw [hsettled.foldl_revise]
        rfl
      · exact foldl_revise_closed before hafter none
      · have hopens := hunopened (.opened uri languageId version text) (by simp)
        simp [Notice.opens] at hopens
    · exact foldl_revise_closed before hafter none

/-- The entry for a document after a run from an empty store.  There is none
unless the document was opened and not closed since.  Otherwise its text and
version are those of the latest draft since it was last opened, the text it was
opened with included; the order in which drafts of different versions arrived
does not matter. -/
theorem get?_serve_eq_latest (tables : Tables) (state : State)
    (hempty : state.documents = .empty) {messages : List Incoming}
    (hmessages : Unstopped messages) (uri : Uri) :
    let stored := (state.serve tables .live messages).state.documents.get? uri
    (stored = none ↔
      (∀ notice ∈ notices messages, notice.opens uri = false) ∨
        ∃ before after, notices messages = before ++ .closed uri :: after ∧
          Settled uri after) ∧
      ∀ before languageId version text after,
        notices messages = before ++ .opened uri languageId version text :: after →
        Settled uri after →
        (∃ draft, stored = some ⟨.ofString draft.text, .detect languageId uri, draft.version⟩ ∧
          Draft.IsLatest (⟨version, text⟩ :: after.filterMap (Notice.draft? uri)) draft) ∧
        ∀ others before' after', Unstopped others →
          notices others = before' ++ .opened uri languageId version text :: after' →
          Settled uri after' →
          (after.filterMap (Notice.draft? uri)).Perm (after'.filterMap (Notice.draft? uri)) →
          ((after.filterMap (Notice.draft? uri)).map Draft.version).Nodup →
          (state.serve tables .live others).state.documents.get? uri = stored := by
  intro stored
  have hentry : stored = (notices messages).foldl (Notice.revise uri) none := by
    have hrun := state.get?_serve tables hmessages uri
    rwa [hempty, Store.get?_empty] at hrun
  constructor
  · rw [hentry, foldl_revise_eq_none_iff]
  · intro before languageId version text after hhistory hafter
    have hlatest := Draft.isLatest_foldl ⟨version, text⟩ (after.filterMap (Notice.draft? uri))
    rw [hhistory, foldl_revise_opened before languageId version text hafter] at hentry
    refine ⟨⟨_, hentry, hlatest⟩, ?_⟩
    intro others before' after' hothers hhistory' hafter' hperm hversions
    rw [state.get?_serve tables hothers, hempty, Store.get?_empty, hhistory',
      foldl_revise_opened before' languageId version text hafter', hentry,
      Draft.foldl_succeed_perm _ hperm hversions]

/-- A document is opened, and a newer and an older change arrive in either
order. -/
theorem get?_serve_eq_latest_reordered :
    let opening : Incoming := .notification "textDocument/didOpen" (.object [("textDocument",
      .object [("languageId", .string "ksp"), ("text", .string "on init"),
        ("uri", .string "file:///a.ksp"), ("version", .int 2)])])
    let change (version : Int) (text : String) : Incoming :=
      .notification "textDocument/didChange" (.object
        [("contentChanges", .array [.object [("text", .string text)]]),
          ("textDocument",
            .object [("uri", .string "file:///a.ksp"), ("version", .int version)])])
    let run (messages : List Incoming) :=
      ((State.start none false).serve ⟨[], [], []⟩ .live messages).state.documents.get?
        ⟨"file:///a.ksp"⟩
    let messages := [opening, change 5 "on note", change 3 "end on"]
    let others := [opening, change 3 "end on", change 5 "on note"]
    Unstopped messages ∧ Unstopped others ∧
      (∃ draft, run messages =
          some ⟨.ofString draft.text, .detect "ksp" ⟨"file:///a.ksp"⟩, draft.version⟩ ∧
        Draft.IsLatest [⟨2, "on init"⟩, ⟨5, "on note"⟩, ⟨3, "end on"⟩] draft) ∧
      run others = run messages := by
  intro opening change run messages others
  have hmessages : Unstopped messages := by decide
  have hothers : Unstopped others := by decide
  let newer : Notice := .changed ⟨"file:///a.ksp"⟩ 5 [⟨none, "on note"⟩]
  let older : Notice := .changed ⟨"file:///a.ksp"⟩ 3 [⟨none, "end on"⟩]
  have hhistory : notices messages =
      [] ++ .opened ⟨"file:///a.ksp"⟩ "ksp" 2 "on init" :: [newer, older] := rfl
  have hhistory' : notices others =
      [] ++ .opened ⟨"file:///a.ksp"⟩ "ksp" 2 "on init" :: [older, newer] := rfl
  have hsettled : Settled ⟨"file:///a.ksp"⟩ [newer, older] := by
    simp [Settled, newer, older, Notice.opens, Notice.closes]
  have hsettled' : Settled ⟨"file:///a.ksp"⟩ [older, newer] := by
    simp [Settled, newer, older, Notice.opens, Notice.closes]
  obtain ⟨-, hopened⟩ := get?_serve_eq_latest ⟨[], [], []⟩ (State.start none false) rfl
    hmessages ⟨"file:///a.ksp"⟩
  obtain ⟨hlatest, horder⟩ := hopened [] "ksp" 2 "on init" [newer, older] hhistory hsettled
  exact ⟨hmessages, hothers, hlatest, horder others [] [older, newer] hothers hhistory'
    hsettled' (List.Perm.swap _ _ _) (by decide)⟩

end KontaktScript
