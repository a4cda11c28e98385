import KontaktScript.Server.Action

/-!
# Faults and routes

A message passes through several layers: a list of routes, the handler of the route
that takes it, and the report of what the handler made of it.  A fault can come up in
each and is turned into a response, dropped or passed on in the next.  The lemmas here
say what each layer does to an action, on a link that works and on one that does not.
-/

namespace KontaktScript

namespace Action

theorem run_send_live (state : State) (sent : List Outgoing) (message : Outgoing) :
    (send message).run ⟨.live, state, sent⟩ = .ok () ⟨.live, state, sent ++ [message]⟩ := rfl

theorem run_send_lost (state : State) (sent : List Outgoing) (message : Outgoing) :
    (send message).run ⟨.lost, state, sent⟩ = .error .send ⟨.lost, state, sent⟩ := rfl

section Attempt

variable {action : Action Unit} {desk after : Desk} {fault : Fault}

theorem run_tryCatch_of_ok {α : Type} {action : Action α} {value : α}
    (handler : Fault → Action α) (haction : action.run desk = .ok value after) :
    (tryCatch action handler).run desk = .ok value after := by
  have hrun : action desk = .ok value after := haction
  change EStateM.tryCatch action handler desk = _
  delta EStateM.tryCatch
  simp only [hrun]

theorem run_tryCatch_of_error {α : Type} {action : Action α} (handler : Fault → Action α)
    (haction : action.run desk = .error fault after) :
    (tryCatch action handler).run desk = (handler fault).run after := by
  have hrun : action desk = .error fault after := haction
  change EStateM.tryCatch action handler desk = _
  delta EStateM.tryCatch
  simp only [hrun]
  rfl

theorem run_observing_of_ok (haction : action.run desk = .ok () after) :
    (observing action).run desk = .ok (.ok ()) after := by
  refine run_tryCatch_of_ok _ ?_
  rw [EStateM.run_bind, haction]
  rfl

theorem run_observing_of_error (haction : action.run desk = .error fault after) :
    (observing action).run desk = .ok (.error fault) after := by
  refine run_tryCatch_of_error _ ?_
  rw [EStateM.run_bind, haction]

/-- A fault that is reported leaves what was done before it. -/
theorem run_report_of_ok (haction : action.run desk = .ok () after) :
    (observing action >>= report).run desk = .ok () after := by
  rw [EStateM.run_bind, run_observing_of_ok haction]
  rfl

theorem run_report_of_send (haction : action.run desk = .error .send after) :
    (observing action >>= report).run desk = .error .send after := by
  rw [EStateM.run_bind, run_observing_of_error haction]
  rfl

theorem run_report_of_process {reason : Option String} {context : String}
    (haction : action.run desk = .error (.process reason context) after) :
    (observing action >>= report).run desk = .ok () after := by
  rw [EStateM.run_bind, run_observing_of_error haction]
  rfl

theorem exists_run_observing (desk : Desk) (action : Action Unit) :
    ∃ result after, (observing action).run desk = .ok result after := by
  cases haction : action.run desk with
  | ok value after => exact ⟨_, _, run_observing_of_ok haction⟩
  | error fault after => exact ⟨_, _, run_observing_of_error haction⟩

theorem run_tolerate_of_ok (haction : action.run desk = .ok () after) :
    (tolerate action).run desk = .ok () after :=
  run_tryCatch_of_ok _ haction

theorem run_tolerate_of_error (haction : action.run desk = .error fault after) :
    (tolerate action).run desk = .ok () after :=
  run_tryCatch_of_error _ haction

theorem run_tolerate_congr {left right : Action Unit} (hrun : left.run desk = right.run desk) :
    (tolerate left).run desk = (tolerate right).run desk := by
  cases hright : right.run desk with
  | ok value after => rw [run_tolerate_of_ok hright, run_tolerate_of_ok (hrun.trans hright)]
  | error fault after =>
      rw [run_tolerate_of_error hright, run_tolerate_of_error (hrun.trans hright)]

end Attempt

/-- A message comes to the first route that takes it. -/
theorem run_dispatch_map {κ α : Type} {route : κ → α → Action (Flow α)} {takes : κ → Bool}
    {message : α} {desk : Desk}
    (hpass : ∀ key, takes key = false → (route key message).run desk = .ok (.pass message) desk)
    (hdone : ∀ key, takes key = true →
      ∃ result after, (route key message).run desk = .ok (.done result) after)
    (keys : List κ) :
    (dispatch (keys.map route) message).run desk =
      ((keys.find? takes).elim (pure (.pass message)) (route · message)).run desk := by
  induction keys with
  | nil => rfl
  | cons key keys ih =>
      rw [List.map_cons, dispatch, EStateM.run_bind]
      cases htakes : takes key with
      | false =>
          rw [hpass key htakes, List.find?_cons_of_neg (by simp [htakes])]
          exact ih
      | true =>
          obtain ⟨result, after, hrun⟩ := hdone key htakes
          rw [List.find?_cons_of_pos htakes, Option.elim_some, hrun]
          rfl

/-- An action that sends at most one message, and that fails only because the editor
does not take it. -/
structure IsModest (action : Action Unit) : Prop where
  live : ∀ state sent, ∃ next caused, caused.length ≤ 1 ∧
    action.run ⟨.live, state, sent⟩ = .ok () ⟨.live, next, sent ++ caused⟩
  lost : ∀ state sent, ∃ next,
    action.run ⟨.lost, state, sent⟩ = .ok () ⟨.lost, next, sent⟩ ∨
      action.run ⟨.lost, state, sent⟩ = .error .send ⟨.lost, next, sent⟩

theorem isModest_send (message : Outgoing) : (send message).IsModest where
  live state sent := ⟨state, [message], Nat.le_refl 1, run_send_live state sent message⟩
  lost state sent := ⟨state, .inr (run_send_lost state sent message)⟩

theorem isModest_of_silent {action : Action Unit} (change : State → State)
    (hrun : ∀ link state sent,
      action.run ⟨link, state, sent⟩ = .ok () ⟨link, change state, sent⟩) :
    action.IsModest where
  live state sent := ⟨change state, [], Nat.zero_le 1, by rw [hrun, List.append_nil]⟩
  lost state sent := ⟨change state, .inl (hrun .lost state sent)⟩

/-- An action that comes to a modest one in each state, perhaps after a change of the
state, is modest. -/
theorem isModest_of_run {action : Action Unit} (change : State → State)
    (choice : State → Action Unit)
    (hrun : ∀ link state sent,
      action.run ⟨link, state, sent⟩ = (choice state).run ⟨link, change state, sent⟩)
    (hchoice : ∀ state, (choice state).IsModest) : action.IsModest where
  live state sent := by
    rw [hrun]
    exact (hchoice state).live (change state) sent
  lost state sent := by
    rw [hrun]
    exact (hchoice state).lost (change state) sent

namespace IsModest

variable {action : Action Unit} {desk : Desk}

/-- Reporting changes nothing about a modest action. -/
theorem run_report (haction : action.IsModest) :
    (observing action >>= report).run desk = action.run desk := by
  rcases desk with ⟨link, state, sent⟩
  cases link with
  | live =>
      obtain ⟨next, caused, -, hrun⟩ := haction.live state sent
      rw [hrun, run_report_of_ok hrun]
  | lost =>
      obtain ⟨next, hrun | hrun⟩ := haction.lost state sent
      · rw [hrun, run_report_of_ok hrun]
      · rw [hrun, run_report_of_send hrun]

theorem tolerate (haction : action.IsModest) : (Action.tolerate action).IsModest where
  live state sent := by
    obtain ⟨next, caused, hcaused, hrun⟩ := haction.live state sent
    exact ⟨next, caused, hcaused, run_tolerate_of_ok hrun⟩
  lost state sent := by
    obtain ⟨next, hrun | hrun⟩ := haction.lost state sent
    · exact ⟨next, .inl (run_tolerate_of_ok hrun)⟩
    · exact ⟨next, .inl (run_tolerate_of_error hrun)⟩

end IsModest

end Action

end KontaktScript
