import KontaktScript.Json.Decode

/-!
# Members and decoding of JSON values

Facts about computations that may fail, about the members of objects, and about what a
decoder that succeeds has read.
-/

namespace KontaktScript

theorem bind_eq_ok {ε α β : Type} {first : Except ε α} {rest : α → Except ε β} {value : β}
    (hvalue : first >>= rest = .ok value) :
    ∃ part, first = .ok part ∧ rest part = .ok value := by
  cases first with
  | error cause => cases hvalue
  | ok part => exact ⟨part, rfl, hvalue⟩

theorem eq_ok_of_toOption {ε α : Type} {result : Except ε α} {value : α}
    (hvalue : result.toOption = some value) : result = .ok value := by
  cases result with
  | error cause => cases hvalue
  | ok found =>
      cases hvalue
      rfl

theorem map_eq_ok {ε α β : Type} {result : Except ε α} {change : α → β} {value : β}
    (hvalue : result.map change = .ok value) : ∃ part, result = .ok part ∧ change part = value := by
  cases result with
  | error cause => cases hvalue
  | ok part =>
      cases hvalue
      exact ⟨part, rfl, rfl⟩

theorem Json.isNull_iff {json : Json} : json.isNull = true ↔ json = .null := by
  cases json <;> simp [isNull]

namespace Decoder

theorem items_value (values : List Json) : items value values = .ok values := by
  induction values with
  | nil => rfl
  | cons first rest ih =>
      rw [items, ih]
      rfl

theorem present?_eq_ok_some {α : Type} {fields : Json.Fields} {name : String}
    {decode : Decoder α} {value : α}
    (hvalue : present? fields name decode = .ok (some value)) :
    ∃ part, decode part = .ok value := by
  rw [present?] at hvalue
  split at hvalue
  · rename_i part _
    obtain ⟨found, hfound, hsome⟩ := map_eq_ok hvalue
    cases hsome
    exact ⟨part, hfound⟩
  · cases hvalue

end Decoder

end KontaktScript
