/-!
# Occurrences of a text in a text
-/

namespace KontaktScript.Text

/-- What follows `lead` in a text that starts with it. -/
def after? : List Char → List Char → Option (List Char)
  | [], cs => some cs
  | _ :: _, [] => none
  | l :: lead, c :: cs => if l = c then after? lead cs else none

/-- The offset of the first occurrence of `needle`. -/
def firstOccurrence? (needle : List Char) : List Char → Option Nat
  | [] => if needle = [] then some 0 else none
  | c :: cs =>
      if (after? needle (c :: cs)).isSome then some 0
      else (firstOccurrence? needle cs).map (· + 1)

theorem after?_eq_some_iff {lead cs rest : List Char} :
    after? lead cs = some rest ↔ cs = lead ++ rest := by
  induction lead generalizing cs with
  | nil => simp [after?, eq_comm]
  | cons l lead ih =>
      cases cs with
      | nil => simp [after?]
      | cons c cs =>
          by_cases hlc : l = c
          · subst hlc
            simp [after?, ih]
          · have hcl : c ≠ l := fun h => hlc h.symm
            simp [after?, hlc, hcl]

@[simp]
theorem after?_append (lead rest : List Char) :
    after? lead (lead ++ rest) = some rest :=
  after?_eq_some_iff.mpr rfl

end KontaktScript.Text
