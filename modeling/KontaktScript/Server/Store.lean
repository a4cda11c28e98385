import KontaktScript.Document
import KontaktScript.Language

/-!
# Open documents

The store holds the documents that the editor has open, each under its URI.
-/

namespace KontaktScript

structure OpenDocument where
  document : Document
  language : Language
  version : Int32

/-- At most one document for each URI. -/
structure Store where
  entries : List (Uri × OpenDocument) := []

namespace Store

def empty : Store := {}

def get? (store : Store) (uri : Uri) : Option OpenDocument :=
  store.entries.lookup uri

def erase (store : Store) (uri : Uri) : Store :=
  ⟨store.entries.filter (·.1 ≠ uri)⟩

def insert (store : Store) (uri : Uri) (document : OpenDocument) : Store :=
  ⟨(uri, document) :: (store.erase uri).entries⟩

/-- The open documents in ascending order of their URIs. -/
def toList (store : Store) : List (Uri × OpenDocument) :=
  store.entries.mergeSort fun left right => left.1.text ≤ right.1.text

@[simp]
theorem get?_empty (uri : Uri) : empty.get? uri = none := rfl

theorem lookup_filter_ne (entries : List (Uri × OpenDocument)) (uri other : Uri) :
    (entries.filter (·.1 ≠ uri)).lookup other =
      if other = uri then none else entries.lookup other := by
  induction entries with
  | nil => simp
  | cons entry entries ih =>
      rcases entry with ⟨key, document⟩
      by_cases hother : other = key
      · subst hother
        by_cases hkey : other = uri
        · rw [List.filter_cons_of_neg (by simpa using hkey), if_pos hkey]
          rwa [if_pos hkey] at ih
        · simp [hkey]
      · have hbeq : (other == key) = false := by simpa using hother
        rw [List.lookup_cons, hbeq]
        by_cases hkey : key = uri
        · rw [List.filter_cons_of_neg (by simpa using hkey)]
          exact ih
        · rw [List.filter_cons_of_pos (by simpa using hkey), List.lookup_cons, hbeq]
          exact ih

theorem get?_erase (store : Store) (uri other : Uri) :
    (store.erase uri).get? other = if other = uri then none else store.get? other :=
  lookup_filter_ne store.entries uri other

theorem get?_insert (store : Store) (uri other : Uri) (document : OpenDocument) :
    (store.insert uri document).get? other =
      if other = uri then some document else store.get? other := by
  by_cases hother : other = uri
  · subst hother
    simp [insert, get?]
  · have herase := get?_erase store uri other
    simp only [get?, hother, if_false] at herase
    have hbeq : (other == uri) = false := by simpa using hother
    rw [if_neg hother, get?, insert, List.lookup_cons, hbeq]
    exact herase

end Store

end KontaktScript
