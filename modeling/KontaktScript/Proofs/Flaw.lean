import KontaktScript.Proofs.Catalogue
import KontaktScript.Proofs.Signature

/-!
# What is wrong with a catalogue

A catalogue is checked while it is read: its categories, their groups and the entries of
the groups.  Flaws may sit at each of these levels, and a catalogue may have many.  It can
be listed just if it has none; otherwise the first in the order of reading is reported.
What a catalogue holds beside these parts is passed over, whatever it is.
-/

namespace KontaktScript

/-- What went wrong in a computation. -/
def fault? {ε α : Type} : Except ε α → Option ε
  | .ok _ => none
  | .error cause => some cause

section Fault

variable {ε α β : Type}

theorem fault?_eq_some_iff {result : Except ε α} {cause : ε} :
    fault? result = some cause ↔ result = .error cause := by
  cases result <;> simp [fault?]

theorem fault?_eq_none_iff {result : Except ε α} :
    fault? result = none ↔ ∃ value, result = .ok value := by
  cases result <;> simp [fault?]

theorem fault?_map (f : α → β) (result : Except ε α) : fault? (result.map f) = fault? result := by
  cases result <;> rfl

/-- Of two computations the second counts only if nothing went wrong in the first. -/
theorem fault?_bind {first : Except ε α} {rest : α → Except ε β} {later : Option ε}
    (hrest : ∀ value, fault? (rest value) = later) :
    fault? (first >>= rest) = (fault? first).or later := by
  cases first with
  | error cause => rfl
  | ok value => exact hrest value

theorem fault?_bind_pure (f : α → β) (result : Except ε α) :
    fault? (result >>= fun value => pure (f value)) = fault? result := by
  cases result <;> rfl

theorem findSome?_cons_eq_or (f : α → Option β) (first : α) (rest : List α) :
    (first :: rest).findSome? f = (f first).or (rest.findSome? f) := by
  rw [List.findSome?_cons]
  cases f first <;> rfl

end Fault

namespace Json

theorem bind_object?_eq_none_iff {value : Option Json} :
    value.bind Json.object? = none ↔ ∀ fields, value ≠ some (.object fields) := by
  cases value with
  | none => simp
  | some json => cases json <;> simp [Json.object?]

theorem array?_eq_none_iff {value : Json} :
    value.array? = none ↔ ∀ items, value ≠ .array items := by
  cases value <;> simp [Json.array?]

theorem bind_string?_eq_none_iff {value : Option Json} :
    value.bind Json.string? = none ↔ ∀ text, value ≠ some (.string text) := by
  cases value with
  | none => simp
  | some json => cases json <;> simp [Json.string?]

theorem bind_string?_eq_some_iff {value : Option Json} {text : String} :
    value.bind Json.string? = some text ↔ value = some (.string text) := by
  cases value with
  | none => simp
  | some json => cases json <;> simp [Json.string?]

end Json

namespace Catalogue

/-- A part of a catalogue that may be flawed. -/
inductive Spot where
  /-- What stands under the key of a category, if anything does. -/
  | category (key : String) (value : Option Json)
  | group (name : String) (value : Json)
  | entry (entry : Entry)

def spotsOfGroup (group : String × Json) : List Spot :=
  .group group.1 group.2 :: (entriesOfGroup group).map .entry

def spotsUnder (catalogue : Json) (key : String) : List Spot :=
  .category key (catalogue.field? key) :: (groupsUnder catalogue key).flatMap spotsOfGroup

/-- All parts that may be flawed, in the order of reading. -/
def spots (catalogue : Json) : List Spot :=
  ["commands", "variables", "ui-controls"].flatMap (spotsUnder catalogue)

/-- What can be wrong with an entry depends on its `decl` alone. -/
theorem entry_eq_error_iff {group : String} {fields : Json.Fields} {cause : CatalogueError} :
    entry group fields = .error cause ↔
      (∀ decl, fields.lookup "decl" ≠ some (.string decl)) ∧ cause = .missingDecl group ∨
        ∃ decl, fields.lookup "decl" = some (.string decl) ∧ Signature.read? decl = none ∧
          cause = .unnamed decl := by
  rw [entry]
  cases hdecl : (fields.lookup "decl").bind Json.string? with
  | none =>
      have hmissing := Json.bind_string?_eq_none_iff.mp hdecl
      simp [hmissing, eq_comm]
  | some decl =>
      have hstring := Json.bind_string?_eq_some_iff.mp hdecl
      cases hread : Signature.read? decl with
      | none => simp [hstring, hread, eq_comm]
      | some signature => simp [hstring, hread]

namespace Spot

/-- The ways in which a part can be flawed. -/
inductive Flawed : Spot → CatalogueError → Prop where
  | category {key : String} {value : Option Json}
      (hvalue : ∀ fields, value ≠ some (.object fields)) :
      Flawed (.category key value) (.missingCategory key)
  | group {name : String} {value : Json} (hvalue : ∀ items, value ≠ .array items) :
      Flawed (.group name value) (.malformedGroup name)
  | decl {entry : Entry} (hdecl : ∀ decl, entry.fields.lookup "decl" ≠ some (.string decl)) :
      Flawed (.entry entry) (.missingDecl entry.group)
  | name {entry : Entry} {decl : String}
      (hdecl : entry.fields.lookup "decl" = some (.string decl))
      (hname : ∀ before name behind, ¬ BracedCut decl.toList before name behind) :
      Flawed (.entry entry) (.unnamed decl)

def flaw? : Spot → Option CatalogueError
  | category key value =>
      if (value.bind Json.object?).isNone then some (.missingCategory key) else none
  | group name value => if value.array?.isNone then some (.malformedGroup name) else none
  | entry found => fault? (Catalogue.entry found.group found.fields)

theorem flaw?_entry_eq_some_iff {found : Entry} {cause : CatalogueError} :
    (entry found).flaw? = some cause ↔ (entry found).Flawed cause := by
  rw [flaw?, fault?_eq_some_iff, entry_eq_error_iff]
  constructor
  · rintro (⟨hmissing, rfl⟩ | ⟨decl, hdecl, hname, rfl⟩)
    · exact .decl hmissing
    · exact .name hdecl (Signature.read?_eq_none_iff.mp hname)
  · intro hflawed
    cases hflawed with
    | decl hmissing => exact .inl ⟨hmissing, rfl⟩
    | name hdecl hname => exact .inr ⟨_, hdecl, Signature.read?_eq_none_iff.mpr hname, rfl⟩

/-- A part is flawed in one way at most. -/
theorem flaw?_eq_some_iff {spot : Spot} {cause : CatalogueError} :
    spot.flaw? = some cause ↔ spot.Flawed cause := by
  cases spot with
  | category key value =>
      rw [flaw?, Option.ite_none_right_eq_some, Option.isNone_iff_eq_none,
        Json.bind_object?_eq_none_iff]
      constructor
      · rintro ⟨hvalue, hcause⟩
        cases hcause
        exact .category hvalue
      · intro hflawed
        cases hflawed with
        | category hvalue => exact ⟨hvalue, rfl⟩
  | group name value =>
      rw [flaw?, Option.ite_none_right_eq_some, Option.isNone_iff_eq_none,
        Json.array?_eq_none_iff]
      constructor
      · rintro ⟨hvalue, hcause⟩
        cases hcause
        exact .group hvalue
      · intro hflawed
        cases hflawed with
        | group hvalue => exact ⟨hvalue, rfl⟩
  | entry found => exact flaw?_entry_eq_some_iff

theorem flaw?_eq_none_iff {spot : Spot} :
    spot.flaw? = none ↔ ∀ cause, ¬ spot.Flawed cause := by
  rw [Option.eq_none_iff_forall_ne_some]
  exact forall_congr' fun cause => not_congr flaw?_eq_some_iff

end Spot

theorem fault?_entries (group : String) (items : List Json) :
    fault? (entries group items) =
      ((entriesOfGroup (group, .array items)).map Spot.entry).findSome? Spot.flaw? := by
  induction items with
  | nil => rfl
  | cons item items ih =>
      cases item with
      | object fields =>
          rw [entries, fault?_bind fun _ => fault?_bind_pure _ _, ih, entriesOfGroup_cons,
            List.map_cons, findSome?_cons_eq_or]
          rfl
      | _ => exact ih

theorem fault?_groups (fields : Json.Fields) :
    fault? (groups fields) = (fields.flatMap spotsOfGroup).findSome? Spot.flaw? := by
  induction fields with
  | nil => rfl
  | cons field rest ih =>
      obtain ⟨name, value⟩ := field
      rw [List.flatMap_cons, List.findSome?_append, spotsOfGroup, findSome?_cons_eq_or]
      cases value with
      | array items =>
          have hflaw : (Spot.group name (.array items)).flaw? = none := rfl
          rw [groups, fault?_bind fun _ => fault?_bind_pure _ _, ih, fault?_entries, hflaw,
            Option.none_or]
      | _ => rfl

theorem fault?_category (catalogue : Json) (key : String) :
    fault? (category catalogue key) = (spotsUnder catalogue key).findSome? Spot.flaw? := by
  rw [category, spotsUnder, findSome?_cons_eq_or, groupsUnder]
  cases hvalue : catalogue.field? key with
  | none => rfl
  | some value =>
      cases value with
      | object fields =>
          have hflaw : (Spot.category key (some (.object fields))).flaw? = none := rfl
          rw [hflaw, Option.none_or]
          simp only [Option.bind_some, Json.object?, Json.field?]
          cases hgroups : (fields.lookup "groups").bind Json.object? with
          | none => rfl
          | some inner => exact fault?_groups inner
      | _ => rfl

/-- The first flaw in the order of reading is reported. -/
theorem fault?_listing (catalogue : Json) :
    fault? (Catalogue.listing catalogue) = (spots catalogue).findSome? Spot.flaw? := by
  rw [Catalogue.listing, fault?_map, tables]
  rw [fault?_bind fun _ => fault?_bind fun _ => fault?_bind_pure _ _]
  simp only [fault?_category, spots, List.flatMap_cons, List.flatMap_nil, List.append_nil,
    List.findSome?_append]

/-! ## What is passed over -/

theorem category_of_no_groups {catalogue : Json} {key : String} {fields : Json.Fields}
    (hcategory : catalogue.field? key = some (.object fields))
    (hgroups : ∀ groups, fields.lookup "groups" ≠ some (.object groups)) :
    category catalogue key = .ok [] := by
  simp only [category, hcategory, Option.bind_some, Json.object?,
    Json.bind_object?_eq_none_iff.mpr hgroups]

/-- Items that are no objects make no difference. -/
theorem entries_filter_object (group : String) (items : List Json) :
    entries group (items.filter (·.object?.isSome)) = entries group items := by
  induction items with
  | nil => rfl
  | cons item items ih =>
      cases item with
      | object fields =>
          rw [List.filter_cons_of_pos rfl, entries, entries, ih]
      | _ => exact ih

end Catalogue

open Catalogue

/-- A catalogue can be listed just if no part of it is flawed, and otherwise the first
flaw in the order of reading is reported: category by category, the groups of each in the
order of their names, and the entries of each in the order of its list.  A category
without groups adds nothing, items that are no objects make no difference, and what is
wrong with an entry depends on its `decl` alone, not on its documentation. -/
theorem catalogue_reports_first_flaw (json : Json) :
    let catalogue := json.canonical
    (∀ cause, Catalogue.listing catalogue = .error cause ↔
        ∃ before spot behind, spots catalogue = before ++ spot :: behind ∧ spot.Flawed cause ∧
          ∀ earlier ∈ before, ∀ other, ¬ earlier.Flawed other) ∧
      ((∃ text, Catalogue.listing catalogue = .ok text) ↔
        ∀ spot ∈ spots catalogue, ∀ cause, ¬ spot.Flawed cause) ∧
      (∀ key, Json.Ascending (groupsUnder catalogue key)) ∧
      (∀ key fields, catalogue.field? key = some (.object fields) →
        (∀ groups, fields.lookup "groups" ≠ some (.object groups)) →
        category catalogue key = .ok []) ∧
      (∀ group items, entries group (items.filter (·.object?.isSome)) = entries group items) ∧
      ∀ group fields others, fields.lookup "decl" = others.lookup "decl" →
        ∀ cause, entry group fields = .error cause ↔ entry group others = .error cause := by
  intro catalogue
  refine ⟨?_, ?_, ascending_groupsUnder json, fun _ _ => category_of_no_groups,
    entries_filter_object, ?_⟩
  · intro cause
    rw [← fault?_eq_some_iff, fault?_listing, List.findSome?_eq_some_iff]
    simp only [Spot.flaw?_eq_some_iff, Spot.flaw?_eq_none_iff]
  · rw [← fault?_eq_none_iff, fault?_listing, List.findSome?_eq_none_iff]
    simp only [Spot.flaw?_eq_none_iff]
  · intro group fields others hsame cause
    rw [entry_eq_error_iff, entry_eq_error_iff, hsame]

/-- The entry without a `decl` comes before the one without a name, the group that is no
list and the categories that are missing.  Of the second catalogue nothing but what is
passed over is unusual. -/
theorem catalogue_reports_first_flaw_of_several :
    let many : Json := .object [("variables", .int 1), ("commands", .object [("groups", .object
      [("b", .null), ("a", .array [.int 3, .object [("doc", .string "x")],
        .object [("decl", .string "\x7b\x7d")]])])])]
    let unusual : Json := .object [("variables", .object [("groups", .int 1)]),
      ("ui-controls", .object []), ("commands", .object [("groups", .object
        [("a", .array [.null, .object [("doc", .int 1), ("decl", .string "\x7bx\x7d")]])])])]
    (∃ before entry behind, spots many.canonical = before ++ .entry entry :: behind ∧
      entry.group = "a" ∧ ∀ earlier ∈ before, ∀ other, ¬ earlier.Flawed other) ∧
      ∀ spot ∈ spots unusual.canonical, ∀ cause, ¬ spot.Flawed cause := by
  intro many unusual
  have hmany : fault? (Catalogue.listing many.canonical) = some (.missingDecl "a") := by
    decide +kernel
  have hunusual : fault? (Catalogue.listing unusual.canonical) = none := by decide +kernel
  constructor
  · obtain ⟨before, spot, behind, hsplit, hflawed, hfirst⟩ :=
      ((catalogue_reports_first_flaw many).1 _).mp (fault?_eq_some_iff.mp hmany)
    generalize hcause : CatalogueError.missingDecl "a" = cause at hflawed
    cases hflawed with
    | @decl entry hdecl =>
        have hgroup := CatalogueError.missingDecl.inj hcause
        exact ⟨before, entry, behind, hsplit, hgroup.symm, hfirst⟩
    | _ => cases hcause
  · exact (catalogue_reports_first_flaw unusual).2.1.mp (fault?_eq_none_iff.mp hunusual)

end KontaktScript
