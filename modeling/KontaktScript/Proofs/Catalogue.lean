import KontaktScript.Builtin.Listing
import KontaktScript.Proofs.Json
import Mathlib.Data.List.Basic

/-!
# What a catalogue describes

The entries of a catalogue are the objects in the lists of its groups.  If a catalogue
can be listed, each of its entries describes a builtin, and the tables that are listed
hold these builtins: the groups in the order of their names, and the entries of a group
in the order of its list.
-/

namespace KontaktScript

open Text

namespace Catalogue

/-- An entry of a catalogue: an object in the list of a group. -/
structure Entry where
  group : String
  fields : Json.Fields

/-- The builtin that an entry describes. -/
def Entry.builtin? (entry : Entry) : Option Builtin := do
  let decl ← (entry.fields.lookup "decl").bind Json.string?
  let signature ← Signature.read? decl
  let doc := (entry.fields.lookup "doc").bind Json.string?
  return ⟨signature.name, signature.shown,
    doc.elim "" fun doc => String.ofList (trim doc.toList), entry.group⟩

/-- The entries in the list of a group.  What is no object is skipped. -/
def entriesOfGroup (group : String × Json) : List Entry :=
  ((group.2.array?.getD []).filterMap Json.object?).map (Entry.mk group.1)

def groupsUnder (catalogue : Json) (key : String) : Json.Fields :=
  (((catalogue.field? key).bind fun category => category.field? "groups").bind
    Json.object?).getD []

/-- The entries under a key of a catalogue, group by group. -/
def entriesUnder (catalogue : Json) (key : String) : List Entry :=
  (groupsUnder catalogue key).flatMap entriesOfGroup

/-- The tables that a catalogue describes. -/
def described (catalogue : Json) : Tables :=
  ⟨(entriesUnder catalogue "commands").filterMap Entry.builtin?,
    (entriesUnder catalogue "variables").filterMap Entry.builtin?,
    (entriesUnder catalogue "ui-controls").filterMap Entry.builtin?⟩

theorem docOf_eq (fields : Json.Fields) :
    docOf fields = ((fields.lookup "doc").bind Json.string?).elim ""
      fun doc => String.ofList (trim doc.toList) := by
  rw [docOf]
  cases (fields.lookup "doc").bind Json.string? with
  | none => rfl
  | some doc => rfl

theorem builtin?_of_entry {group : String} {fields : Json.Fields} {builtin : Builtin}
    (hentry : entry group fields = .ok builtin) :
    (Entry.mk group fields).builtin? = some builtin := by
  rw [entry] at hentry
  cases hdecl : (fields.lookup "decl").bind Json.string? with
  | none =>
      simp only [hdecl] at hentry
      cases hentry
  | some decl =>
      cases hsignature : Signature.read? decl with
      | none =>
          simp only [hdecl, hsignature] at hentry
          cases hentry
      | some signature =>
          simp only [hdecl, hsignature, docOf_eq] at hentry
          cases hentry
          simp only [Entry.builtin?, hdecl, hsignature, Option.bind_eq_bind, Option.bind_some,
            Option.pure_def]

theorem entriesOfGroup_cons (group : String) (fields : Json.Fields) (items : List Json) :
    entriesOfGroup (group, .array (.object fields :: items)) =
      ⟨group, fields⟩ :: entriesOfGroup (group, .array items) := rfl

theorem map_builtin?_of_entries {group : String} {items : List Json} {table : List Builtin}
    (hentries : entries group items = .ok table) :
    (entriesOfGroup (group, .array items)).map Entry.builtin? = table.map some := by
  induction items generalizing table with
  | nil =>
      cases hentries
      rfl
  | cons item items ih =>
      cases item with
      | object fields =>
          rw [entries] at hentries
          obtain ⟨first, hfirst, hrest⟩ := bind_eq_ok hentries
          obtain ⟨rest, hothers, heq⟩ := bind_eq_ok hrest
          cases heq
          rw [entriesOfGroup_cons, List.map_cons, builtin?_of_entry hfirst, ih hothers,
            List.map_cons]
      | _ => exact ih hentries

theorem map_builtin?_of_groups {fields : Json.Fields} {table : List Builtin}
    (hgroups : groups fields = .ok table) :
    (fields.flatMap entriesOfGroup).map Entry.builtin? = table.map some := by
  induction fields generalizing table with
  | nil =>
      cases hgroups
      rfl
  | cons field rest ih =>
      obtain ⟨group, value⟩ := field
      cases value with
      | array items =>
          rw [groups] at hgroups
          obtain ⟨first, hfirst, hrest⟩ := bind_eq_ok hgroups
          obtain ⟨others, hothers, heq⟩ := bind_eq_ok hrest
          cases heq
          rw [List.flatMap_cons, List.map_append, map_builtin?_of_entries hfirst, ih hothers,
            List.map_append]
      | _ => cases hgroups

theorem map_builtin?_of_category {catalogue : Json} {key : String} {table : List Builtin}
    (hcategory : category catalogue key = .ok table) :
    (entriesUnder catalogue key).map Entry.builtin? = table.map some := by
  rw [category] at hcategory
  cases hfields : (catalogue.field? key).bind Json.object? with
  | none =>
      simp only [hfields] at hcategory
      cases hcategory
  | some fields =>
      obtain ⟨value, hvalue, hobject⟩ := Option.bind_eq_some_iff.mp hfields
      have hgroups : value.field? "groups" = fields.lookup "groups" := by
        cases value with
        | object fields =>
            cases hobject
            rfl
        | _ => cases hobject
      simp only [hfields] at hcategory
      rw [entriesUnder, groupsUnder, hvalue, Option.bind_some, hgroups]
      cases hinner : (fields.lookup "groups").bind Json.object? with
      | none =>
          simp only [hinner] at hcategory
          cases hcategory
          rfl
      | some inner =>
          simp only [hinner] at hcategory
          exact map_builtin?_of_groups hcategory

/-- If a category can be listed, each of its entries describes a builtin, and these are
listed. -/
theorem described_of_category {catalogue : Json} {key : String} {table : List Builtin}
    (hcategory : category catalogue key = .ok table) :
    (∀ entry ∈ entriesUnder catalogue key, entry.builtin?.isSome = true) ∧
      (entriesUnder catalogue key).filterMap Entry.builtin? = table := by
  have hmap := map_builtin?_of_category hcategory
  constructor
  · intro entry hentry
    have hmem : entry.builtin? ∈ table.map some := by
      rw [← hmap]
      exact List.mem_map_of_mem hentry
    obtain ⟨builtin, -, heq⟩ := List.mem_map.mp hmem
    rw [← heq, Option.isSome_some]
  · calc (entriesUnder catalogue key).filterMap Entry.builtin?
        = ((entriesUnder catalogue key).map Entry.builtin?).filterMap id := by
          rw [List.filterMap_map, Function.id_comp]
      _ = table := by rw [hmap, List.filterMap_map, Function.id_comp, List.filterMap_some]

/-- The tables that are listed are those that the catalogue describes. -/
theorem described_of_listing {catalogue : Json} {text : String}
    (hlisting : Catalogue.listing catalogue = .ok text) :
    (∀ key ∈ ["commands", "variables", "ui-controls"],
      ∀ entry ∈ entriesUnder catalogue key, entry.builtin?.isSome = true) ∧
    text = (described catalogue).listing := by
  rw [Catalogue.listing] at hlisting
  cases htables : Catalogue.tables catalogue with
  | error cause =>
      rw [htables] at hlisting
      cases hlisting
  | ok tables =>
      rw [htables] at hlisting
      cases hlisting
      obtain ⟨commands, hcommands, hrest⟩ := bind_eq_ok htables
      obtain ⟨vars, hvars, hrest⟩ := bind_eq_ok hrest
      obtain ⟨controls, hcontrols, heq⟩ := bind_eq_ok hrest
      cases heq
      obtain ⟨hfirst, rfl⟩ := described_of_category hcommands
      obtain ⟨hsecond, rfl⟩ := described_of_category hvars
      obtain ⟨hthird, rfl⟩ := described_of_category hcontrols
      refine ⟨?_, rfl⟩
      simp only [List.forall_mem_cons]
      exact ⟨hfirst, hsecond, hthird, List.forall_mem_nil _⟩

theorem exists_entry_of_mem_described {catalogue : Json} {builtin : Builtin}
    (hbuiltin : builtin ∈ (described catalogue).all) :
    ∃ entry : Entry, entry.builtin? = some builtin := by
  simp only [Tables.all, described, List.mem_append, List.mem_filterMap] at hbuiltin
  rcases hbuiltin with (⟨entry, -, hentry⟩ | ⟨entry, -, hentry⟩) | ⟨entry, -, hentry⟩
  · exact ⟨entry, hentry⟩
  · exact ⟨entry, hentry⟩
  · exact ⟨entry, hentry⟩

/-- A name is part of the declaration that shows it. -/
theorem isInfix_name_of_builtin? {entry : Entry} {builtin : Builtin}
    (hbuiltin : entry.builtin? = some builtin) :
    builtin.name.toList <:+: builtin.decl.toList := by
  simp only [Entry.builtin?, Option.bind_eq_bind, Option.bind_eq_some_iff, Option.pure_def,
    Option.some.injEq] at hbuiltin
  obtain ⟨decl, -, signature, hsignature, rfl⟩ := hbuiltin
  obtain ⟨found, -, rfl⟩ := Option.map_eq_some_iff.mp hsignature
  refine ⟨found.before, found.behind, ?_⟩
  simp only [String.toList_ofList]

end Catalogue

namespace Json

/-- Fields in ascending order of their names. -/
def Ascending (fields : Fields) : Prop :=
  fields.Pairwise fun left right => left.1 < right.1

theorem eq_or_mem_of_mem_setField {name : String} {value : Json} {fields : Fields}
    {field : String × Json} (hfield : field ∈ setField name value fields) :
    field = (name, value) ∨ field ∈ fields := by
  induction fields with
  | nil => exact .inl (List.mem_singleton.mp hfield)
  | cons first rest ih =>
      obtain ⟨other, old⟩ := first
      rw [setField] at hfield
      split_ifs at hfield
      · exact List.mem_cons.mp hfield
      · exact (List.mem_cons.mp hfield).imp id (List.mem_cons_of_mem _)
      · rcases List.mem_cons.mp hfield with hfirst | hrest
        · exact .inr (List.mem_cons.mpr (.inl hfirst))
        · exact (ih hrest).imp id (List.mem_cons_of_mem _)

theorem ascending_setField (name : String) (value : Json) {fields : Fields}
    (hfields : Ascending fields) : Ascending (setField name value fields) := by
  induction fields with
  | nil => exact List.pairwise_singleton _ _
  | cons first rest ih =>
      obtain ⟨other, old⟩ := first
      obtain ⟨hfirst, hrest⟩ := List.pairwise_cons.mp hfields
      rw [setField]
      split_ifs with hlt heq
      · refine List.Pairwise.cons ?_ hfields
        intro field hfield
        rcases List.mem_cons.mp hfield with rfl | hfield
        · exact hlt
        · exact String.lt_trans hlt (hfirst field hfield)
      · subst heq
        exact List.Pairwise.cons hfirst hrest
      · refine List.Pairwise.cons ?_ (ih hrest)
        intro field hfield
        rcases eq_or_mem_of_mem_setField hfield with rfl | hfield
        · exact Decidable.byContradiction fun hnot =>
            heq (String.le_antisymm (String.not_lt.mp hnot) (String.not_lt.mp hlt))
        · exact hfirst field hfield

theorem ascending_sortFields (fields : Fields) : Ascending (sortFields fields) :=
  List.foldlRecOn fields _ List.Pairwise.nil fun _ hsorted field _ =>
    ascending_setField field.1 field.2 hsorted

theorem mem_of_mem_sortFields {fields : Fields} {field : String × Json}
    (hfield : field ∈ sortFields fields) : field ∈ fields := by
  have hall : ∀ other ∈ sortFields fields, other ∈ fields := by
    refine List.foldlRecOn (motive := fun sorted => ∀ other ∈ sorted, other ∈ fields) fields _
      (List.forall_mem_nil _) ?_
    intro sorted hsorted first hfirst other hother
    rcases eq_or_mem_of_mem_setField hother with rfl | hother
    · exact hfirst
    · exact hsorted other hother
  exact hall field hfield

theorem exists_canonical_of_mem {fields : Fields} {name : String} {value : Json}
    (hfield : (name, value) ∈ canonicalFields fields) : ∃ written, value = canonical written := by
  induction fields with
  | nil =>
      rw [canonicalFields] at hfield
      cases hfield
  | cons first rest ih =>
      rw [canonicalFields] at hfield
      rcases List.mem_cons.mp hfield with hfirst | hrest
      · cases hfirst
        exact ⟨_, rfl⟩
      · exact ih hrest

theorem exists_canonical_of_field? {json value : Json} {name : String}
    (hvalue : json.canonical.field? name = some value) : ∃ written, value = canonical written := by
  cases json with
  | object fields =>
      rw [canonical, field?] at hvalue
      obtain ⟨before, behind, heq, -⟩ := List.lookup_eq_some_iff.mp hvalue
      apply exists_canonical_of_mem
      apply mem_of_mem_sortFields
      rw [heq]
      exact List.mem_append_right _ List.mem_cons_self
  | _ => cases hvalue

theorem ascending_of_object? {json : Json} {fields : Fields}
    (hfields : json.canonical.object? = some fields) : Ascending fields := by
  cases json with
  | object fields =>
      rw [canonical, object?, Option.some.injEq] at hfields
      rw [← hfields]
      exact ascending_sortFields _
  | _ => cases hfields

end Json

namespace Catalogue

theorem group_of_mem_entriesOfGroup {group : String × Json} {entry : Entry}
    (hentry : entry ∈ entriesOfGroup group) : entry.group = group.1 := by
  obtain ⟨fields, -, rfl⟩ := List.mem_map.mp hentry
  rfl

/-- The groups of a category come in the order of their names. -/
theorem ascending_groupsUnder (json : Json) (key : String) :
    Json.Ascending (groupsUnder json.canonical key) := by
  rw [groupsUnder]
  cases hgroups : ((json.canonical.field? key).bind fun category =>
      category.field? "groups").bind Json.object? with
  | none => exact List.Pairwise.nil
  | some groups =>
      obtain ⟨value, hvalue, hobject⟩ := Option.bind_eq_some_iff.mp hgroups
      obtain ⟨category, hcategory, hvalue⟩ := Option.bind_eq_some_iff.mp hvalue
      obtain ⟨written, rfl⟩ := Json.exists_canonical_of_field? hcategory
      obtain ⟨inner, rfl⟩ := Json.exists_canonical_of_field? hvalue
      exact Json.ascending_of_object? hobject

theorem pairwise_group_entriesUnder (json : Json) (key : String) :
    (entriesUnder json.canonical key).Pairwise fun left right => left.group ≤ right.group := by
  rw [entriesUnder, List.pairwise_flatMap]
  constructor
  · intro group hgroup
    apply List.pairwise_of_forall_mem_list
    intro left hleft right hright
    have hsame : left.group = right.group :=
      (group_of_mem_entriesOfGroup hleft).trans (group_of_mem_entriesOfGroup hright).symm
    exact hsame ▸ String.le_refl left.group
  · refine (ascending_groupsUnder json key).imp ?_
    intro first second hlt left hleft right hright
    rw [group_of_mem_entriesOfGroup hleft, group_of_mem_entriesOfGroup hright]
    exact String.not_lt.mp fun hgt => String.lt_irrefl _ (String.lt_trans hlt hgt)

end Catalogue

end KontaktScript
