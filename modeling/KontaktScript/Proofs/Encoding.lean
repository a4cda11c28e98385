import KontaktScript.Feature.Completion
import KontaktScript.Feature.Definition
import KontaktScript.Feature.Hover
import KontaktScript.Feature.Outline
import Mathlib.Data.List.Forall2

/-!
# What an answer holds

The editor finds the parts of an answer by name.  The structures here say what stands
under each name, and that there is nothing else and nothing twice.
-/

namespace KontaktScript

namespace Json

/-- An object whose fields have some of the names, in the order of the names. -/
def HasNames (json : Json) (names : List String) : Prop :=
  ∃ fields, json = .object fields ∧ (fields.map Prod.fst).Sublist names

structure IsPosition (json : Json) (position : Position) : Prop where
  hasNames : json.HasNames ["line", "character"]
  line_eq : json.field? "line" = some (.int position.line.toNat)
  character_eq : json.field? "character" = some (.int position.character.toNat)

structure IsRange (json : Json) (range : Range) : Prop where
  hasNames : json.HasNames ["start", "end"]
  isPosition_start : ∃ start ∈ json.field? "start", start.IsPosition range.start
  isPosition_stop : ∃ stop ∈ json.field? "end", stop.IsPosition range.stop

structure IsLocation (json : Json) (location : Location) : Prop where
  hasNames : json.HasNames ["uri", "range"]
  uri_eq : json.field? "uri" = some (.string location.uri.text)
  isRange : ∃ range ∈ json.field? "range", range.IsRange location.range

/-- Code is labelled with its language, and other text stands for itself. -/
inductive IsMarked : Json → Marked → Prop
  | code {json : Json} {text : String} (hnames : json.HasNames ["language", "value"])
      (hlanguage : json.field? "language" = some (.string "ksp"))
      (hvalue : json.field? "value" = some (.string text)) : IsMarked json (.code text)
  | text (text : String) : IsMarked (.string text) (.text text)

structure IsHover (json : Json) (hover : Hover) : Prop where
  hasNames : json.HasNames ["contents", "range"]
  isMarked : ∃ shown, json.field? "contents" = some (.array shown) ∧
    List.Forall₂ IsMarked shown hover.contents
  isRange : ∃ range ∈ json.field? "range", range.IsRange hover.range

structure IsOutlineEntry (json : Json) (entry : OutlineEntry) : Prop where
  hasNames : json.HasNames ["name", "detail", "kind", "range", "selectionRange"]
  name_eq : json.field? "name" = some (.string entry.name)
  detail_eq : json.field? "detail" = some (.string entry.detail)
  kind_eq : json.field? "kind" = some (.int (OutlineEntry.roleNumber entry.role))
  isRange : ∃ range ∈ json.field? "range", range.IsRange entry.range
  isRange_selection : ∃ range ∈ json.field? "selectionRange", range.IsRange entry.selection

structure IsCompletionItem (json : Json) (item : CompletionItem) : Prop where
  hasNames : json.HasNames ["label", "labelDetails", "kind", "detail", "documentation"]
  label_eq : json.field? "label" = some (.string item.label)
  kind_eq : json.field? "kind" = some (.int (CompletionItem.roleNumber item.role))
  detail_eq : json.field? "detail" = some (.string item.detail)
  group_eq : json.field? "labelDetails" =
    item.group.map fun group => .object [("description", .string group)]
  documentation_eq : json.field? "documentation" = item.documentation.map .string

end Json

theorem Position.isPosition_toJson (position : Position) :
    position.toJson.IsPosition position :=
  ⟨⟨_, rfl, .refl _⟩, rfl, rfl⟩

theorem Range.isRange_toJson (range : Range) : range.toJson.IsRange range :=
  ⟨⟨_, rfl, .refl _⟩, ⟨_, rfl, range.start.isPosition_toJson⟩,
    ⟨_, rfl, range.stop.isPosition_toJson⟩⟩

theorem Location.isLocation_toJson (location : Location) :
    location.toJson.IsLocation location :=
  ⟨⟨_, rfl, .refl _⟩, rfl, _, rfl, location.range.isRange_toJson⟩

theorem Marked.isMarked_toJson (marked : Marked) : marked.toJson.IsMarked marked := by
  cases marked with
  | code text => exact .code ⟨_, rfl, .refl _⟩ rfl rfl
  | text text => exact .text text

theorem forall₂_map_self {α : Type} {encode : α → Json} {stands : Json → α → Prop}
    (hencode : ∀ value, stands (encode value) value) (values : List α) :
    List.Forall₂ stands (values.map encode) values := by
  rw [List.forall₂_map_left_iff]
  exact List.forall₂_same.mpr fun value _ => hencode value

theorem Hover.isHover_toJson (hover : Hover) : hover.toJson.IsHover hover :=
  ⟨⟨_, rfl, .refl _⟩, ⟨_, rfl, forall₂_map_self Marked.isMarked_toJson hover.contents⟩,
    _, rfl, hover.range.isRange_toJson⟩

theorem OutlineEntry.isOutlineEntry_toJson (entry : OutlineEntry) :
    entry.toJson.IsOutlineEntry entry :=
  ⟨⟨_, rfl, .refl _⟩, rfl, rfl, rfl, ⟨_, rfl, entry.range.isRange_toJson⟩,
    ⟨_, rfl, entry.selection.isRange_toJson⟩⟩

theorem CompletionItem.isCompletionItem_toJson (item : CompletionItem) :
    item.toJson.IsCompletionItem item := by
  obtain ⟨label, role, detail, group, documentation⟩ := item
  refine ⟨⟨_, rfl, ?_⟩, rfl, ?_, ?_, ?_, ?_⟩
  · cases group <;> cases documentation <;> simp
  all_goals cases group <;> cases documentation <;> rfl

end KontaktScript
