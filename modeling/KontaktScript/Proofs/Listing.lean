import KontaktScript.Proofs.Catalogue
import KontaktScript.Proofs.Occurrence

/-!
# Listings read back

A listing is read by following its fixed texts and reading each raw literal up to the
first quote that a number sign follows.  Nothing in a literal is escaped, so this gives
back what the catalogue describes exactly if no group, declaration or documentation
holds a quote directly followed by a number sign.  Anything else may stand in them:
text that looks like a listing, and a quote at the end.
-/

namespace KontaktScript

open Text

namespace Text

/-- What ends a literal starts with a character that it does not hold again, so it is found
first behind a text exactly if the text does not hold it. -/
theorem firstOccurrence?_end_iff (text rest : List Char) :
    firstOccurrence? ['"', '#'] (text ++ (['"', '#'] ++ rest)) = some text.length ↔
      ¬ ['"', '#'] <:+: text := by
  constructor
  · rintro hoffset ⟨before, behind, rfl⟩
    have hearlier : ['"', '#'] <+:
        (before ++ ['"', '#'] ++ behind ++ (['"', '#'] ++ rest)).drop before.length := by
      rw [List.append_assoc, List.append_assoc, List.drop_left]
      exact List.prefix_append _ _
    have hle := (isLeast_of_firstOccurrence? hoffset).2 hearlier
    simp only [List.length_append, List.length_cons] at hle
    omega
  · intro htext
    rw [firstOccurrence?_append, firstOccurrence?_self_append, Option.map_some, Nat.add_zero]
    rintro left c right rfl hstarts
    obtain ⟨rfl, htail⟩ := List.cons_prefix_cons.mp hstarts
    cases right with
    | nil =>
        have hne : '#' = '"' := (List.cons_prefix_cons.mp htail).1
        exact absurd hne (by decide)
    | cons d right =>
        obtain ⟨rfl, -⟩ := List.cons_prefix_cons.mp htail
        exact htext ⟨left, right, by simp⟩

end Text

namespace Listing

/-- Passes over a text that stands in every listing. -/
def fixed? (lead : String) (text : List Char) : Option (List Char) :=
  after? lead.toList text

/-- Reads a raw literal, up to the first quote that a number sign follows. -/
def literal? (text : List Char) : Option (String × List Char) := do
  let body ← fixed? "r#\"" text
  let length ← firstOccurrence? ['"', '#'] body
  return (String.ofList (body.take length), body.drop (length + 2))

def member? (label : String) (text : List Char) : Option (String × List Char) := do
  let rest ← fixed? label text
  let (value, rest) ← literal? rest
  let rest ← fixed? ",\n" rest
  return (value, rest)

def builtin? (text : List Char) : Option (Builtin × List Char) := do
  let rest ← fixed? "\tRawNative \x7b\n" text
  let (name, rest) ← member? "\t\tname: " rest
  let (decl, rest) ← member? "\t\tdecl: " rest
  let (doc, rest) ← member? "\t\tdoc: " rest
  let (group, rest) ← member? "\t\tgroup: " rest
  let rest ← fixed? "\t\x7d,\n" rest
  return (⟨name, decl, doc, group⟩, rest)

theorem fixed?_eq_some_iff {lead : String} {text rest : List Char} :
    fixed? lead text = some rest ↔ text = lead.toList ++ rest :=
  after?_eq_some_iff

theorem fixed?_append (lead : String) (rest : List Char) :
    fixed? lead (lead.toList ++ rest) = some rest :=
  after?_append lead.toList rest

theorem isSuffix_of_fixed? {lead : String} {text rest : List Char}
    (hread : fixed? lead text = some rest) : rest <:+ text :=
  ⟨lead.toList, (fixed?_eq_some_iff.mp hread).symm⟩

theorem isSuffix_of_literal? {value : String} {text rest : List Char}
    (hread : literal? text = some (value, rest)) : rest <:+ text := by
  simp only [literal?, Option.bind_eq_bind, Option.bind_eq_some_iff, Option.pure_def,
    Option.some.injEq, Prod.mk.injEq] at hread
  obtain ⟨body, hbody, length, -, -, rfl⟩ := hread
  exact (List.drop_suffix _ body).trans (isSuffix_of_fixed? hbody)

theorem isSuffix_of_member? {label value : String} {text rest : List Char}
    (hread : member? label text = some (value, rest)) : rest <:+ text := by
  simp only [member?, Option.bind_eq_bind, Option.bind_eq_some_iff, Option.pure_def,
    Option.some.injEq, Prod.mk.injEq, Prod.exists] at hread
  obtain ⟨body, hbody, read, behind, hvalue, left, hleft, -, rfl⟩ := hread
  exact (isSuffix_of_fixed? hleft).trans
    ((isSuffix_of_literal? hvalue).trans (isSuffix_of_fixed? hbody))

theorem length_lt_of_builtin? {text rest : List Char} {builtin : Builtin}
    (hread : builtin? text = some (builtin, rest)) : rest.length < text.length := by
  simp only [builtin?, Option.bind_eq_bind, Option.bind_eq_some_iff, Option.pure_def,
    Option.some.injEq, Prod.mk.injEq, Prod.exists] at hread
  obtain ⟨body, hbody, name, text₁, hname, decl, text₂, hdecl, doc, text₃, hdoc, group, text₄,
    hgroup, left, hleft, -, rfl⟩ := hread
  have hsuffix : left <:+ body :=
    (isSuffix_of_fixed? hleft).trans ((isSuffix_of_member? hgroup).trans
      ((isSuffix_of_member? hdoc).trans
        ((isSuffix_of_member? hdecl).trans (isSuffix_of_member? hname))))
  have hlead : 0 < "\tRawNative \x7b\n".toList.length := by decide
  rw [fixed?_eq_some_iff.mp hbody, List.length_append]
  have hlength := hsuffix.length_le
  omega

/-- Reads builtins up to the end of their table. -/
def builtins? (text : List Char) : Option (List Builtin × List Char) :=
  match hread : builtin? text with
  | none => (fixed? "];\n" text).map fun rest => ([], rest)
  | some (first, rest) =>
      have := length_lt_of_builtin? hread
      (builtins? rest).map fun (others, rest) => (first :: others, rest)
termination_by text.length

def table? (name : String) (text : List Char) : Option (List Builtin × List Char) := do
  let rest ← fixed? "\nconst " text
  let rest ← fixed? name rest
  let rest ← fixed? ": &[RawNative] = &[\n" rest
  builtins? rest

/-- Reads a listing, all of it. -/
def read? (listing : String) : Option Tables := do
  let rest ← fixed? "// This file is auto-generated by a build script.\n" listing.toList
  let (commands, rest) ← table? "COMMANDS" rest
  let (vars, rest) ← table? "VARIABLES" rest
  let (controls, rest) ← table? "UI_CONTROLS" rest
  if rest = [] then some { commands, vars, controls } else none

/-- A text that does not hold the end of a raw literal. -/
def IsPlain (text : String) : Prop :=
  ¬ ['"', '#'] <:+: text.toList

instance (text : String) : Decidable (IsPlain text) :=
  inferInstanceAs (Decidable (¬ ['"', '#'] <:+: text.toList))

theorem IsPlain.of_isInfix {text part : String} (htext : IsPlain text)
    (hpart : part.toList <:+: text.toList) : IsPlain part :=
  fun hoccurs => htext (hoccurs.trans hpart)

/-- A reader gives a value back from its written form under a condition and not
otherwise, and leaves what follows. -/
def ReadsBack {α : Type} (reader : List Char → Option (α × List Char)) (value : α)
    (written : List Char) (intact : Prop) : Prop :=
  ∀ rest left, reader (written ++ rest) = some (value, left) ↔ intact ∧ left = rest

theorem readsBack_literal (value : String) :
    ReadsBack literal? value (Builtin.literal value).toList (IsPlain value) := by
  intro rest left
  have hwritten : (Builtin.literal value).toList ++ rest =
      "r#\"".toList ++ (value.toList ++ (['"', '#'] ++ rest)) := by
    rw [Builtin.literal, String.toList_append, String.toList_append, List.append_assoc,
      List.append_assoc]
    rfl
  simp only [hwritten, literal?, fixed?_append, Option.bind_eq_bind, Option.bind_some,
    Option.bind_eq_some_iff, Option.pure_def, Option.some.injEq, Prod.mk.injEq]
  rw [IsPlain, ← firstOccurrence?_end_iff value.toList rest]
  constructor
  · rintro ⟨length, hlength, hvalue, rfl⟩
    obtain ⟨before, behind, hsplit, rfl⟩ := exists_append_of_firstOccurrence? hlength
    have hbefore : before = value.toList := by
      rw [← hvalue, hsplit, List.append_assoc, List.take_left, String.toList_ofList]
    rw [hbefore] at hlength ⊢
    refine ⟨hlength, ?_⟩
    rw [← List.append_assoc]
    exact List.drop_left' (by simp)
  · rintro ⟨hlength, rfl⟩
    refine ⟨_, hlength, ?_, ?_⟩
    · rw [List.take_left, String.ofList_toList]
    · rw [← List.append_assoc]
      exact List.drop_left' (by simp)

/-- A member as it is written in a listing. -/
def memberText (label value : String) : List Char :=
  label.toList ++ (Builtin.literal value).toList ++ ",\n".toList

theorem readsBack_member (label value : String) :
    ReadsBack (member? label) value (memberText label value) (IsPlain value) := by
  intro rest left
  simp only [memberText, List.append_assoc, member?, fixed?_append, Option.bind_eq_bind,
    Option.bind_some, Option.bind_eq_some_iff, Option.pure_def, Option.some.injEq,
    Prod.mk.injEq, Prod.exists]
  constructor
  · rintro ⟨read, behind, hread, tail, htail, rfl, rfl⟩
    obtain ⟨hplain, rfl⟩ := (readsBack_literal read _ _).mp hread
    rw [fixed?_append, Option.some.injEq] at htail
    exact ⟨hplain, htail.symm⟩
  · rintro ⟨hplain, rfl⟩
    exact ⟨_, _, (readsBack_literal value _ _).mpr ⟨hplain, rfl⟩, _, fixed?_append _ _, rfl, rfl⟩

/-- None of the texts of a builtin holds the end of a raw literal. -/
structure IsIntact (builtin : Builtin) : Prop where
  name : IsPlain builtin.name
  decl : IsPlain builtin.decl
  doc : IsPlain builtin.doc
  group : IsPlain builtin.group

theorem toList_listing (builtin : Builtin) :
    builtin.listing.toList = "\tRawNative \x7b\n".toList ++
      (memberText "\t\tname: " builtin.name ++ (memberText "\t\tdecl: " builtin.decl ++
        (memberText "\t\tdoc: " builtin.doc ++ (memberText "\t\tgroup: " builtin.group ++
          "\t\x7d,\n".toList)))) := by
  unfold Builtin.listing memberText
  simp only [String.toList_append, List.append_assoc]

theorem readsBack_builtin (builtin : Builtin) :
    ReadsBack builtin? builtin builtin.listing.toList (IsIntact builtin) := by
  intro rest left
  simp only [toList_listing, List.append_assoc, builtin?, fixed?_append, Option.bind_eq_bind,
    Option.bind_some, Option.bind_eq_some_iff, Option.pure_def, Option.some.injEq,
    Prod.mk.injEq, Prod.exists]
  constructor
  · rintro ⟨name, text₁, hname, decl, text₂, hdecl, doc, text₃, hdoc, group, text₄, hgroup, tail,
      htail, rfl, rfl⟩
    obtain ⟨hnamePlain, rfl⟩ := (readsBack_member _ name _ _).mp hname
    obtain ⟨hdeclPlain, rfl⟩ := (readsBack_member _ decl _ _).mp hdecl
    obtain ⟨hdocPlain, rfl⟩ := (readsBack_member _ doc _ _).mp hdoc
    obtain ⟨hgroupPlain, rfl⟩ := (readsBack_member _ group _ _).mp hgroup
    rw [fixed?_append, Option.some.injEq] at htail
    exact ⟨⟨hnamePlain, hdeclPlain, hdocPlain, hgroupPlain⟩, htail.symm⟩
  · rintro ⟨hintact, rfl⟩
    exact ⟨_, _, (readsBack_member _ _ _ _).mpr ⟨hintact.name, rfl⟩,
      _, _, (readsBack_member _ _ _ _).mpr ⟨hintact.decl, rfl⟩,
      _, _, (readsBack_member _ _ _ _).mpr ⟨hintact.doc, rfl⟩,
      _, _, (readsBack_member _ _ _ _).mpr ⟨hintact.group, rfl⟩, _, fixed?_append _ _, rfl, rfl⟩

theorem builtins?_of_none {text : List Char} (hfirst : builtin? text = none) :
    builtins? text = (fixed? "];\n" text).map fun rest => ([], rest) := by
  rw [builtins?]
  split
  · rfl
  · simp_all

theorem builtins?_of_some {text rest : List Char} {first : Builtin}
    (hfirst : builtin? text = some (first, rest)) :
    builtins? text = (builtins? rest).map fun (others, rest) => (first :: others, rest) := by
  rw [builtins?]
  split
  · simp_all
  · simp_all

theorem builtin?_end (rest : List Char) : builtin? ("];\n".toList ++ rest) = none := rfl

theorem fixed?_end_listing (builtin : Builtin) (rest : List Char) :
    fixed? "];\n" (builtin.listing.toList ++ rest) = none := by
  rw [toList_listing]
  rfl

/-- The builtins of a table as they are written, with the end of the table. -/
def builtinsText (table : List Builtin) : List Char :=
  table.flatMap (fun builtin => builtin.listing.toList) ++ "];\n".toList

theorem builtinsText_cons (builtin : Builtin) (table : List Builtin) :
    builtinsText (builtin :: table) = builtin.listing.toList ++ builtinsText table := by
  rw [builtinsText, List.flatMap_cons, List.append_assoc]
  rfl

theorem readsBack_builtins (table : List Builtin) :
    ReadsBack builtins? table (builtinsText table) (∀ builtin ∈ table, IsIntact builtin) := by
  induction table with
  | nil =>
      intro rest left
      rw [builtinsText, List.flatMap_nil, List.nil_append, builtins?_of_none (builtin?_end rest),
        fixed?_append]
      simp [eq_comm]
  | cons builtin table ih =>
      intro rest left
      rw [builtinsText_cons, List.append_assoc]
      constructor
      · intro hread
        cases hfirst : builtin? (builtin.listing.toList ++ (builtinsText table ++ rest)) with
        | none =>
            rw [builtins?_of_none hfirst, fixed?_end_listing] at hread
            cases hread
        | some read =>
            obtain ⟨first, tail⟩ := read
            rw [builtins?_of_some hfirst] at hread
            obtain ⟨⟨others, behind⟩, hothers, heq⟩ := Option.map_eq_some_iff.mp hread
            cases heq
            obtain ⟨hbuiltin, rfl⟩ := (readsBack_builtin builtin _ _).mp hfirst
            obtain ⟨htable, rfl⟩ := (ih _ _).mp hothers
            exact ⟨List.forall_mem_cons.mpr ⟨hbuiltin, htable⟩, rfl⟩
      · rintro ⟨hintact, rfl⟩
        obtain ⟨hbuiltin, htable⟩ := List.forall_mem_cons.mp hintact
        rw [builtins?_of_some ((readsBack_builtin builtin _ _).mpr ⟨hbuiltin, rfl⟩),
          (ih _ _).mpr ⟨htable, rfl⟩]
        rfl

theorem toList_tableListing (name : String) (table : List Builtin) :
    (Builtin.tableListing name table).toList = "\nconst ".toList ++ (name.toList ++
      (": &[RawNative] = &[\n".toList ++ builtinsText table)) := by
  unfold Builtin.tableListing builtinsText
  simp only [String.toList_append, String.toList_join, List.flatMap_map, List.append_assoc]

theorem readsBack_table (name : String) (table : List Builtin) :
    ReadsBack (table? name) table (Builtin.tableListing name table).toList
      (∀ builtin ∈ table, IsIntact builtin) := by
  intro rest left
  simp only [toList_tableListing, List.append_assoc, table?, fixed?_append, Option.bind_eq_bind,
    Option.bind_some]
  exact readsBack_builtins table rest left

theorem toList_listing_tables (tables : Tables) :
    tables.listing.toList = "// This file is auto-generated by a build script.\n".toList ++
      ((Builtin.tableListing "COMMANDS" tables.commands).toList ++
        ((Builtin.tableListing "VARIABLES" tables.vars).toList ++
          ((Builtin.tableListing "UI_CONTROLS" tables.controls).toList ++ []))) := by
  unfold Tables.listing
  simp only [String.toList_append, List.append_assoc, List.append_nil]

theorem read?_listing_iff (tables : Tables) :
    read? tables.listing = some tables ↔ ∀ builtin ∈ tables.all, IsIntact builtin := by
  simp only [read?, toList_listing_tables, fixed?_append, Option.bind_eq_bind, Option.bind_some,
    Option.bind_eq_some_iff, Prod.exists, Option.ite_none_right_eq_some, Tables.all,
    List.forall_mem_append]
  constructor
  · rintro ⟨commands, text₁, hcommands, vars, text₂, hvars, controls, text₃, hcontrols, -, heq⟩
    cases heq
    obtain ⟨hfirst, rfl⟩ := (readsBack_table _ commands _ _).mp hcommands
    obtain ⟨hsecond, rfl⟩ := (readsBack_table _ vars _ _).mp hvars
    obtain ⟨hthird, -⟩ := (readsBack_table _ controls _ _).mp hcontrols
    exact ⟨⟨hfirst, hsecond⟩, hthird⟩
  · rintro ⟨⟨hcommands, hvars⟩, hcontrols⟩
    exact ⟨_, _, (readsBack_table _ _ _ _).mpr ⟨hcommands, rfl⟩,
      _, _, (readsBack_table _ _ _ _).mpr ⟨hvars, rfl⟩,
      _, _, (readsBack_table _ _ _ _).mpr ⟨hcontrols, rfl⟩, rfl, rfl⟩

end Listing

open Catalogue Listing

/-- A listing reads back as what its catalogue describes, group after group in the order of
their names, exactly if no group, declaration or documentation holds the end of a raw
literal.  That a catalogue can be listed means that each of its entries describes a
builtin. -/
theorem listing_reads_back_iff (json : Json) {text : String}
    (hlisting : Catalogue.listing json.canonical = .ok text) :
    (∀ key ∈ ["commands", "variables", "ui-controls"],
      ∀ entry ∈ entriesUnder json.canonical key, entry.builtin?.isSome = true) ∧
    (∀ key, (entriesUnder json.canonical key).Pairwise
      fun left right => left.group ≤ right.group) ∧
    (read? text = some (described json.canonical) ↔
      ∀ builtin ∈ (described json.canonical).all,
        IsPlain builtin.group ∧ IsPlain builtin.decl ∧ IsPlain builtin.doc) := by
  obtain ⟨hentries, rfl⟩ := described_of_listing hlisting
  refine ⟨hentries, pairwise_group_entriesUnder json, ?_⟩
  rw [read?_listing_iff]
  apply forall₂_congr
  intro builtin hbuiltin
  obtain ⟨entry, hentry⟩ := exists_entry_of_mem_described hbuiltin
  constructor
  · intro hintact
    exact ⟨hintact.group, hintact.decl, hintact.doc⟩
  · rintro ⟨hgroup, hdecl, hdoc⟩
    exact ⟨hdecl.of_isInfix (isInfix_name_of_builtin? hentry), hdecl, hdoc, hgroup⟩

/-- Texts that end in a quote or look like parts of a listing are read back, one that holds
the end of a raw literal is not. -/
theorem listing_reads_back_iff_end_of_literal :
    let catalogue (doc : String) : Json :=
      .object [("variables", .object []), ("ui-controls", .object [("groups", .object [])]),
        ("commands", .object [("groups", .object [
          ("say \"", .array [.null,
            .object [("doc", .string doc), ("decl", .string "\x7bplay\x7d(\x7bnote\x7d)")]]),
          ("];\n", .array [.object [("decl", .string "#\"\x7b$x\x7d")]])])])]
    let plain := "\t\"quoted\", then r#\"\",\n\t\x7d, and \" "
    let broken := "\"quoted\"#"
    (∃ text, Catalogue.listing (catalogue plain).canonical = .ok text ∧
      read? text = some
        ⟨[⟨"$x", "#\"$x", "", "];\n"⟩,
          ⟨"play", "play(\x7bnote\x7d)", "\"quoted\", then r#\"\",\n\t\x7d, and \"", "say \""⟩],
          [], []⟩) ∧
      ∃ text, Catalogue.listing (catalogue broken).canonical = .ok text ∧
        read? text ≠ some (described (catalogue broken).canonical) := by
  intro catalogue plain broken
  have hplain : (Catalogue.listing (catalogue plain).canonical).toOption.isSome = true := by
    decide +kernel
  have hbroken : (Catalogue.listing (catalogue broken).canonical).toOption.isSome = true := by
    decide +kernel
  obtain ⟨text, htext⟩ := Option.isSome_iff_exists.mp hplain
  obtain ⟨other, hother⟩ := Option.isSome_iff_exists.mp hbroken
  refine ⟨⟨text, eq_ok_of_toOption htext, ?_⟩, other, eq_ok_of_toOption hother, ?_⟩
  · have hdescribed : described (catalogue plain).canonical =
        ⟨[⟨"$x", "#\"$x", "", "];\n"⟩,
          ⟨"play", "play(\x7bnote\x7d)", "\"quoted\", then r#\"\",\n\t\x7d, and \"", "say \""⟩],
          [], []⟩ := by
      decide +kernel
    have hread := (listing_reads_back_iff (catalogue plain) (eq_ok_of_toOption htext)).2.2
    rw [hdescribed] at hread
    exact hread.mpr (by decide +kernel)
  · have hread := (listing_reads_back_iff (catalogue broken) (eq_ok_of_toOption hother)).2.2
    rw [Ne, hread]
    decide +kernel

end KontaktScript
