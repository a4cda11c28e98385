import KontaktScript.Declaration.Scan
import Mathlib.Data.List.Basic

/-!
# Scanning line by line

The scan of a text threads the controls declared so far through all lines.  The
theorems here untangle it: what is found on a line is what the line yields by
itself, and only the type of a callback's control comes from the lines above,
from the last control that is declared there under the callback's name for it.
Hence a scan that stops early finds just the first part of what a full scan
finds.
-/

namespace KontaktScript

open Text

namespace Declaration

/-- What a line declares by itself, no control being known. -/
def alone (number : UInt32) (line : Line) : Option Declaration :=
  (ofLine [] number line).1

def isControl (declaration : Declaration) : Bool :=
  declaration.isVariable && declaration.attributes.isUi

/-- The control that a callback names: what stands behind the lead of its
container. -/
def control? (declaration : Declaration) : Option String :=
  if declaration.isCallback && declaration.attributes.isUi then
    (after? controlCallbackLead.toList declaration.container.toList).map String.ofList
  else none

def withControlType (declaration : Declaration) (controlType : String) : Declaration :=
  { declaration with attributes := { declaration.attributes with controlType } }

end Declaration

/-- The keyword of the last control that is written as `name`. -/
def keywordAmong (above : List Declaration) (name : String) : Option String :=
  (above.filter fun d => d.isControl && d.written = name).getLast?.map (·.attributes.typeName)

/-- The declaration with the type of its control as the declarations above it
give it: empty unless it is a callback whose control they declare. -/
def Declaration.below (above : List Declaration) (declaration : Declaration) : Declaration :=
  declaration.withControlType ((declaration.control?.bind (keywordAmong above)).getD "")

/-- A line declares something: it has one of the three forms. -/
def HasForm (line : Line) : Prop :=
  (VariableForm.read? line).isSome ∨ (CallbackForm.read? line).isSome ∨
    (FunctionForm.read? line).isSome

namespace Declaration

theorem isSome_alone_iff (number : UInt32) (line : Line) :
    (alone number line).isSome ↔ HasForm line := by
  rw [alone, ofLine, HasForm]
  cases VariableForm.read? line with
  | some form => simp
  | none =>
      cases CallbackForm.read? line with
      | some form => simp
      | none => simp

theorem line_of_alone {number : UInt32} {line : Line} {declaration : Declaration}
    (hfound : alone number line = some declaration) : declaration.location.line = number := by
  rw [alone, ofLine] at hfound
  split at hfound
  · cases hfound
    rfl
  · split at hfound
    · cases hfound
      rfl
    · obtain ⟨form, -, rfl⟩ := Option.map_eq_some_iff.mp hfound
      rfl

end Declaration

/-- Bindings hold the keywords of the controls among the declarations above. -/
def Bindings.Reflect (bindings : Bindings) (above : List Declaration) : Prop :=
  ∀ name, bindings.lookup name = keywordAmong above name

theorem Bindings.reflect_nil : Bindings.Reflect [] [] := fun _ => rfl

theorem keywordAmong_concat_of_not_control (above : List Declaration) {declaration : Declaration}
    (hcontrol : declaration.isControl = false) (name : String) :
    keywordAmong (above ++ [declaration]) name = keywordAmong above name := by
  rw [keywordAmong, List.filter_append]
  simp [hcontrol, keywordAmong]

/-- A control hides those above it that are written alike. -/
theorem keywordAmong_concat_of_control (above : List Declaration) {declaration : Declaration}
    (hcontrol : declaration.isControl = true) (name : String) :
    keywordAmong (above ++ [declaration]) name =
      if name = declaration.written then some declaration.attributes.typeName
      else keywordAmong above name := by
  rw [keywordAmong, List.filter_append]
  by_cases hname : name = declaration.written
  · simp [hcontrol, hname]
  · have hwritten : declaration.written ≠ name := fun heq => hname heq.symm
    simp [hname, hwritten, keywordAmong]

namespace Declaration

variable (number : UInt32) (line : Line) (start : Nat)

theorem written_onLine (attributes : Attributes) :
    (onLine number line start attributes).written = attributes.written := rfl

theorem below_onLine_variable (above : List Declaration) (form : VariableForm) :
    (onLine number line start form.attributes).below above =
      onLine number line start form.attributes := rfl

theorem below_onLine_function (above : List Declaration) (form : FunctionForm) :
    (onLine number line start form.attributes).below above =
      onLine number line start form.attributes := rfl

theorem control?_onLine_callback (bindings : Bindings) {form : CallbackForm}
    {control : List Char} (hcontrol : form.control? = some control) :
    (onLine number line start (form.attributes bindings)).control? =
      some (String.ofList control) := by
  simp [control?, onLine, CallbackForm.attributes, hcontrol, isCallback, kind,
    Kind.isCallback, String.toList_append]

/-- The bindings give a callback the type of its control. -/
theorem below_onLine_callback {bindings : Bindings} {above : List Declaration}
    (hreflect : bindings.Reflect above) (form : CallbackForm) :
    (onLine number line start (form.attributes [])).below above =
      onLine number line start (form.attributes bindings) := by
  cases hcontrol : form.control? with
  | none =>
      rw [CallbackForm.attributes, CallbackForm.attributes, hcontrol]
      rfl
  | some control =>
      rw [below, control?_onLine_callback number line start [] hcontrol, Option.bind_some,
        ← hreflect, CallbackForm.attributes, CallbackForm.attributes, hcontrol]
      rfl

/-- What is found on a line below others is what the line yields by itself,
with the type of its control from above. -/
theorem ofLine_fst {bindings : Bindings} {above : List Declaration}
    (hreflect : bindings.Reflect above) :
    (ofLine bindings number line).1 = (alone number line).map (below above) := by
  rw [alone, ofLine, ofLine]
  cases VariableForm.read? line with
  | some form => exact congrArg some (below_onLine_variable number line _ above form).symm
  | none =>
      cases CallbackForm.read? line with
      | some form =>
          exact congrArg some (below_onLine_callback number line _ hreflect form).symm
      | none =>
          cases FunctionForm.read? line with
          | none => rfl
          | some form => exact congrArg some (below_onLine_function number line _ above form).symm

/-- A variable is bound just if it is a control. -/
theorem reflect_bind {bindings : Bindings} {above : List Declaration}
    (hreflect : bindings.Reflect above) (form : VariableForm) :
    Bindings.Reflect (form.bind bindings)
      (above ++ [onLine number line start form.attributes]) := by
  intro name
  rw [VariableForm.bind]
  cases hqualifier : form.qualifier with
  | ui keyword =>
      have hcontrol : (onLine number line start form.attributes).isControl = true := by
        simp [isControl, isVariable, kind, onLine, VariableForm.attributes, hqualifier,
          Kind.isVariable]
      have htype : (onLine number line start form.attributes).attributes.typeName = keyword := by
        simp [onLine, VariableForm.attributes, VariableForm.typeName, hqualifier]
      rw [keywordAmong_concat_of_control above hcontrol, htype, written_onLine,
        List.lookup_cons, ← hreflect name]
      by_cases hname : name = form.attributes.written
      · rw [hname, beq_self_eq_true, if_pos rfl]
      · rw [beq_eq_false_iff_ne.mpr hname, if_neg hname]
  | _ =>
      have hcontrol : (onLine number line start form.attributes).isControl = false := by
        simp [isControl, onLine, VariableForm.attributes, hqualifier]
      rw [keywordAmong_concat_of_not_control above hcontrol]
      exact hreflect name

/-- Bindings stay true to the declarations above from line to line. -/
theorem reflect_ofLine {bindings : Bindings} {above : List Declaration}
    (hreflect : bindings.Reflect above) :
    Bindings.Reflect (ofLine bindings number line).2 (above ++ (alone number line).toList) := by
  intro name
  rw [alone, ofLine, ofLine]
  cases VariableForm.read? line with
  | some form => exact reflect_bind number line _ hreflect form name
  | none =>
      cases CallbackForm.read? line with
      | some form =>
          have hcontrol : ∀ start,
              (onLine number line start (form.attributes [])).isControl = false := by
            intro start
            rw [CallbackForm.attributes]
            cases form.control? <;> rfl
          exact (hreflect name).trans
            (keywordAmong_concat_of_not_control above (hcontrol _) name).symm
      | none =>
          cases FunctionForm.read? line with
          | none =>
              simp only [Option.map_none, Option.toList_none, List.append_nil]
              exact hreflect name
          | some form =>
              exact (hreflect name).trans (keywordAmong_concat_of_not_control above rfl name).symm

end Declaration

def bindingsFrom (bindings : Bindings) (number : Nat) : List Line → Bindings
  | [] => bindings
  | line :: lines =>
      bindingsFrom (Declaration.ofLine bindings number.toUInt32 line).2 (number + 1) lines

/-- Scanning can be interrupted anywhere and taken up with the bindings so
far. -/
theorem declarationsFrom_append (bindings : Bindings) (number : Nat) (lines others : List Line) :
    declarationsFrom bindings number (lines ++ others) =
      declarationsFrom bindings number lines ++
        declarationsFrom (bindingsFrom bindings number lines) (number + lines.length) others := by
  induction lines generalizing bindings number with
  | nil => rfl
  | cons line lines ih =>
      have hnumber : number + (line :: lines).length = number + 1 + lines.length := by
        rw [List.length_cons]
        omega
      rw [List.cons_append, declarationsFrom, declarationsFrom, ih, List.append_assoc, hnumber,
        bindingsFrom]

theorem bindingsFrom_append (bindings : Bindings) (number : Nat) (lines others : List Line) :
    bindingsFrom bindings number (lines ++ others) =
      bindingsFrom (bindingsFrom bindings number lines) (number + lines.length) others := by
  induction lines generalizing bindings number with
  | nil => rfl
  | cons line lines ih =>
      have hnumber : number + (line :: lines).length = number + 1 + lines.length := by
        rw [List.length_cons]
        omega
      rw [List.cons_append, bindingsFrom, ih, hnumber, bindingsFrom]

section Source

variable {σ : Type} [LineSource σ] (source : σ)

/-- What line `i` of a text declares by itself. -/
def aloneAt (i : Nat) : Option Declaration :=
  Declaration.alone i.toUInt32 (LineSource.lineText source i)

/-- What the lines of a text before line `i` declare, each by itself. -/
def aloneBefore (i : Nat) : List Declaration :=
  (List.range i).filterMap (aloneAt source)

/-- What line `i` of a text declares in its place. -/
def placedAt (i : Nat) : Option Declaration :=
  (aloneAt source i).map (Declaration.below (aloneBefore source i))

def firstLines (count : Nat) : List Line :=
  (List.range count).map (LineSource.lineText source)

theorem firstLines_succ (count : Nat) :
    firstLines source (count + 1) =
      firstLines source count ++ [LineSource.lineText source count] := by
  simp [firstLines, List.range_succ]

@[simp]
theorem length_firstLines (count : Nat) : (firstLines source count).length = count := by
  simp [firstLines]

theorem aloneBefore_succ (i : Nat) :
    aloneBefore source (i + 1) = aloneBefore source i ++ (aloneAt source i).toList := by
  rw [aloneBefore, aloneBefore, List.range_succ, List.filterMap_append]
  cases haloneAt : aloneAt source i <;> simp [haloneAt]

/-- After any number of lines the bindings are true to what these declare. -/
theorem reflect_firstLines (count : Nat) :
    Bindings.Reflect (bindingsFrom [] 0 (firstLines source count)) (aloneBefore source count) := by
  induction count with
  | zero => exact Bindings.reflect_nil
  | succ count ih =>
      rw [firstLines_succ, bindingsFrom_append, aloneBefore_succ, length_firstLines, Nat.zero_add]
      exact Declaration.reflect_ofLine _ _ ih

/-- A scan finds on each line what the line declares in its place. -/
theorem declarationsFrom_firstLines (count : Nat) :
    declarationsFrom [] 0 (firstLines source count) =
      (List.range count).filterMap (placedAt source) := by
  induction count with
  | zero => rfl
  | succ count ih =>
      rw [firstLines_succ, declarationsFrom_append, ih, length_firstLines, Nat.zero_add,
        List.range_succ, List.filterMap_append, declarationsFrom, declarationsFrom,
        List.append_nil, Declaration.ofLine_fst _ _ (reflect_firstLines source count)]
      rfl

theorem declarations_eq_filterMap (stop : Option Nat) :
    declarations source stop =
      (List.range (scannedLines source stop)).filterMap (placedAt source) :=
  declarationsFrom_firstLines source (scannedLines source stop)

/-- A declaration bears the number of its line, unless that is too large. -/
theorem toNat_line_of_aloneAt {i : Nat} {declaration : Declaration}
    (hfound : aloneAt source i = some declaration) (hi : i < UInt32.size) :
    declaration.location.line.toNat = i := by
  have hline : declaration.location.line = i.toUInt32 := Declaration.line_of_alone hfound
  rw [hline]
  exact Nat.mod_eq_of_lt hi

theorem toNat_line_of_placedAt {i : Nat} {declaration : Declaration}
    (hplaced : placedAt source i = some declaration) (hi : i < UInt32.size) :
    declaration.location.line.toNat = i := by
  obtain ⟨found, hfound, rfl⟩ := Option.map_eq_some_iff.mp hplaced
  change found.location.line.toNat = i
  exact toNat_line_of_aloneAt source hfound hi

/-- A scan of some lines, and then of the others. -/
theorem declarations_none_eq_append (stop : Nat) :
    let scanned := scannedLines source (some stop)
    declarations source none =
      declarations source (some stop) ++
        ((List.range (LineSource.lineCount source - scanned)).map (scanned + ·)).filterMap
          (placedAt source) := by
  intro scanned
  have hscanned : scanned ≤ LineSource.lineCount source := Nat.min_le_right _ _
  rw [declarations_eq_filterMap, declarations_eq_filterMap, ← List.filterMap_append,
    ← List.range_add, Nat.add_sub_cancel' hscanned]
  rfl

theorem filterMap_range_isPrefix {α : Type} (f : Nat → Option α) {count later : Nat}
    (hle : count ≤ later) :
    (List.range count).filterMap f <+: (List.range later).filterMap f := by
  obtain ⟨more, rfl⟩ := Nat.exists_eq_add_of_le hle
  rw [List.range_add, List.filterMap_append]
  exact List.prefix_append _ _

/-- A scan that stops later finds the same declarations first. -/
theorem declarations_isPrefix {stop later : Nat} (hle : stop ≤ later) :
    declarations source (some stop) <+: declarations source (some later) := by
  rw [declarations_eq_filterMap, declarations_eq_filterMap]
  apply filterMap_range_isPrefix
  rw [scannedLines, scannedLines]
  omega

/-- A scan that stops early finds the declarations on the lines before. -/
theorem declarations_some_eq_filter (hcount : LineSource.lineCount source ≤ UInt32.size)
    (stop : Nat) :
    declarations source (some stop) =
      (declarations source none).filter fun d => d.location.line.toNat < stop := by
  rw [declarations_none_eq_append source stop, List.filter_append]
  have hbefore : ∀ d ∈ declarations source (some stop), d.location.line.toNat < stop := by
    intro d hd
    rw [declarations_eq_filterMap] at hd
    obtain ⟨i, hi, hplaced⟩ := List.mem_filterMap.mp hd
    have hlt : i < min stop (LineSource.lineCount source) := List.mem_range.mp hi
    rw [toNat_line_of_placedAt source hplaced (by omega)]
    omega
  have hbehind : ∀ d ∈ ((List.range (LineSource.lineCount source -
      scannedLines source (some stop))).map (scannedLines source (some stop) + ·)).filterMap
        (placedAt source), ¬ d.location.line.toNat < stop := by
    intro d hd
    obtain ⟨i, hi, hplaced⟩ := List.mem_filterMap.mp hd
    obtain ⟨j, hj, rfl⟩ := List.mem_map.mp hi
    have hlt := List.mem_range.mp hj
    rw [scannedLines] at hlt hplaced
    rw [toNat_line_of_placedAt source hplaced (by omega)]
    omega
  rw [List.filter_eq_self.mpr (by simpa using hbefore),
    List.filter_eq_nil_iff.mpr (by simpa using hbehind), List.append_nil]

theorem declarations_congr {τ : Type} [LineSource τ] (other : τ) {stop : Nat}
    (hscanned : scannedLines other (some stop) = scannedLines source (some stop))
    (hlines : ∀ i < scannedLines source (some stop),
      LineSource.lineText other i = LineSource.lineText source i) :
    declarations other (some stop) = declarations source (some stop) := by
  have hfirst : firstLines other (scannedLines other (some stop)) =
      firstLines source (scannedLines source (some stop)) := by
    rw [hscanned]
    exact List.map_congr_left fun i hi => hlines i (List.mem_range.mp hi)
  exact congrArg (declarationsFrom [] 0) hfirst

/-- A scan finds one declaration on each line that has a form, in the order of
the lines: the one that the line yields by itself, with the type of its control
from the lines above.  A scan that stops early finds just the first part of
what a full scan finds, whatever the lines behind the stop hold. -/
theorem declarations_line_by_line (hcount : LineSource.lineCount source ≤ UInt32.size) :
    (∀ stop, declarations source stop =
      (List.range (scannedLines source stop)).filterMap fun i =>
        (aloneAt source i).map (Declaration.below (aloneBefore source i))) ∧
      (∀ i < LineSource.lineCount source,
        ((aloneAt source i).isSome ↔ HasForm (LineSource.lineText source i)) ∧
          ∀ declaration ∈ aloneAt source i, declaration.location.line.toNat = i) ∧
      ∀ stop,
        declarations source (some stop) <+: declarations source none ∧
          declarations source (some stop) =
            (declarations source none).filter (fun d => d.location.line.toNat < stop) ∧
          ∀ (τ : Type) [LineSource τ] (other : τ),
            scannedLines other (some stop) = scannedLines source (some stop) →
            (∀ i < scannedLines source (some stop),
              LineSource.lineText other i = LineSource.lineText source i) →
            declarations other (some stop) = declarations source (some stop) := by
  refine ⟨declarations_eq_filterMap source, ?_, ?_⟩
  · intro i hi
    refine ⟨Declaration.isSome_alone_iff i.toUInt32 _, ?_⟩
    intro declaration hdeclaration
    exact toNat_line_of_aloneAt source hdeclaration (by omega)
  · intro stop
    refine ⟨?_, declarations_some_eq_filter source hcount stop, ?_⟩
    · rw [declarations_none_eq_append source stop]
      exact List.prefix_append _ _
    · intro τ _ other hscanned hlines
      exact declarations_congr source other hscanned hlines

end Source

/-- A control is declared twice, and each callback sees the declaration above
it. -/
theorem declarations_line_by_line_redeclared :
    let source := ["declare ui_knob $v (0, 1, 1)", "on ui_control($v)", "declare ui_menu $v",
      "on ui_control ( $v )"]
    LineSource.lineCount source ≤ UInt32.size ∧
      declarations source none = (List.range 4).filterMap (fun i =>
        (aloneAt source i).map (Declaration.below (aloneBefore source i))) ∧
      declarations source (some 2) <+: declarations source none ∧
      (declarations source none).map (·.attributes.controlType) =
        ["", "ui_knob", "", "ui_menu"] := by
  intro source
  have hcount : LineSource.lineCount source ≤ UInt32.size := by decide
  obtain ⟨hlines, -, hstops⟩ := declarations_line_by_line source hcount
  exact ⟨hcount, hlines none, (hstops 2).1, by decide⟩

end KontaktScript
