import KontaktScript.Builtin.Catalogue

/-!
# The bundled catalogue

The builtins of the Kontakt script language, by category and group.  The tables
that the server works with are those this catalogue describes.
-/

namespace KontaktScript.Bundled

/-- An entry whose signature has `before` in front of the name and `behind`
after it. -/
def entry (before name behind doc : String) : Json :=
  .ofFields [("decl", .string (before ++ "\x7b" ++ name ++ "\x7d" ++ behind)),
    ("doc", .string doc)]

def eventsCommands : List Json :=
  [entry "" "play_note" "(<note-number>, <velocity>, <sample-offset>, <duration>)"
     ("Generates a MIDI note, i.e. a note-on message followed by a note-off message " ++
       "after the given duration in microseconds. Returns the event ID."),
   entry "" "note_off" "(<ID-number>)" "Sends a note-off message for a specific note event.",
   entry "" "ignore_event" "(<event-id>)" "Ignores the given note or MIDI controller event.",
   entry "" "change_note" "(<ID-number>, <new-note-number>)"
     "Changes the note number of a specific note event.",
   entry "" "change_velo" "(<ID-number>, <new-velocity>)"
     "Changes the velocity of a specific note event.",
   entry "" "change_vol" "(<ID-number>, <volume>, <relative-bit>)"
     "Changes the volume of a specific note event in millidecibels.",
   entry "" "change_tune" "(<ID-number>, <tune-amount>, <relative-bit>)"
     "Changes the tuning of a specific note event in millicents.",
   entry "" "change_pan" "(<ID-number>, <panorama>, <relative-bit>)"
     "Changes the pan position of a specific note event.",
   entry "" "fade_in" "(<ID-number>, <fade-time>)"
     "Performs a fade-in for a specific note event, in microseconds.",
   entry "" "fade_out" "(<ID-number>, <fade-time>, <stop-voice>)"
     "Performs a fade-out for a specific note event, in microseconds."]

def flowCommands : List Json :=
  [entry "" "wait" "(<wait-time>)" "Pauses the callback for the specified time in microseconds.",
   entry "" "exit" "" "Immediately stops the current callback or function.",
   entry "" "call" " <function-name>" "Calls a previously declared user function."]

def mathCommands : List Json :=
  [entry "" "abs" "(<expression>)" "Returns the absolute value of an expression.",
   entry "" "random" "(<min>, <max>)"
     "Generates a random number between `min` and `max`, inclusive.",
   entry "" "inc" "(<expression>)" "Increments an expression by 1.",
   entry "" "dec" "(<expression>)" "Decrements an expression by 1.",
   entry "" "int_to_real" "(<integer-value>)" "Converts an integer value into a real number.",
   entry "" "real_to_int" "(<real-value>)"
     "Converts a real number into an integer, rounding toward zero."]

def arraysCommands : List Json :=
  [entry "" "array_equal" "(<array-variable>, <array-variable>)"
     "Checks the values of two arrays; true if all values are equal.",
   entry "" "num_elements" "(<array-variable>)" "Returns the number of elements of an array.",
   entry "" "search" "(<array-variable>, <value>)"
     "Searches an array for a value and returns the index of its first occurrence, or -1.",
   entry "" "sort" "(<array-variable>, <direction>)"
     "Sorts an array in ascending (0) or descending (1) order."]

def uiCommands : List Json :=
  [entry "" "message" "(<variable/text>)" "Displays text in the status line of Kontakt.",
   entry "" "make_persistent" "(<variable>)"
     "Retains the value of a variable when the instrument is saved.",
   entry "" "set_knob_defval" "(<variable>, <value>)"
     "Assigns a default value to a knob, recalled by ctrl-clicking it.",
   entry "" "set_knob_unit" "(<variable>, <unit-constant>)" "Assigns a unit mark to a knob.",
   entry "" "set_text" "(<variable>, <text>)"
     "When applied to a label, deletes the text currently visible and adds the given text.",
   entry "" "add_text_line" "(<variable>, <text>)"
     "Adds a new text line to a label, without erasing existing text.",
   entry "" "move_control" "(<variable>, <x-position>, <y-position>)"
     "Positions a UI element on the performance view grid."]

def engineCommands : List Json :=
  [entry "" "set_engine_par" "(<parameter>, <value>, <group>, <slot>, <generic>)"
     "Controls various engine parameters.",
   entry "" "get_engine_par" "(<parameter>, <group>, <slot>, <generic>)"
     "Returns the value of a specific engine parameter.",
   entry "" "find_group" "(<group-name>)" "Returns the group index for the specified group name."]

def commands : Json :=
  .ofFields [("groups", .ofFields
  [("events", .array eventsCommands),
   ("flow", .array flowCommands),
   ("math", .array mathCommands),
   ("arrays", .array arraysCommands),
   ("ui", .array uiCommands),
   ("engine", .array engineCommands)])]

def eventsVariables : List Json :=
  [entry "" "$EVENT_ID" "" "Unique ID number of the event which triggered the callback.",
   entry "" "$EVENT_NOTE" "" "Note number of the event which triggered the callback.",
   entry "" "$EVENT_VELOCITY" "" "Velocity of the note which triggered the callback.",
   entry "" "%EVENT_PAR" "[<index>]"
     "Value of an event parameter; index 0 to 3 are the user parameters."]

def midiVariables : List Json :=
  [entry "" "%CC" "[<controller-number>]" "Current controller value for the specified controller.",
   entry "" "$CC_NUM" "" "Controller number of the controller which triggered the callback.",
   entry "" "%KEY_DOWN" "[<note-number>]"
     "Array which contains the current state of all keys; 1 if the key is held.",
   entry "" "$MIDI_CHANNEL" "" "MIDI channel of the received MIDI event."]

def timeVariables : List Json :=
  [entry "" "$ENGINE_UPTIME" "" "Milliseconds since the engine was started.",
   entry "" "$DURATION_QUARTER" ""
     "Duration of a quarter note in microseconds, at the current tempo.",
   entry "" "~NI_MATH_PI" "" "The constant pi.",
   entry "" "~NI_MATH_E" "" "Euler's number."]

def uiVariables : List Json :=
  [entry "" "$NI_CALLBACK_ID" "" "ID number of the callback currently being executed.",
   entry "" "$NI_CALLBACK_TYPE" "" "The type of the callback currently being executed.",
   entry "" "$KNOB_UNIT_DB" "" "Unit constant for `set_knob_unit()`: decibels.",
   entry "" "$KNOB_UNIT_MS" "" "Unit constant for `set_knob_unit()`: milliseconds.",
   entry "" "!NOTE_NAMES" "[<index>]" "Names of the twelve pitch classes, starting at C."]

def vars : Json :=
  .ofFields [("groups", .ofFields
  [("events", .array eventsVariables),
   ("midi", .array midiVariables),
   ("time", .array timeVariables),
   ("ui", .array uiVariables)])]

def widgets : List Json :=
  [entry "declare " "ui_button" " $<variable-name>" "Creates a user interface button.",
   entry "declare " "ui_knob" " $<variable-name> (<min>, <max>, <display-ratio>)"
     "Creates a user interface knob.",
   entry "declare " "ui_label" " $<variable-name> (<width>, <height>)"
     "Creates a user interface text label.",
   entry "declare " "ui_menu" " $<variable-name>" "Creates a user interface drop-down menu.",
   entry "declare " "ui_slider" " $<variable-name> (<min>, <max>)"
     "Creates a user interface slider.",
   entry "declare " "ui_switch" " $<variable-name>" "Creates a user interface switch.",
   entry "declare " "ui_table" " %<array>[<columns>] (<width>, <height>, <range>)"
     "Creates a user interface table.",
   entry "declare " "ui_value_edit" " $<variable> (<min>, <max>, <display-ratio>)"
     "Creates a user interface number box.",
   entry "declare " "ui_waveform" " $<variable> (<width>, <height>)"
     "Creates a waveform control to display zones and slices."]

def controls : Json :=
  .ofFields [("groups", .ofFields
  [("widgets", .array widgets)])]

def catalogue : Json :=
  .ofFields [("commands", commands), ("variables", vars), ("ui-controls", controls)]

def tables : Tables :=
  match Catalogue.tables catalogue with
  | .ok tables => tables
  | .error _ => ⟨[], [], []⟩

end KontaktScript.Bundled
