import PrivilegeGraph.Event

/-!
# Log output

A log prints the records within its level, one to a line, as
`LEVEL target: message` and the fields.  The target names the component that
speaks.  Setting up a log is itself reported at the debug level, and only the
first set-up of a process counts.
-/

namespace PrivilegeGraph.Log

/-- The weight of a level: every level is within those of higher numbers. -/
def verbosity : Level → Nat
  | .error => 1
  | .warn => 2
  | .info => 3
  | .debug => 4
  | .trace => 5

/-- The name of a level in output. -/
def levelName : Level → String
  | .error => "ERROR"
  | .warn => "WARN"
  | .info => "INFO"
  | .debug => "DEBUG"
  | .trace => "TRACE"

/-- How much is printed: nothing, or every record within a level. -/
inductive Threshold
  | off
  | within (level : Level)
  deriving DecidableEq, Repr

/-- The threshold when none is asked for. -/
def defaultThreshold : Threshold := .within .info

/-- Whether a threshold lets a level through. -/
def Threshold.allows : Threshold → Level → Bool
  | .off, _ => false
  | .within most, level => verbosity level ≤ verbosity most

/-- The text of a field's value; texts stand in double quotes. -/
def fieldText : FieldValue → String
  | .text value => "\"" ++ value ++ "\""
  | .number value => value.repr
  | .flag true => "true"
  | .flag false => "false"

/-- The line of a record. -/
def line
    (target : String)
    (record : Record) :
    String :=
  String.join
    ([levelName record.level, " ", target, ": ", record.message] ++
      record.fields.map fun field => " " ++ field.1 ++ "=" ++ fieldText field.2)

/-- A log that may have been set up. -/
structure State where
  threshold : Option Threshold := none
  lines : List String := []
  deriving Repr

namespace State

/-- Log a record: it is printed when the log is set up and its threshold allows
it. -/
def log
    (state : State)
    (target : String)
    (record : Record) :
    State :=
  match state.threshold with
  | some threshold =>
      if threshold.allows record.level then
        { state with lines := state.lines ++ [line target record] }
      else
        state
  | none => state

/-- What setting up a log reports. -/
def setUpRecord : Record :=
  ⟨.debug, "logging set up", []⟩

/-- Set up a log, unless that has been done before. -/
def setUp
    (state : State)
    (target : String)
    (asked : Option Threshold) :
    State :=
  match state.threshold with
  | some _ => state
  | none =>
      State.log { state with threshold := some (asked.getD defaultThreshold) }
        target setUpRecord

end State

end PrivilegeGraph.Log
