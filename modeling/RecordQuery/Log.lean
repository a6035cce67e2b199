/-!
# Log lines

What a run reports about itself, from errors down to the finest trace. A run has a
level, and a line is kept if its own level is not finer.
-/

namespace RecordQuery.Log

/-- How fine a line is, from coarse to fine. -/
inductive Level
  | error
  | warn
  | info
  | debug
  | trace
deriving DecidableEq

namespace Level

/-- The place of a level in the order from coarse to fine. -/
def rank : Level → Nat
  | .error => 1
  | .warn => 2
  | .info => 3
  | .debug => 4
  | .trace => 5

/-- The name of a level. -/
def name : Level → String
  | .error => "ERROR"
  | .warn => "WARN"
  | .info => "INFO"
  | .debug => "DEBUG"
  | .trace => "TRACE"

end Level

/-- A line of the log. -/
structure Entry where
  /-- How fine it is. -/
  level : Level
  /-- What it says. -/
  message : String
deriving DecidableEq

/-- The line as a text: its level and its message. -/
def Entry.text (entry : Entry) : String :=
  entry.level.name ++ " " ++ entry.message

/-- The lines that a level keeps. -/
def keep (level : Level) (entries : List Entry) : List Entry :=
  entries.filter fun entry => decide (entry.level.rank ≤ level.rank)

end RecordQuery.Log
