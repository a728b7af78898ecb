import ContentEngine.Problem

/-!
# Log lines

Components log what goes wrong. Each line is tagged with the engine it belongs to, so that several
engines can share one log.
-/

namespace ContentEngine

/-- How grave a log line is. -/
inductive LogLevel where
  | error
  | warning
  | info
  deriving DecidableEq, Repr

namespace LogLevel

/-- The label of a level. -/
def label : LogLevel → String
  | error => "ERROR"
  | warning => "WARN"
  | info => "INFO"

/-- The level at which problems of a severity are logged. -/
def ofSeverity : Severity → LogLevel
  | .error => error
  | .warning => warning
  | .info => info

end LogLevel

/-- A line of the log. -/
structure LogLine where
  level : LogLevel
  message : String
  deriving DecidableEq, Repr

namespace LogLine

/-- The text of a line. -/
def text (l : LogLine) : String :=
  l.level.label ++ " " ++ l.message

/-- The message tagged with an engine. -/
def tagged (level : LogLevel) (engine message : String) : LogLine :=
  ⟨level, "[" ++ engine ++ "] " ++ message⟩

/-- A component starts. -/
def starting (component engine : String) : LogLine :=
  tagged .info engine ("Starting " ++ component)

/-- A component stops. -/
def stopping (component engine : String) : LogLine :=
  tagged .info engine ("Stopping " ++ component)

/-- Something failed in a component. -/
def errorIn (component engine message : String) : LogLine :=
  tagged .error engine ("Error in " ++ component ++ ": " ++ message)

/-- Something is amiss in a component. -/
def warningIn (component engine message : String) : LogLine :=
  tagged .warning engine ("Warning in " ++ component ++ ": " ++ message)

/-- A problem at the level of its severity. -/
def ofProblem (engine : String) (p : Problem) : LogLine :=
  tagged (.ofSeverity p.severity) engine p.text

end LogLine

end ContentEngine
