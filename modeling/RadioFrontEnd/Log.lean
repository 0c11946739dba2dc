/-!
# Log events

What an operation reports while it runs.  An event is a level and a message; operations collect
their events in order, and whoever runs them decides which to show.
-/

namespace RadioFrontEnd

/-- How serious an event is. -/
inductive LogLevel where
  | trace
  | debug
  | info
  | warn
  | error
  deriving DecidableEq, Repr

namespace LogLevel

/-- The levels from the least serious on. -/
def all : List LogLevel := [trace, debug, info, warn, error]

/-- The name of a level. -/
def name : LogLevel → String
  | trace => "trace"
  | debug => "debug"
  | info => "info"
  | warn => "warn"
  | error => "error"

/-- How much a host shows that shows everything from this level on: five for all events down to one
for errors alone. -/
def verbosity : LogLevel → Nat
  | trace => 5
  | debug => 4
  | info => 3
  | warn => 2
  | error => 1

end LogLevel

/-- One report of a running operation. -/
structure LogEvent where
  /-- How serious the event is. -/
  level : LogLevel
  /-- What happened. -/
  message : String
  deriving DecidableEq, Repr

end RadioFrontEnd
