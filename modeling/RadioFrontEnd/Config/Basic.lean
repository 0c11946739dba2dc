import RadioFrontEnd.Firmware
import RadioFrontEnd.Log
import RadioFrontEnd.NodePaths
import RadioFrontEnd.RegisterMap

/-!
# Configurations

What a host can set: the device nodes of the card, its register map, the firmware it accepts and
whether other firmware stops the start, and how events are shown.  Everything has a standard value.
-/

namespace RadioFrontEnd

/-- How an event is printed. -/
inductive LogFormat where
  /-- As a record, for machines. -/
  | json
  /-- On several lines. -/
  | pretty
  /-- On one line. -/
  | compact
  deriving DecidableEq, Repr

namespace LogFormat

/-- All formats. -/
def all : List LogFormat := [json, pretty, compact]

/-- The name of a format. -/
def name : LogFormat → String
  | json => "json"
  | pretty => "pretty"
  | compact => "compact"

end LogFormat

/-- How events are shown. -/
structure LogSettings where
  /-- The least serious level that is shown. -/
  level : LogLevel := .info
  /-- How an event is printed. -/
  format : LogFormat := .compact
  /-- Print where in the program an event comes from. -/
  sourceLocation : Bool := false
  /-- Print the number of the thread. -/
  threadIds : Bool := false
  /-- Print the name of the thread. -/
  threadNames : Bool := false
  /-- Rules that decide in place of the level. -/
  filter : Option String := none
  deriving DecidableEq, Repr

namespace LogSettings

/-- Much detail, for work on a card. -/
def development : LogSettings :=
  { level := .debug, format := .pretty, sourceLocation := true, threadNames := true }

/-- Errors only. -/
def quiet : LogSettings := { level := .error }

end LogSettings

/-- What a host can set. -/
structure Config where
  /-- The device nodes. -/
  device : NodePaths := {}
  /-- The register map. -/
  registers : RegisterMap := {}
  /-- The accepted firmware. -/
  firmware : FirmwareRange := {}
  /-- Other firmware stops the start. -/
  strictFirmware : Bool := false
  /-- How events are shown. -/
  logging : LogSettings := {}
  deriving DecidableEq, Repr

end RadioFrontEnd
