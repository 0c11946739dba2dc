import RadioFrontEnd.Channel
import RadioFrontEnd.Error
import RadioFrontEnd.Probe.Word

/-!
# The command line

A command line is a command with its arguments.  Options have a value, switches have none; both start
with two dashes and may stand in any order.  Two of them, the configuration file and the simulated
device, are known to every command and may also stand before it.  After a lone `--` nothing is an
option any more.

The arguments are taken from left to right.  The value of an argument is checked when the next
argument that is known comes, or at the end; an argument that is not known is told about at once, so
it wins over a bad value right before it.
-/

namespace RadioFrontEnd.Probe

/-- What the probe is asked to do. -/
inductive Command where
  /-- Show the firmware identity and the accepted firmware. -/
  | version
  /-- Show how full the FIFOs are. -/
  | status
  /-- Tell the hardware the depths of the FIFOs, and whether to interrupt. -/
  | configure (interrupt : Bool)
  /-- Reset the FIFO of a channel. -/
  | reset (channel : Channel)
  /-- Decode a frame header. -/
  | decode (header : UInt32)
  /-- Dump a block; without an offset, from the start of the stream window. -/
  | dump (offset : Option UInt32) (length : Nat)
  deriving DecidableEq, Repr

/-- A command line. -/
structure Invocation where
  /-- The configuration file. -/
  config : Option String
  /-- Use a simulated device. -/
  simulate : Bool
  /-- What to do. -/
  command : Command
  deriving DecidableEq, Repr

/-- What is wrong with a command line. -/
inductive UsageError where
  /-- An argument is not known here. -/
  | unexpectedArgument (argument : String)
  /-- A switch was given a value. -/
  | unexpectedValue (value argument : String)
  /-- There is no such command. -/
  | unknownCommand (name : String)
  /-- The value of an argument does not suit. -/
  | invalidValue (value argument reason : String)
  /-- An option has no value. -/
  | missingValue (argument : String)
  /-- An argument was given twice. -/
  | repeated (argument : String)
  /-- An argument of the command is missing. -/
  | missingArgument
  /-- There is no command. -/
  | missingCommand
  deriving DecidableEq, Repr

namespace UsageError

/-- The wording of a usage error. -/
def message : UsageError → String
  | unexpectedArgument argument => s!"unexpected argument '{argument}' found"
  | unexpectedValue value argument =>
    s!"unexpected value '{value}' for '{argument}' found; no more were expected"
  | unknownCommand name => s!"unrecognized subcommand '{name}'"
  | invalidValue value argument reason => s!"invalid value '{value}' for '{argument}': {reason}"
  | missingValue argument =>
    s!"a value is required for '{argument}' but none was supplied"
  | repeated argument => s!"the argument '{argument}' cannot be used multiple times"
  | missingArgument => "the following required arguments were not provided:"
  | missingCommand => "'saturn-probe' requires a subcommand but one was not provided"

end UsageError

/-- Why a command line leads to no command. -/
inductive Halt where
  /-- It asks for the version of the probe. -/
  | version
  /-- It asks for help. -/
  | help
  /-- It is empty. -/
  | empty
  /-- It is wrong. -/
  | wrong (e : UsageError)
  deriving DecidableEq, Repr

/-! ## What can be given -/

/-- What the arguments of a command line say. -/
structure Draft where
  /-- The configuration file. -/
  config : Option String := none
  /-- Use a simulated device. -/
  simulate : Bool := false
  /-- Ask for interrupts. -/
  interrupt : Bool := false
  /-- A channel. -/
  channel : Option Channel := none
  /-- A frame header. -/
  header : Option UInt32 := none
  /-- Where to start. -/
  offset : Option UInt32 := none
  /-- How many bytes. -/
  length : Option Nat := none

/-- An argument with a value. -/
structure Parameter where
  /-- How messages name it. -/
  display : String
  /-- What a value says.  Without a reason, the value is no value at all. -/
  read : String → Except (Option String) (Draft → Draft)

/-- The option for the configuration file. -/
def configOption : Parameter where
  display := "--config <CONFIG>"
  read v := if v = "" then .error none else .ok fun d => { d with config := some v }

/-- A parameter that is a word. -/
def wordParameter (display : String) (set : UInt32 → Draft → Draft) : Parameter where
  display
  read v := ((readWord v).map set).mapError fun e => some (wordProblem v e)

/-- The option for the offset of a dump. -/
def offsetOption : Parameter :=
  wordParameter "--offset <OFFSET>" fun w d => { d with offset := some w }

/-- The frame header to decode. -/
def headerArgument : Parameter :=
  wordParameter "<HEADER>" fun w d => { d with header := some w }

/-- The option for the length of a dump. -/
def lengthOption : Parameter where
  display := "--length <LENGTH>"
  read v := ((Numeral.readBelow UInt64.size 10 v.toList).map fun n d =>
    { d with length := some n }).mapError fun e => some e.message

/-- The channel to reset. -/
def channelArgument : Parameter where
  display := "<CHANNEL>"
  read v := match Channel.ofText? v with
    | some c => .ok fun d => { d with channel := some c }
    | none => .error (some (FrontEndError.unknownChannel v).message)

/-- What can be given at one level of a command line: before the command, or after it. -/
structure Level where
  /-- The options by name. -/
  options : List (String × Parameter)
  /-- The switches by name. -/
  switches : List (String × (Draft → Draft))
  /-- The argument without a name. -/
  argument : Option Parameter
  /-- The version of the probe can be asked for. -/
  tellsVersion : Bool

/-- A level with what every level knows. -/
def Level.of (options : List (String × Parameter)) (switches : List (String × (Draft → Draft)))
    (argument : Option Parameter) (tellsVersion : Bool) : Level where
  options := ("config", configOption) :: options
  switches := ("simulate", fun d => { d with simulate := true }) :: switches
  argument
  tellsVersion

/-- Before the command. -/
def Level.outer : Level := .of [] [] none true

/-- A command: its level, and what its arguments make of it. -/
structure CommandSpec where
  /-- The name of the command. -/
  name : String
  /-- What can be given after it. -/
  level : Level
  /-- The command, unless an argument is missing. -/
  command? : Draft → Option Command

/-- The commands of the probe. -/
def commands : List CommandSpec := [
  ⟨"version", .of [] [] none false, fun _ => some .version⟩,
  ⟨"status", .of [] [] none false, fun _ => some .status⟩,
  ⟨"configure", .of [] [("interrupt", fun d => { d with interrupt := true })] none false,
    fun d => some (.configure d.interrupt)⟩,
  ⟨"reset", .of [] [] (some channelArgument) false, fun d => d.channel.map .reset⟩,
  ⟨"decode", .of [] [] (some headerArgument) false, fun d => d.header.map .decode⟩,
  ⟨"dump", .of [("offset", offsetOption), ("length", lengthOption)] [] none false,
    fun d => some (.dump d.offset (d.length.getD 256))⟩]

/-- The name under which help can be asked for like a command. -/
def helpName : String := "help"

/-! ## Taking arguments -/

/-- What was taken at one level so far. -/
structure Taken where
  /-- What the arguments say. -/
  apply : Draft → Draft
  /-- The options and switches that were given, as messages name them. -/
  given : List String
  /-- The parameter that was seen last, with its value if that has come. -/
  pending : Option (Parameter × Option String)
  /-- The argument without a name was given. -/
  hasArgument : Bool
  /-- Nothing is an option any more. -/
  escaped : Bool

namespace Taken

/-- Nothing was taken yet. -/
def none : Taken := ⟨id, [], .none, false, false⟩

/-- An option waits for its value. -/
def awaitsValue (t : Taken) : Bool := t.pending.any (·.2.isNone)

/-- Check the value of the parameter that was seen last. -/
def settle (t : Taken) : Except UsageError Taken :=
  match t.pending with
  | .none => .ok t
  | some (p, .none) => .error (.missingValue p.display)
  | some (p, some v) =>
    if t.given.contains p.display then .error (.repeated p.display)
    else match p.read v with
      | .ok f =>
        .ok { t with apply := f ∘ t.apply, given := p.display :: t.given, pending := .none }
      | .error .none => .error (.missingValue p.display)
      | .error (some reason) => .error (.invalidValue v p.display reason)

/-- Take a switch. -/
def switch (t : Taken) (display : String) (f : Draft → Draft) : Except UsageError Taken := do
  let t ← t.settle
  if t.given.contains display then throw (.repeated display)
  return { t with apply := f ∘ t.apply, given := display :: t.given }

/-- Take an option, whose value is still to come. -/
def option (t : Taken) (p : Parameter) : Except UsageError Taken := do
  return { ← t.settle with pending := some (p, .none) }

/-- Take an option with its value. -/
def optionWith (t : Taken) (p : Parameter) (value : String) : Except UsageError Taken := do
  let t ← t.settle
  { t with pending := some (p, some value) }.settle

/-- Take a value: for the option that waits for one, or else for the argument without a name. -/
def value? (t : Taken) (level : Level) (v : String) : Option (Except UsageError Taken) :=
  match t.pending, t.escaped with
  | some (p, .none), false => some (.ok { t with pending := some (p, some v) })
  | _, _ =>
    if t.hasArgument then .none
    else level.argument.map fun p =>
      t.settle.map ({ · with pending := some (p, some v), hasArgument := true })

end Taken

/-- Cut the text after two dashes at the first equals sign. -/
def cutAtEquals (text : String) : String × Option String :=
  let cs := text.toList
  let name := String.ofList (cs.takeWhile (· ≠ '='))
  match cs.dropWhile (· ≠ '=') with
  | [] => (name, none)
  | _ :: value => (name, some (.ofList value))

/-- Stop for help or the version; the value of the parameter before is checked first. -/
def haltAfter {α : Type} (t : Taken) (halt : Halt) : Except Halt α :=
  match t.settle with
  | .ok _ => .error halt
  | .error e => .error (.wrong e)

/-- Take what starts with two dashes. -/
def takeLong (level : Level) (t : Taken) (text : String) : Except Halt Taken :=
  let (name, value) := cutAtEquals text
  let display := "--" ++ name
  match level.options.lookup name, level.switches.lookup name, value with
  | some p, _, none => (t.option p).mapError .wrong
  | some p, _, some v => (t.optionWith p v).mapError .wrong
  | none, some f, none => (t.switch display f).mapError .wrong
  | none, some _, some v => .error (.wrong (.unexpectedValue v display))
  | none, none, value =>
    if name = "help" || (level.tellsVersion && name = "version") then
      match value with
      | none => haltAfter t (if name = "help" then .help else .version)
      | some v => .error (.wrong (.unexpectedValue v display))
    else .error (.wrong (.unexpectedArgument display))

/-- Take what starts with one dash: only help and the version have such a short form. -/
def takeShort (level : Level) (t : Taken) (letter : Char) : Except Halt Taken :=
  if letter = 'h' then haltAfter t .help
  else if level.tellsVersion && letter = 'V' then haltAfter t .version
  else .error (.wrong (.unexpectedArgument ("-" ++ letter.toString)))

/-- What an argument looks like. -/
inductive Shape where
  /-- The sign after which nothing is an option. -/
  | escape
  /-- Two dashes and a name. -/
  | long (text : String)
  /-- One dash and a letter. -/
  | short (letter : Char)
  /-- Anything else. -/
  | plain

/-- What an argument looks like. -/
def Shape.of (argument : String) : Shape :=
  match argument.toList with
  | ['-', '-'] => escape
  | '-' :: '-' :: cs => long (.ofList cs)
  | '-' :: c :: _ => short c
  | _ => plain

/-- Take one argument.  There is none if it is plain and has no place at this level. -/
def takeArgument (level : Level) (t : Taken) (argument : String) :
    Option (Except Halt Taken) :=
  let shape := if t.escaped then .plain else Shape.of argument
  match shape with
  | .escape => some (.ok { t with escaped := true })
  | .long text => some (takeLong level t text)
  | .short letter => some (takeShort level t letter)
  | .plain => (t.value? level argument).map (·.mapError .wrong)

/-- Take the arguments after a command. -/
def takeAll (level : Level) : Taken → List String → Except Halt Taken
  | t, [] => t.settle.mapError .wrong
  | t, a :: rest =>
    match takeArgument level t a with
    | some (.ok t') => takeAll level t' rest
    | some (.error halt) => .error halt
    | none => .error (.wrong (.unexpectedArgument a))

/-- The command that some arguments after its name ask for.  What was said before the name counts
unless it is said again. -/
def CommandSpec.invoke (spec : CommandSpec) (before : Taken) (arguments : List String) :
    Except Halt Invocation := do
  let after ← takeAll spec.level .none arguments
  let inner ← match spec.command? (after.apply {}) with
    | some command => pure command
    | none => throw (.wrong .missingArgument)
  let before ← before.settle.mapError .wrong
  let draft := after.apply (before.apply {})
  return ⟨draft.config, draft.simulate, inner⟩

/-- Take the arguments before the command, and the command. -/
def takeOuter : Taken → List String → Except Halt Invocation
  | t, [] =>
    match t.settle with
    | .error e => .error (.wrong e)
    | .ok t => .error (if t.given.isEmpty then .empty else .wrong .missingCommand)
  | t, a :: rest =>
    let spec? := (commands.find? (·.name = a)).filter fun _ => !t.awaitsValue && !t.escaped
    match spec? with
    | some spec => spec.invoke t rest
    | none =>
      if a = helpName && !t.awaitsValue && !t.escaped then .error .help
      else match takeArgument Level.outer t a with
        | some (.ok t') => takeOuter t' rest
        | some (.error halt) => .error halt
        | none =>
          if t.escaped && (a = helpName || commands.any (·.name = a)) then
            .error (.wrong (.unexpectedArgument a))
          else .error (.wrong (.unknownCommand a))

/-- The command line that some arguments are. -/
def Invocation.ofArguments (arguments : List String) : Except Halt Invocation :=
  takeOuter .none arguments

end RadioFrontEnd.Probe
