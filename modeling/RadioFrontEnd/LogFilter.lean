import RadioFrontEnd.Config.Basic
import RadioFrontEnd.Numeral

/-!
# Which events are shown

A filter is a list of rules, separated by commas.  A rule is a level, which holds for all events; or
the name of a target, which shows everything from there; or a target and a level with an equals sign
between.  A target covers every event whose own target starts with it.  The rule with the longest
target decides, of two with the same target the later one, and events without a rule are not shown.

The settings of a configuration may carry a filter; otherwise the environment may; otherwise the
level of the settings is the filter.  A filter that cannot be read gives way to that level as well.
-/

namespace RadioFrontEnd

/-- A rule about the events of a target. -/
structure LogRule where
  /-- How the targets start that the rule is about. -/
  target : String
  /-- How many levels are shown, counted from errors on. -/
  verbosity : Nat
  deriving DecidableEq, Repr

/-- The rules that decide which events are shown. -/
structure LogFilter where
  /-- The rules, in the order they were given. -/
  rules : List LogRule
  deriving DecidableEq, Repr

namespace LogFilter

/-- The verbosity that a text means: a level by its name in any case, `off`, or a number. -/
def readVerbosity? (text : String) : Option Nat :=
  match Numeral.readBelow 6 10 text.toList with
  | .ok n => some n
  | .error _ =>
    let name := text.map Char.toLower
    if name = "off" then some 0
    else (LogLevel.all.find? (·.name = name)).map LogLevel.verbosity

/-- The verbosity that shows everything. -/
def everything : Nat := LogLevel.trace.verbosity

/-- A character with which a rule can start. -/
def startsRule (c : Char) : Bool :=
  c.isAlphanum || c == '-' || c == ':' || c == '_' || 0x80 ≤ c.toNat

/-- The rule that a text is.  Blanks do not belong to a rule, but a rule without a level takes them
into its target. -/
def readRule? (text : String) : Option LogRule := do
  let cs := text.toList
  let first ← (cs.dropWhile Char.isWhitespace).head?
  if !startsRule first || cs.contains '[' then none
  else if cs.contains '=' then
    if cs.head? ≠ some first then none
    let target := String.ofList (cs.takeWhile (· ≠ '='))
    let level := String.ofList ((cs.dropWhile (· ≠ '=')).drop 1)
    if level = "" then return ⟨target, everything⟩
    return ⟨target, ← readVerbosity? level⟩
  else
    match readVerbosity? text with
    | some verbosity => return ⟨"", verbosity⟩
    | none => return ⟨text, everything⟩

/-- The filter that a text is; without any rule it shows nothing. -/
def ofText? (text : String) : Option LogFilter := do
  return ⟨← ((text.splitOn ",").filter (· ≠ "")).mapM readRule?⟩

/-- The filter that shows a level and everything more serious. -/
def ofLevel (level : LogLevel) : LogFilter := ⟨[⟨"", level.verbosity⟩]⟩

/-- Of two rules the one that decides: the longer target, or else the later rule. -/
def prefer (decided : Option LogRule) (rule : LogRule) : Option LogRule :=
  match decided with
  | none => some rule
  | some other => if other.target.length ≤ rule.target.length then some rule else some other

/-- The rule that decides about a target. -/
def rule? (f : LogFilter) (target : String) : Option LogRule :=
  (f.rules.filter fun rule => target.startsWith rule.target).foldl prefer none

/-- Is an event of a target and level shown? -/
def shows (f : LogFilter) (target : String) (level : LogLevel) : Bool :=
  (f.rule? target).any (level.verbosity ≤ ·.verbosity)

/-- The levels of a target that are shown, from the least serious on. -/
def shownLevels (f : LogFilter) (target : String) : List LogLevel :=
  LogLevel.all.filter (f.shows target)

/-- The filter for some settings, given the filter of the environment. -/
def effective (settings : LogSettings) (environment : Option String) : LogFilter :=
  ((settings.filter.or environment).bind ofText?).getD (ofLevel settings.level)

end LogFilter

/-- What shows the events of a program. -/
structure LogSink where
  /-- Which events are shown. -/
  filter : LogFilter
  /-- How they are shown. -/
  settings : LogSettings
  deriving DecidableEq

namespace LogSink

/-- Set up what shows the events, unless that was done before, and tell which it is. -/
def install (settings : LogSettings) (environment : Option String) :
    Option LogSink → Bool × LogSink
  | none => (true, ⟨.effective settings environment, settings⟩)
  | some sink => (false, sink)

/-- The keys of an event that is printed as a record, in alphabetical order. -/
def recordKeys (settings : LogSettings) : List String :=
  ["fields"] ++ (if settings.sourceLocation then ["filename"] else []) ++ ["level"] ++
    (if settings.sourceLocation then ["line_number"] else []) ++ ["target"] ++
    (if settings.threadIds then ["threadId"] else []) ++
    (if settings.threadNames then ["threadName"] else []) ++ ["timestamp"]

end LogSink
end RadioFrontEnd
