import RadioFrontEnd.Fifo.Depths
import RadioFrontEnd.Fifo.Status
import RadioFrontEnd.FrameHeader
import RadioFrontEnd.Numeral

/-!
# The lines that commands print

Tables of channels and converters, and the dump of a block: sixteen bytes to a line, in hexadecimal,
each line with the address of its first byte.  The address counts on past 32 bits.
-/

namespace RadioFrontEnd.Probe

/-! ## Tables -/

/-- A word in decimal, brought to a width. -/
def column (width : Nat) (w : UInt32) : String :=
  Numeral.alignRight width (Numeral.decimal w.toNat)

/-- The flags of a reading by name. -/
def flagNames (s : Fifo.Status) : List String :=
  (if s.overflowed then ["overflow"] else []) ++
    (if s.overThreshold then ["threshold"] else []) ++
    (if s.underflowed then ["underflow"] else [])

/-- The head of the table of readings. -/
def statusHead : String := "fifo  depth  occupied available  flags"

/-- A row of the table of readings. -/
def statusRow (c : Channel) (depth : UInt32) (s : Fifo.Status) : String :=
  s!"{c.name} {column 6 depth} {column 9 s.occupied} {column 9 s.available}  " ++
    ",".intercalate (flagNames s)

/-- A row of the table of configured channels. -/
def configuredRow (interrupt : Bool) (c : Channel) (depth : UInt32) : String :=
  s!"{c.name} depth {column 6 depth}  interrupt " ++ if interrupt then "on" else "off"

/-- The lines for a frame header. -/
def headerLines (header : UInt32) : List String :=
  let counts := FrameHeader.decode header
  let row (entry : UInt32 × Nat) : String :=
    s!"  DDC{Numeral.alignLeft 2 (Numeral.decimal entry.2)} {column 3 entry.1}"
  [s!"Header 0x{Numeral.hexPadded 8 header.toNat}"] ++ counts.counts.zipIdx.map row ++
    [s!"Total  {column 3 counts.total} samples"]

/-! ## Dumps -/

/-- The bytes on a line of a dump. -/
def rowSize : Nat := 16

/-- Cut a list into pieces of a size; the last may be shorter. -/
def pieces {α : Type} (size : Nat) : List α → List (List α)
  | [] => []
  | x :: xs => (x :: xs.take (size - 1)) :: pieces size (xs.drop (size - 1))
termination_by xs => xs.length
decreasing_by simp only [List.length_drop, List.length_cons]; omega

/-- A line of a dump. -/
def dumpRow (address : Nat) (bytes : List UInt8) : String :=
  Numeral.hexPadded 8 address ++ "  " ++
    " ".intercalate (bytes.map fun b => Numeral.hexPadded 2 b.toNat)

/-- The lines of a dump of bytes from an address on. -/
def dumpLines (address : Nat) (bytes : List UInt8) : List String :=
  (pieces rowSize bytes).zipIdx.map fun (row, i) => dumpRow (address + i * rowSize) row

/-! ## Reports of failures -/

/-- A text whose lines after the first are indented. -/
def hangingLines (indent text : String) : String :=
  ("\n" ++ indent).intercalate (text.splitOn "\n")

/-- The report of a failure: what failed, and what lies behind it, outermost first. -/
def failureReport (failure : String) (causes : List String) : String :=
  let lines := match causes with
    | [] => []
    | [cause] => ["", "Caused by:", "    " ++ hangingLines "    " cause]
    | causes => ["", "Caused by:"] ++ causes.zipIdx.map fun (cause, i) =>
        Numeral.alignRight 5 (Numeral.decimal i) ++ ": " ++ hangingLines "       " cause
  String.join ((s!"Error: {failure}" :: lines).map (· ++ "\n"))

end RadioFrontEnd.Probe
