import RadioFrontEnd.Channel

/-!
# FIFO depths

How many 64-bit locations each stream FIFO has.  The FIFOs grew twice, with firmware 10 and with
firmware 13, so the depths are a table per firmware version: `Depths.legacy`, `Depths.v10` and
`Depths.v13`.
-/

namespace RadioFrontEnd.Fifo

/-- The depth of each stream FIFO. -/
structure Depths where
  /-- Receiver stream. -/
  rx : UInt32
  /-- Transmitter stream. -/
  tx : UInt32
  /-- Microphone stream. -/
  mic : UInt32
  /-- Speaker stream. -/
  spk : UInt32
  deriving DecidableEq, Repr

namespace Depths

/-- The depths before firmware 10. -/
def legacy : Depths := ⟨8192, 1024, 256, 256⟩

/-- The depths of firmware 10 to 12. -/
def v10 : Depths := ⟨16384, 2048, 256, 1024⟩

/-- The depths of firmware 13 and later. -/
def v13 : Depths := ⟨16384, 4096, 256, 1024⟩

/-- The depths that a firmware version has. -/
def ofVersion (version : UInt16) : Depths :=
  if version ≤ 9 then legacy else if version ≤ 12 then v10 else v13

/-- The depth of one channel. -/
def get (d : Depths) : Channel → UInt32
  | .rx => d.rx
  | .tx => d.tx
  | .mic => d.mic
  | .spk => d.spk

end Depths
end RadioFrontEnd.Fifo
