import RadioFrontEnd.Channel

/-!
# FIFO status words

A status word tells the occupancy of a FIFO in its low sixteen bits and three latched flags in its
top three bits.  What a host can use depends on the direction: from a FIFO towards the host it can
take what is there, into a FIFO towards the card it can put what still fits.
-/

namespace RadioFrontEnd.Fifo

/-- One reading of a FIFO. -/
structure Status where
  /-- Filled locations. -/
  occupied : UInt32
  /-- Locations the host can use: filled ones of a stream to the host, free ones of a stream to the
  card. -/
  available : UInt32
  /-- The FIFO overflowed since the last reading. -/
  overflowed : Bool
  /-- The occupancy passed the threshold since the last reading. -/
  overThreshold : Bool
  /-- The FIFO ran empty since the last reading. -/
  underflowed : Bool
  deriving DecidableEq, Repr

namespace Status

/-- The bit that reports an overflow. -/
def overflowBit : UInt32 := 0x80000000

/-- The bit that reports a passed threshold. -/
def thresholdBit : UInt32 := 0x40000000

/-- The bit that reports an underflow. -/
def underflowBit : UInt32 := 0x20000000

/-- The latched flags, which a reading clears. -/
def flagBits : UInt32 := overflowBit ||| thresholdBit ||| underflowBit

/-- The bits that count filled locations. -/
def occupancyBits : UInt32 := 0xFFFF

/-- What is left of a depth; a FIFO that holds more than its depth has nothing left. -/
def free (depth occupied : UInt32) : UInt32 :=
  if occupied ≤ depth then depth - occupied else 0

/-- The reading that a status word is, for a channel of the given depth. -/
def decode (raw : UInt32) (c : Channel) (depth : UInt32) : Status :=
  let occupied := raw &&& occupancyBits
  { occupied
    available := if c.isWrite then free depth occupied else occupied
    overflowed := raw &&& overflowBit != 0
    overThreshold := raw &&& thresholdBit != 0
    underflowed := raw &&& underflowBit != 0 }

/-- Is any flag raised? -/
def hasError (s : Status) : Bool :=
  s.overflowed || s.overThreshold || s.underflowed

end Status
end RadioFrontEnd.Fifo
