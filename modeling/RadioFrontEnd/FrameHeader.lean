/-!
# Frame headers

Every frame of receiver samples starts with a word that says how many samples each of the ten down
converters contributes.  The word holds a three bit code per converter, the first in the lowest
bits.  A code stands for a number of samples, with one exception: code seven marks an interleaved
pair.  Then the next three bits are the code of the pair, the first converter of the pair carries
twice the samples of that code, and the second carries none.

Ten codes take thirty bits.  A pair that starts in the last slot therefore finds only two bits for
its code, and has no second converter.
-/

namespace RadioFrontEnd

/-- What a frame header says: the samples of each converter, and of the whole frame. -/
structure SampleCounts where
  /-- Samples per converter, in order. -/
  counts : List UInt32
  /-- Samples in the whole frame. -/
  total : UInt32
  deriving DecidableEq, Repr

namespace SampleCounts

/-- No converter, no samples. -/
def empty : SampleCounts := ⟨[], 0⟩

/-- One more converter in front of the others. -/
def cons (rest : SampleCounts) (count : UInt32) : SampleCounts :=
  ⟨count :: rest.counts, count + rest.total⟩

/-- The samples of one converter; a converter that does not exist has no entry. -/
def get? (s : SampleCounts) (converter : Nat) : Option UInt32 := s.counts[converter]?

/-- The converters that carry samples, each with its count. -/
def active (s : SampleCounts) : List (Nat × UInt32) :=
  (s.counts.zipIdx.map fun (count, i) => (i, count)).filter fun (_, count) => count != 0

end SampleCounts

namespace FrameHeader

/-- The number of down converters. -/
def converters : Nat := 10

/-- Samples per frame for each code.  Code seven, read as the code of a pair, carries none. -/
def samplesOfCode : List UInt32 := [0, 1, 2, 4, 8, 16, 32, 0]

/-- The code in the lowest three bits. -/
def code (word : UInt32) : UInt32 := word &&& 7

/-- The samples that the lowest code stands for. -/
def samples (word : UInt32) : UInt32 := samplesOfCode.getD (code word).toNat 0

/-- The samples of an interleaved pair, from a word whose lowest code is the code of the pair. -/
def pairSamples (word : UInt32) : UInt32 := 2 * samples word

/-- The counts of the next converters, from a word whose lowest code belongs to the first of
them. -/
def decodeSlots : Nat → UInt32 → SampleCounts
  | 0, _ => .empty
  | 1, word =>
    if code word = 7 then SampleCounts.empty.cons (pairSamples (word >>> 3))
    else SampleCounts.empty.cons (samples word)
  | n + 2, word =>
    if code word = 7 then ((decodeSlots n (word >>> 6)).cons 0).cons (pairSamples (word >>> 3))
    else (decodeSlots (n + 1) (word >>> 3)).cons (samples word)

/-- The counts that a header announces. -/
def decode (header : UInt32) : SampleCounts := decodeSlots converters header

/-- There is one count per slot. -/
theorem length_counts_decodeSlots (n : Nat) (word : UInt32) :
    (decodeSlots n word).counts.length = n := by
  fun_induction decodeSlots n word <;> simp_all [SampleCounts.cons, SampleCounts.empty]

end FrameHeader
end RadioFrontEnd
