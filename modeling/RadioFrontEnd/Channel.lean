/-!
# Stream channels

A front end moves samples over four streams: receiver samples and microphone samples towards the
host, transmitter samples and speaker samples towards the card.  Every other module speaks of a
stream by its `Channel`.  `Channel.all` lists the four in register order, and `Channel.index` is
the place of a channel in that list.
-/

namespace RadioFrontEnd

/-- One of the four sample streams between host and card. -/
inductive Channel where
  /-- Receiver samples, card to host. -/
  | rx
  /-- Transmitter samples, host to card. -/
  | tx
  /-- Microphone samples, card to host. -/
  | mic
  /-- Speaker samples, host to card. -/
  | spk
  deriving DecidableEq, Repr

namespace Channel

/-- The channels in register order. -/
def all : List Channel := [rx, tx, mic, spk]

/-- The place of a channel in the register bank of the FIFO monitor. -/
def index : Channel → UInt32
  | rx => 0
  | tx => 1
  | mic => 2
  | spk => 3

/-- The streams towards the card, whose producers need free space rather than filled space. -/
def isWrite : Channel → Bool
  | rx | mic => false
  | tx | spk => true

/-- The short name of a channel, as reports and messages show it. -/
def name : Channel → String
  | rx => "rx"
  | tx => "tx"
  | mic => "mic"
  | spk => "spk"

/-- The long name of a channel, which says what its stream carries. -/
def longName : Channel → String
  | rx => "rx_ddc"
  | tx => "tx_duc"
  | mic => "mic_codec"
  | spk => "spk_codec"

/-- Every text that names the channel, in lower case. -/
def aliases : Channel → List String
  | rx => ["rx", "ddc", "rx_ddc"]
  | tx => ["tx", "duc", "tx_duc"]
  | mic => ["mic", "mic_codec"]
  | spk => ["spk", "speaker", "spk_codec"]

/-- The channel that a text names; the case of ASCII letters does not matter. -/
def ofText? (text : String) : Option Channel :=
  all.find? fun c => c.aliases.contains (text.map Char.toLower)

@[simp] theorem mem_all (c : Channel) : c ∈ all := by cases c <;> decide

/-- A channel is found again by its index. -/
theorem index_inj {c d : Channel} : c.index = d.index ↔ c = d := by
  cases c <;> cases d <;> decide

end Channel
end RadioFrontEnd
