import RadioFrontEnd.Files
import RadioFrontEnd.FrontEnd
import RadioFrontEnd.NodePaths
import RadioFrontEnd.WordBytes

/-!
# The transport over device nodes

A card shows itself as device nodes, whose positions are the addresses behind them: one node for the
registers, and up to two for bulk transfers, one in each direction.  Without a bulk node the
register node carries the transfers of its direction.

Every access is one positioned call of the operating system, and what the system answers is all
that is known: a number of bytes, or an error number.  The transport is therefore written against
`PositionedIO`, which is any such system; `Files` is one.  An answer of fewer bytes than asked for
is a short transfer.  For a register read that means zero, for a bulk transfer a failure.
-/

namespace RadioFrontEnd

/-- An operating system that reads and writes open files at positions. -/
class PositionedIO (ω : Type) where
  /-- Read up to so many bytes from a position on. -/
  pread (system : ω) (file : Place) (length offset : Nat) : Except Errno ByteArray × ω
  /-- Write bytes from a position on, and tell how many were taken. -/
  pwrite (system : ω) (file : Place) (data : ByteArray) (offset : Nat) : Except Errno Nat × ω

instance : PositionedIO Files where
  pread fs place length offset := (fs.pread place length offset, fs)
  pwrite := Files.pwrite

/-- An open device node. -/
structure Node where
  /-- The path by which it was opened, for messages. -/
  path : String
  /-- The file it is. -/
  file : Place
  deriving DecidableEq

/-- The open nodes of a card.  Nothing is open when the register node is not. -/
structure Transport where
  /-- The register node. -/
  user : Option Node
  /-- The node for transfers to the card. -/
  toCard : Option Node
  /-- The node for transfers to the host. -/
  toHost : Option Node
  deriving DecidableEq

namespace Transport

/-- Open one node. -/
def openNode (path : String) : Action Files (Except FrontEndError Node) := do
  match (← Action.get).openNode path with
  | .ok file =>
    .report .info s!"connected to {path}"
    return .ok ⟨path, file⟩
  | .error cause =>
    if cause.isPermission then
      .report .error
        (s!"Cannot open {path}. " ++
          "Run as root or add user to the group owning the XDMA nodes.")
    else
      .report .error s!"{path} not available: {cause.message}"
    return .error (.unavailable path cause)

/-- Open a node if there is to be one. -/
def openNode? : Option String → Action Files (Except FrontEndError (Option Node))
  | none => return .ok none
  | some path => return (← openNode path).map some

/-- Open the nodes of a card: the register node, the node to the card, the node to the host.  The
first that cannot be opened ends the attempt. -/
def openNodes (paths : NodePaths) : Action Files (Except FrontEndError Transport) := do
  match ← openNode paths.user with
  | .error e => return .error e
  | .ok user =>
    match ← openNode? paths.toCard with
    | .error e => return .error e
    | .ok toCard =>
      match ← openNode? paths.toHost with
      | .error e => return .error e
      | .ok toHost => return .ok ⟨some user, toCard, toHost⟩

/-- No node is open. -/
def closed : Transport := ⟨none, none, none⟩

/-- The open nodes. -/
def nodes (t : Transport) : List Node :=
  [t.user, t.toCard, t.toHost].filterMap id

/-- The node that carries the transfers of a direction. -/
def bulkNode? (t : Transport) : Direction → Option Node
  | .toCard => t.toCard.or t.user
  | .toHost => t.toHost.or t.user

end Transport

/-- A card on its nodes: the transport, and the system that the nodes belong to. -/
structure Attached (ω : Type) where
  /-- The open nodes. -/
  transport : Transport
  /-- The system behind them. -/
  system : ω
  deriving DecidableEq

namespace Attached

variable {ω : Type} [PositionedIO ω]

/-- One positioned read.  Fewer bytes than asked for are a short transfer, and come with it. -/
def readAt (node : Node) (length : Nat) (offset : UInt32) :
    Action (Attached ω) (ByteArray × Except TransferFailure Unit) := do
  let a ← Action.get
  let (answer, system) := PositionedIO.pread a.system node.file length offset.toNat
  .set { a with system }
  match answer with
  | .error errno => return (.empty, .error (.system errno))
  | .ok bytes =>
    if bytes.size = length then return (bytes, .ok ())
    else return (bytes, .error (.short bytes.size))

/-- One positioned write.  Fewer bytes than given are a short transfer. -/
def writeAt (node : Node) (data : ByteArray) (offset : UInt32) :
    Action (Attached ω) (Except TransferFailure Unit) := do
  let a ← Action.get
  let (answer, system) := PositionedIO.pwrite a.system node.file data offset.toNat
  .set { a with system }
  match answer with
  | .error errno => return .error (.system errno)
  | .ok taken =>
    if taken = data.size then return .ok ()
    else return .error (.short taken)

/-- Read a register, four bytes with the lowest first; zero if they do not all come. -/
def readRegister (address : UInt32) : Action (Attached ω) UInt32 := do
  let shown := Numeral.hexPadded 8 address.toNat
  match (← Action.get).transport.user with
  | none =>
    .report .debug s!"register read 0x{shown} on closed transport"
    return 0
  | some user =>
    match ← readAt user 4 address with
    | (bytes, .ok ()) => return (Word.ofBytes? bytes).getD 0
    | (_, .error cause) =>
      .report .error s!"register read: addr=0x{shown} error={cause.message}"
      return 0

/-- Write a register, four bytes with the lowest first. -/
def writeRegister (address value : UInt32) : Action (Attached ω) Unit := do
  let shown := Numeral.hexPadded 8 address.toNat
  match (← Action.get).transport.user with
  | none => .report .debug s!"register write 0x{shown} on closed transport"
  | some user =>
    match ← writeAt user (Word.toBytes value) address with
    | .ok () => return ()
    | .error cause =>
      .report .error
        (s!"register write: addr=0x{shown} data=0x{Numeral.hexPadded 8 value.toNat} " ++
          s!"error={cause.message}")

/-- The failure of a bulk transfer, with a report of it. -/
def failTransfer {σ : Type} (node : Node) (direction : Direction) (length : Nat)
    (offset : UInt32) (cause : TransferFailure) : Action σ FrontEndError := do
  .report .error
    (s!"DMA {direction.verb} 0x{Numeral.hex length} @ 0x{Numeral.hex offset.toNat} " ++
      s!"on {node.path} failed: {cause.message}")
  return .transfer direction length offset cause

/-- Write a block to the card. -/
def writeBlock (data : ByteArray) (offset : UInt32) :
    Action (Attached ω) (Except FrontEndError Unit) := do
  match (← Action.get).transport.bulkNode? .toCard with
  | none => return .error .notOpen
  | some node =>
    match ← writeAt node data offset with
    | .ok () => return .ok ()
    | .error cause => return .error (← failTransfer node .toCard data.size offset cause)

/-- Read a block from the card. -/
def readBlock (length : Nat) (offset : UInt32) : Action (Attached ω) BlockRead := do
  match (← Action.get).transport.bulkNode? .toHost with
  | none => return ⟨.empty, .error .notOpen⟩
  | some node =>
    match ← readAt node length offset with
    | (bytes, .ok ()) => return ⟨bytes, .ok ()⟩
    | (bytes, .error cause) =>
      return ⟨bytes, .error (← failTransfer node .toHost length offset cause)⟩

/-- Is the register node open? -/
def isOpen (a : Attached ω) : Bool := a.transport.user.isSome

instance : FrontEnd (Attached ω) where
  readRegister := readRegister
  writeRegister := writeRegister
  writeBlock := writeBlock
  readBlock := readBlock
  isOpen := isOpen

/-- Close all nodes. -/
def close : Action (Attached ω) Unit := do
  let a ← Action.get
  .set { a with transport := .closed }
  a.transport.nodes.forM fun node => .report .info s!"closed {node.path}"

end Attached
end RadioFrontEnd
