/-!
# Paths of device nodes

A card shows itself as up to three device nodes: one for the registers, and one in each direction
for bulk transfers.  Where a bulk node is not given, the register node carries the transfers of its
direction.
-/

namespace RadioFrontEnd

/-- The device nodes of a card. -/
structure NodePaths where
  /-- The register node. -/
  user : String := "/dev/xdma0_user"
  /-- The node for transfers to the card, if it is not the register node. -/
  toCard : Option String := some "/dev/xdma0_h2c_0"
  /-- The node for transfers to the host, if it is not the register node. -/
  toHost : Option String := some "/dev/xdma0_c2h_0"
  deriving DecidableEq, Repr

namespace NodePaths

/-- One node for everything. -/
def single (path : String) : NodePaths := ⟨path, none, none⟩

/-- The same bulk nodes with another register node. -/
def withUser (paths : NodePaths) (path : String) : NodePaths := { paths with user := path }

/-- The same register node with other bulk nodes. -/
def withBulk (paths : NodePaths) (toCard toHost : String) : NodePaths :=
  { paths with toCard := some toCard, toHost := some toHost }

end NodePaths

end RadioFrontEnd
