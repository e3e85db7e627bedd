/-!
# Block numbers

Blocks are counted with sixteen bits, and the count goes on from 65535 to 0.  Which of two numbers
is the earlier one is decided by the shorter way round: a number is behind another if fewer than
half of all numbers lie between them.
-/

namespace Lockstep

abbrev BlockNumber := UInt16

/-- The received number lies behind the expected one. -/
def BlockNumber.isStale (received expected : BlockNumber) : Bool :=
  let behind := expected - received
  behind != 0 && behind < 0x8000

end Lockstep
