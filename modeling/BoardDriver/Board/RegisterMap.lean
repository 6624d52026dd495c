/-
Register numbers of the DMA controller, the modes of a simulated register, and the sizes the driver is built with.
-/
namespace BoardDriver

namespace DmaRegister

def base : UInt32 := 0x100
def unitId : UInt32 := base
def firmwareVersion : UInt32 := base + 0x04
def headerConfig : UInt32 := base + 0x08
/-- the low bits hold the number of channels -/
def capability : UInt32 := base + 0x0C
/-- one busy bit per channel -/
def status : UInt32 := base + 0x10
def abort : UInt32 := base + 0x14
def source : UInt32 := base + 0x18
def destination : UInt32 := base + 0x1C
def length : UInt32 := base + 0x20
def direction : UInt32 := base + 0x24
/-- writing it starts the channel that `channel` selects -/
def start : UInt32 := base + 0x28
def channel : UInt32 := base + 0x2C

/-- the bits of `capability` that count channels -/
def channelCountMask : UInt32 := 0xF

/-- transfers are multiples of this many bytes -/
def lengthAlign : UInt32 := 32

end DmaRegister

/-- the most channels a scheduler manages -/
def maxDmaChannels : Nat := 32

def simulatorDmaChannels : Nat := 1

/-! Bits of the mode of a simulated register. -/

namespace RegisterMode

def readable : UInt32 := 1
def writable : UInt32 := 2
def writeEvent : UInt32 := 4
def readEvent : UInt32 := 8
/-- the mode of a fresh register -/
def initial : UInt32 := readable ||| writable

end RegisterMode

/-- version of the driver: major, minor, revision -/
def version : Nat × Nat × Nat := (0, 1, 0)

end BoardDriver
