/-!
# Payment frames

What the payment reader hands out at each poll: a status byte, and a response behind it if the
lowest bit of the status is set. Frames are read into the front of a buffer that is used again and
again, and a frame that is kept is copied from there.
-/

namespace DrinkMixer.Payment

/-- The bit of the status byte that announces a response. -/
def readyBit : UInt8 := 0x01

/-- The longest frame that is read, in bytes. -/
def maxFrameLength : UInt64 := 64

/-- What frames are read into. -/
abbrev Buffer := Vector UInt8 maxFrameLength.toNat

/-- The buffer with bytes read into its front; what lies behind them is left as it was. -/
def Buffer.fill (buffer : Buffer) (bytes : List UInt8) : Buffer :=
  buffer.mapIdx fun i old => bytes[i]?.getD old

/-- So many bytes at the front of the buffer. -/
def Buffer.front (buffer : Buffer) (length : Nat) : List UInt8 :=
  buffer.toList.take length

/-- A copy of a frame, unless it is too long for one. -/
def copy? (frame : List UInt8) : Option (List UInt8) :=
  if frame.length ≤ maxFrameLength.toNat then some frame else none

/-- Whether a response follows the status byte. -/
def isReady (frame : List UInt8) : Bool :=
  frame.head?.any fun status => status &&& readyBit != 0

end DrinkMixer.Payment
