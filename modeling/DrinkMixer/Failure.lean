import DrinkMixer.Text.Hex

/-!
# Failures

Every way in which a procedure can fail, by cause, with one function each for the text shown to
the operator. The four kinds of hardware and settings faults stand on their own and are wrapped by
`Failure` with the name of the subsystem in front.
-/

namespace DrinkMixer

/-- What can go wrong with the PWM controller. -/
inductive PwmFault
  | writeFailed
  | readFailed
  | invalidChannel (channel : UInt8)
  | frequencyOutOfRange (hz : UInt16)
  deriving DecidableEq, Repr

/-- The text of a PWM controller fault. -/
def PwmFault.message : PwmFault → String
  | writeFailed => "PWM write failed"
  | readFailed => "PWM read failed"
  | invalidChannel channel => s!"invalid PWM channel {channel}"
  | frequencyOutOfRange hz => s!"PWM frequency {hz} Hz out of range"

/-- What can go wrong with the contactless reader. -/
inductive TagFault
  | transport
  /-- The reader could not be set up. -/
  | initFailed
  | protocol
  /-- A command that needs a selected tag was given without one. -/
  | noTagSelected
  deriving DecidableEq, Repr

/-- The text of a contactless reader fault. -/
def TagFault.message : TagFault → String
  | transport => "SPI transfer failed"
  | initFailed => "reader init failed"
  | protocol => "tag protocol error"
  | noTagSelected => "no tag selected"

/-- What can go wrong with the bus of the payment reader. -/
inductive BusFault
  | readFailed
  | noAcknowledge (address : UInt8)
  /-- The frame asked for does not fit the buffer. -/
  | frameTooLong (length : UInt64)
  /-- A frame without bytes was asked for. -/
  | emptyFrame
  deriving DecidableEq, Repr

/-- The text of a payment bus fault. -/
def BusFault.message : BusFault → String
  | readFailed => "I2C read failed"
  | noAcknowledge address => "no acknowledge from 0x" ++ Text.Hex.lower address
  | frameTooLong length => s!"frame length {length} exceeds buffer"
  | emptyFrame => "frame length is zero"

/-- Why settings cannot be used. -/
inductive SettingsFault
  | notFound
  /-- The file does not hold a settings document. -/
  | corrupted
  | invalid (rule : String)
  | unreadable
  deriving DecidableEq, Repr

/-- The text of a settings fault. -/
def SettingsFault.message : SettingsFault → String
  | notFound => "config not found"
  | corrupted => "config corrupted"
  | invalid rule => "validation failed: " ++ rule
  | unreadable => "I/O error"

/-- Every way in which a procedure can fail. -/
inductive Failure
  | missingArgument (name : String)
  | unknownActuator (text : String)
  | invalidCount (text : String)
  | unknownMode (text : String)
  | invalidOrder (reason : String)
  | pwm (fault : PwmFault)
  | tag (fault : TagFault)
  | bus (fault : BusFault)
  | settings (fault : SettingsFault)
  deriving DecidableEq, Repr

/-- The text of a failure. -/
def Failure.message : Failure → String
  | missingArgument name => "missing argument: " ++ name
  | unknownActuator text => "unknown channel selector '" ++ text ++ "'"
  | invalidCount text => "invalid repeat count '" ++ text ++ "'"
  | unknownMode text => "unknown reader mode '" ++ text ++ "'"
  | invalidOrder reason => "invalid pour order: " ++ reason
  | pwm fault => "actuator: " ++ fault.message
  | tag fault => "reader: " ++ fault.message
  | bus fault => "bus: " ++ fault.message
  | settings fault => "config: " ++ fault.message

end DrinkMixer
