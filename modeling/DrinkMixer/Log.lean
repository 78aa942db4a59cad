/-!
# Log records

What a procedure notes for whoever operates the mixer: a level and a line of text.
-/

namespace DrinkMixer

/-- How much a log record matters. -/
inductive LogLevel
  | trace
  | debug
  | info
  | warn
  deriving DecidableEq, Repr

/-- The name of a level in the log. -/
def LogLevel.name : LogLevel → String
  | trace => "TRACE"
  | debug => "DEBUG"
  | info => "INFO"
  | warn => "WARN"

/-- Whether records of a level are shown, unless something else is asked for. -/
def LogLevel.isShown : LogLevel → Bool
  | info | warn => true
  | trace | debug => false

/-- One note in the log. -/
structure LogRecord where
  level : LogLevel
  text : String
  deriving DecidableEq, Repr

end DrinkMixer
