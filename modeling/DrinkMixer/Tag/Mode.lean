import DrinkMixer.Failure

/-!
# Reader modes

The two things the tag reader can wait for: a contactless tag, or a frame from the payment reader.
-/

namespace DrinkMixer

/-- What the tag reader polls for. -/
inductive ReaderMode
  /-- A contactless tag, whose data block is read. -/
  | uid
  | payment
  deriving DecidableEq, Repr

namespace ReaderMode

/-- The mode that a text names; textual booleans are accepted next to digits and names. -/
def ofText (text : String) : Except Failure ReaderMode :=
  match text with
  | "0" | "uid" | "false" => .ok uid
  | "1" | "payment" | "true" => .ok payment
  | _ => .error (.unknownMode text)

/-- The mode that a list of arguments names: the first one decides. -/
def ofArguments : List String → Except Failure ReaderMode
  | [] => .error (.missingArgument "mode")
  | text :: _ => ofText text

end ReaderMode

end DrinkMixer
