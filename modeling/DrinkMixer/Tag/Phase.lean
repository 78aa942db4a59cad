/-!
# Phases of the tag reader

Where the tag reader stands: `idle` before and after, `polling` while it looks for something to
read, then through a found card and its opened and read block to `done`.
-/

namespace DrinkMixer

/-- Where the tag reader stands. -/
inductive Phase
  | idle
  | polling
  | cardFound
  | authenticated
  | blockRead
  | done
  deriving DecidableEq, Repr

/-- The name of a phase in the log. -/
def Phase.name : Phase → String
  | idle => "Idle"
  | polling => "Polling"
  | cardFound => "CardFound"
  | authenticated => "Authenticated"
  | blockRead => "BlockRead"
  | done => "Done"

end DrinkMixer
