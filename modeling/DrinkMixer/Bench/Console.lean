import DrinkMixer.Bench.Tape

/-!
# The console bench

The console on a stream that can be made to fail: what each event of a list leads to.
-/

namespace DrinkMixer.Bench

/-- What the console asks for, on the tape. -/
def consoleWorld : World (Console.sum Board) Tape :=
  Tape.console.sum Tape.board

/-- Follows one event on the console: what it leads to. -/
def followOne (event : Event) (tape : Tape) : List Entry × Tape :=
  ((Console.follow event).eval consoleWorld tape).2.take

/-- Follows events on the console: what each leads to, and the tape afterwards. -/
def followAll : List Event → Tape → List (List Entry) × Tape
  | [], tape => ([], tape)
  | event :: events, tape =>
    let (entries, tape) := followOne event tape
    let (rest, tape) := followAll events tape
    (entries :: rest, tape)

end DrinkMixer.Bench
