import DrinkMixer.Program.Basic

/-!
# Stop handles

A running procedure is stopped by raising a flag that it looks at from time to time. Flags are held
by handles; a copy of a handle holds the same flag, and a raised flag stays raised.
-/

namespace DrinkMixer

/-- Requests to the flag that stops a procedure. -/
inductive Stop.Request
  | look

/-- The flag that stops a procedure. -/
abbrev Stop : Signature := ⟨Stop.Request, fun _ => Bool⟩

/-- All handles made so far, numbered in order, and the flags behind them. -/
structure StopHandles where
  held : List Nat := []
  raised : List Bool := []
  deriving DecidableEq, Repr

namespace StopHandles

/-- Makes a handle with a flag of its own. -/
def create (handles : StopHandles) : StopHandles :=
  ⟨handles.held ++ [handles.raised.length], handles.raised ++ [false]⟩

/-- Makes a copy of a handle, which holds the same flag. -/
def copy (handles : StopHandles) (handle : Nat) : StopHandles :=
  match handles.held[handle]? with
  | some flag => { handles with held := handles.held ++ [flag] }
  | none => handles

/-- Raises the flag of a handle. -/
def raise (handles : StopHandles) (handle : Nat) : StopHandles :=
  match handles.held[handle]? with
  | some flag => { handles with raised := handles.raised.set flag true }
  | none => handles

/-- Whether the flag of a handle is raised. -/
def isRaised (handles : StopHandles) (handle : Nat) : Bool :=
  match handles.held[handle]? with
  | some flag => handles.raised[flag]?.getD false
  | none => false

/-- What all handles show, in order. -/
def shown (handles : StopHandles) : List Bool :=
  (List.range handles.held.length).map handles.isRaised

end StopHandles

end DrinkMixer
