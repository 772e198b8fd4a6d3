import CachePartition.Controller.Round
import CachePartition.World.Basic

/-! Runs of a controller on one object of a world, over a span of time. Nothing changes the object but
the controller, so only failures and polls bring it back. -/
namespace CachePartition

/-- What a run does, in order. -/
inductive ControllerEvent where
  | called (c : Call)
  /-- Asks the cluster's server to change the object, some seconds after the start. -/
  | asked (c : ObjectChange) (second : Nat)
  deriving Repr

/-- How long a run lasts, how long an object waits for its next turn, and whether the server takes
changes. -/
structure ControllerSetting where
  seconds : Nat
  delay : Nat
  takesChanges : Bool := true
  deriving DecidableEq, Repr

/-- The result of a turn: whether there is to be another, what was done, and the world after it. -/
structure TurnOutcome where
  again : Bool
  events : List ControllerEvent
  world : World

namespace Round

/-- One turn, some seconds after the start. -/
def turn (r : Round) (s : ControllerSetting) (second : Nat) (w : World) : TurnOutcome :=
  let o := w.run r.work
  let calls := o.trace.map fun e => ControllerEvent.called e.call
  match o.value, r.change with
  | false, _ => ⟨true, calls, o.state⟩
  | true, none => ⟨r.repeats, calls, o.state⟩
  | true, some c =>
    match Api.target? c.path "" with
    | some (path, _) =>
      ⟨r.repeats || !s.takesChanges, calls ++ [.asked { c with path } second], o.state⟩
    | none => ⟨true, calls, o.state⟩

/-- All turns from a second on. An object waits a second at least. -/
def turnsFrom (r : Round) (s : ControllerSetting) (second : Nat) (w : World) :
    List ControllerEvent × World :=
  if second < s.seconds then
    let o := r.turn s second w
    if o.again then
      let rest := r.turnsFrom s (second + max 1 s.delay) o.world
      (o.events ++ rest.1, rest.2)
    else (o.events, o.world)
  else ([], w)
termination_by s.seconds - second

/-- A whole run. -/
def run (r : Round) (s : ControllerSetting) (w : World) : List ControllerEvent × World :=
  r.turnsFrom s 0 w

end Round

end CachePartition
