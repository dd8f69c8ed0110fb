import JobDispatch.Coordinator.Instance
import JobDispatch.Script.Run

/-!
Running the loops of an instance until they are told to stop.

The loops take turns, one round each, until a condition on the session holds; then every loop that
is between two rounds ends. A loop inside a round that never ends is aborted after a timeout.

* `Loops.runUntil` lets the loops take turns.
* `Instance.live` is the whole life of an instance: start, turns, shutdown.
* `roundsUntil` runs a single loop.
-/

namespace JobDispatch

/-- Runs rounds, each from the state that the one before left, until the condition holds; `room`
bounds their number. -/
def roundsUntil {σ : Type} (stop : Session → Bool) (round : σ → Script σ) :
    Nat → σ → Session → Except Halt σ × Session
  | 0, state, s => (.ok state, s)
  | room + 1, state, s =>
    if stop s then (.ok state, s)
    else
      match (round state).run s with
      | (.ok state, s) => roundsUntil stop round room state s
      | (.error h, s) => (.error h, s)

/-- The state of one loop: between two rounds, or halted inside one. -/
abbrev LoopState := Except Halt Unit

/-- The loops of an instance. -/
structure Loops where
  wasLeader : Bool
  election : LoopState
  upkeep : LoopState
  work : LoopState

namespace Loops

/-- The loops before their first rounds. -/
def fresh : Loops := ⟨false, .ok (), .ok (), .ok ()⟩

/-- One round of a loop that is not halted. -/
def advance {α : Type} (state : LoopState) (round : Script α) (s : Session) :
    LoopState × Option α × Session :=
  match state with
  | .error h => (.error h, none, s)
  | .ok _ =>
    match round.run s with
    | (.ok value, s) => (.ok (), some value, s)
    | (.error h, s) => (.error h, none, s)

/-- One round of every loop. -/
def turn (i : Instance) (l : Loops) (s : Session) : Loops × Session :=
  let (election, leads, s) := advance l.election (i.electionRound l.wasLeader) s
  let (upkeep, _, s) := advance l.upkeep i.upkeepRound s
  let (work, _, s) := advance l.work i.workRound s
  (⟨leads.getD l.wasLeader, election, upkeep, work⟩, s)

/-- Lets the loops take turns until the condition holds; `room` bounds the number of turns. -/
def runUntil (stop : Session → Bool) (i : Instance) : Nat → Loops → Session → Loops × Session
  | 0, l, s => (l, s)
  | room + 1, l, s =>
    if stop s then (l, s)
    else
      let (l, s) := l.turn i s
      runUntil stop i room l s

/-- The loops with the log lines that announce their ends. -/
def ends (l : Loops) : List (LoopState × Notice) :=
  [(l.election, .electionStopping), (l.upkeep, .schedulerStopping), (l.work, .workerStopping)]

/-- The log lines of the loops that end when told to. -/
def endings (l : Loops) : List Notice :=
  (l.ends.filter fun e => e.1.toBool).map Prod.snd

/-- A loop waits for ever, so that it has to be aborted. -/
def anyEndless (l : Loops) : Bool :=
  l.ends.any fun e => match e.1 with
    | .error .endless => true
    | _ => false

end Loops

/-- The session after several log lines. -/
def Session.loggedAll (s : Session) (notices : List Notice) : Session :=
  notices.foldl Session.logged s

namespace Instance

/-- The log lines of a start; every start after the first only leaves a warning. -/
def startNotices (starts : Nat) : List Notice :=
  .coordinatorStarting :: List.replicate (starts - 1) .alreadyStarted ++
    [.electionStarted, .schedulerStarted, .workerStarted]

/-- The log lines of a shutdown. -/
def stopNotices (timeout : Duration) (l : Loops) : List Notice :=
  .shutdownInitiated :: .awaitingLoops timeout :: l.endings ++
    [if l.anyEndless then .loopsAborted timeout else .loopsExited]

/-- Starts the instance, lets its loops take at least `least` turns and further ones until the
condition holds, and shuts it down. -/
def live (i : Instance) (starts least room : Nat) (stop : Session → Bool) (timeout : Duration)
    (atStop : List Notice) (s : Session) : Loops × Session :=
  let s := s.loggedAll (startNotices starts)
  let (l, s) := Loops.runUntil (fun _ => false) i least .fresh s
  let (l, s) := Loops.runUntil stop i room l s
  (l, (s.loggedAll atStop).loggedAll (stopNotices timeout l))

end Instance

end JobDispatch
