import DeployWizard.Monitor.Status
import DeployWizard.Monitor.Log

set_option autoImplicit false

/-!
A whole run of the monitor: both sides on one clock. Each time that any of them wakes is a turn, and
the sides take turns in going first, the status side at the start.
-/
namespace DeployWizard.Monitor

structure Outcome where
  status : Option InstallStatus
  lastTask : Option TaskInfo
  /-- Every failed poll, in order. -/
  errors : List String
  cancelled : Bool
  deriving DecidableEq

structure Run where
  events : List (Timed Event)
  outcome : Outcome
  statusCalls : List Nat
  logCalls : List (Timed UInt64)
  stop : Nat

/-- The times of a list in ascending order that are later than one, each once. -/
def distinctAfter : Nat → List Nat → List Nat
  | _, [] => []
  | last, t :: ts => if t ≤ last then distinctAfter last ts else t :: distinctAfter t ts

def turns (status log : List Nat) : List Nat :=
  0 :: distinctAfter 0 (status.merge log fun a b => a ≤ b)

/-- Whether the status side goes first at a turn. -/
def statusLeads (turns : List Nat) (time : Nat) : Bool :=
  (turns.takeWhile (· ≤ time)).length % 2 = 1

/-- What both sides do, turn by turn; the flag tells whether the status side goes first. -/
def weave {α : Type} :
    Bool → List Nat → List (Timed α) → List (Timed α) → List (Timed α)
  | _, [], status, log => status ++ log
  | statusFirst, t :: ts, status, log =>
    let s := status.takeWhile (·.time ≤ t)
    let l := log.takeWhile (·.time ≤ t)
    (if statusFirst then s ++ l else l ++ s) ++
      weave (!statusFirst) ts (status.drop s.length) (log.drop l.length)

/-- When the log side sees the end of the task: at once if the status side goes first then, and else
the next time. -/
def seenAt (o : Options) (s : StatusRun) (logs : Script (Answer LogChunk)) : Option Nat :=
  s.ended.map fun time =>
    let l := followLog o (some (time + 1)) logs 0 0
    if statusLeads (turns s.wakes l.wakes) time then time else time + 1

def run (o : Options) (statuses : Script (Answer TaskInfo)) (logs : Script (Answer LogChunk)) :
    Run :=
  let s := followStatus o statuses none 0
  let l := followLog o (seenAt o s logs) logs 0 0
  let ts := turns s.wakes l.wakes
  let recorded := weave true ts s.recorded l.recorded
  { events := weave true ts s.events l.events
    outcome := ⟨s.status, s.last, recorded.map (·.what), s.status.isNone⟩
    statusCalls := s.calls
    logCalls := l.calls
    stop := max s.stop l.stop }

end DeployWizard.Monitor
