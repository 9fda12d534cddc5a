import DeployWizard.Command.Report
import DeployWizard.Monitor.Run
import DeployWizard.Progress.Line
import DeployWizard.Service.Client

set_option autoImplicit false

namespace DeployWizard.Command
open Service Monitor

structure Screen where
  line : Progress.Line := {}
  frames : Nat := 0
  printed : String := ""
  log : List LogLine := []

namespace Screen

def percentLine (p : Option UInt32) : String :=
  match p with
  | some n => "progress " ++ toString n.toNat ++ "%\n"
  | none => ""

def drawUntil (interval time : Nat) (s : Screen) : Screen :=
  let due := time * 1000000 / interval + 1
  let (ps, line) := s.line.framesFrom (due - s.frames)
  { s with
    line
    frames := max due s.frames
    printed := s.printed ++ String.join (ps.map percentLine) }

def note (level : Level) (text : String) (s : Screen) : Screen :=
  { s with log := s.log ++ [⟨level, .text text⟩] }

def step (task : TaskInfo) (current : String) : String :=
  current ++ " (" ++ toString task.finished.toNat ++ "/" ++ toString task.total.toNat ++ ")"

def receive (s : Screen) : Event → Screen
  | .progress ratio => { s with line := s.line.retarget ratio }
  | .status task =>
    match task.current with
    | some current => s.note .debug (step task current)
    | none => s
  | .log chunk => { s with printed := s.printed ++ chunk.log }
  | .error message => s.note .warn message
  | .finished status =>
    let (p, line) := s.line.settle
    { s with
      line
      printed := s.printed ++ percentLine p ++ "install finished: " ++ status.label ++ "\n" }

def receiveAll (interval : Nat) (s : Screen) (events : List (Timed Event)) : Screen :=
  events.foldl (fun s e => (s.drawUntil interval e.time).receive e.what) s

end Screen

def answerTime : Nat := 1

structure Feed where
  interrupt : Option Nat := none
  logs : List LogChunk := []

def statusOf (c : Client) (name : String) (r : Reply) : Except Error TaskInfo :=
  (c.polling.installStatus name ⟨⟨[], r⟩, [], []⟩).1

def isEnd : Except Error TaskInfo → Bool
  | .ok task => task.status.isTerminal
  | .error _ => false

def pollStart (poll i : Nat) : Nat := i * (poll + answerTime)

namespace Feed

/-- The poll after which nothing more is asked: the task has ended, or the operator interrupts. -/
def lastPoll (f : Feed) (statuses : Script (Except Error TaskInfo)) : Nat :=
  let ends := statuses.upcoming.findIdx isEnd
  match f.interrupt with
  | some i => min i ends
  | none => ends

/-- The last poll is answered when the whole log was read. -/
def lastDelay (f : Feed) (poll last : Nat) : Nat :=
  max answerTime (pollStart poll f.logs.length + answerTime - pollStart poll last)

/-- When the watch is over if the task does not end: at the interrupt, or when there are no more
replies. -/
def cancelTime (f : Feed) (poll last replies : Nat) : Nat :=
  if f.interrupt = some last then pollStart poll last + f.lastDelay poll last
  else
    pollStart poll (replies + f.logs.length + 2) + answerTime +
      ({ cancel := 0 } : Options).finishDelay

def timed (f : Feed) (poll last : Nat) (statuses : Script (Except Error TaskInfo)) :
    Script (Answer TaskInfo) :=
  let answer (i : Nat) (r : Except Error TaskInfo) : Answer TaskInfo :=
    ⟨if i = last then f.lastDelay poll last else answerTime, r⟩
  ⟨statuses.upcoming.mapIdx answer, answer statuses.upcoming.length statuses.after⟩

def run (f : Feed) (poll : Nat) (statuses : Script (Except Error TaskInfo)) : Run × Option Nat :=
  let last := f.lastPoll statuses
  let cancel := f.cancelTime poll last statuses.upcoming.length
  let logs : Script (Answer LogChunk) :=
    ⟨f.logs.map fun chunk => ⟨answerTime, .ok chunk⟩, ⟨answerTime, .ok ⟨"", 0⟩⟩⟩
  (Monitor.run { poll, cancel } (f.timed poll last statuses) logs,
    if f.interrupt = some last then some cancel else none)

end Feed

/-- Shows a run; an interrupt is noted before what happens at its time. -/
def Screen.show (interval : Nat) (r : Run) (interrupt : Option Nat) : Screen :=
  let start := ({} : Screen).drawUntil interval 0
  match interrupt with
  | none => start.receiveAll interval r.events
  | some time =>
    let before := r.events.takeWhile fun e => e.time < time
    let after := r.events.dropWhile fun e => e.time < time
    ((start.receiveAll interval before).note .info
      "Interrupted, stopping install monitor").receiveAll interval after

def askStatus (c : Client) (name : String) : Nat → Session → Session
  | 0, s => s
  | n + 1, s => askStatus c name n (c.polling.installStatus name s).2

def resultOf (r : Run) : Except Failure InstallStatus :=
  match r.outcome.status with
  | some status => .ok status
  | none => .error .watchCancelled

def watch (c : Client) (name : String) (interval : UInt64) (feed : Feed) (s : Session) :
    Report InstallStatus × Session :=
  let (run, interrupt) := feed.run interval.toNat (s.server.map (statusOf c name))
  let screen := Screen.show (Progress.frameInterval interval) run interrupt
  (⟨screen.log, screen.printed, resultOf run⟩, askStatus c name run.statusCalls.length s)

end DeployWizard.Command
