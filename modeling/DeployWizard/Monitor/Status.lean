import DeployWizard.Monitor.Basic

set_option autoImplicit false

namespace DeployWizard.Monitor

namespace Answer

def statusEvents (a : Answer TaskInfo) (time : Nat) : List (Timed Event) :=
  match a.result with
  | .ok task => [⟨time, .progress (Progress.ratio task.finished task.total)⟩, ⟨time, .status task⟩]
  | .error e => [⟨time, .error e.message⟩]

def task? (a : Answer TaskInfo) : Option TaskInfo :=
  a.result.toOption

def ending? (a : Answer TaskInfo) : Option InstallStatus :=
  (a.task?.map (·.status)).filter (·.isTerminal)

end Answer

structure StatusRun where
  calls : List Nat
  events : List (Timed Event)
  recorded : List (Timed String)
  /-- When the task was seen to have ended. -/
  ended : Option Nat
  status : Option InstallStatus
  last : Option TaskInfo
  /-- The ends of calls and pauses. -/
  wakes : List Nat
  stop : Nat

/-- Polls the status from a time on. Polls that cost no time and never end are given up. -/
def followStatus (o : Options) (script : Script (Answer TaskInfo)) (last : Option TaskInfo)
    (time : Nat) : StatusRun :=
  if o.cancel ≤ time then ⟨[], [], [], none, none, last, [], time⟩
  else
    let a := script.next.1
    let answered := time + a.delay
    let events := a.statusEvents answered
    let recorded := a.recorded answered
    let last := a.task?.or last
    match a.ending? with
    | some status =>
      match o.pause answered o.finishDelay with
      | .error stop => ⟨[time], events, recorded, some answered, none, last, [answered, stop], stop⟩
      | .ok finish =>
        ⟨[time], events ++ [⟨finish, .finished status⟩], recorded, some answered, some status,
          last, [answered, finish], finish⟩
    | none =>
      match _h : o.pause answered o.poll with
      | .error stop => ⟨[time], events, recorded, none, none, last, [answered, stop], stop⟩
      | .ok wake =>
        if _stuck : script.upcoming = [] ∧ wake = time then
          ⟨[time], events, recorded, none, none, last, [answered, wake], wake⟩
        else
          let r := followStatus o script.next.2 last wake
          { r with
            calls := time :: r.calls
            events := events ++ r.events
            recorded := recorded ++ r.recorded
            wakes := answered :: wake :: r.wakes }
termination_by (script.upcoming.length, o.cancel - time)
decreasing_by
  have hw := Options.pause_eq_ok _h
  exact poll_advances script o.cancel time wake hw.2 (by omega) _stuck

end DeployWizard.Monitor
