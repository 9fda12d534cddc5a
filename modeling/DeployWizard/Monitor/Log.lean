import DeployWizard.Monitor.Basic

set_option autoImplicit false

namespace DeployWizard.Monitor

def endedBy (ended : Option Nat) (time : Nat) : Bool :=
  ended.any (· ≤ time)

namespace Answer

/-- What is reported of a log poll; empty pieces are not. -/
def logEvents (a : Answer LogChunk) (time : Nat) : List (Timed Event) :=
  match a.result with
  | .ok chunk => if chunk.log = "" then [] else [⟨time, .log chunk⟩]
  | .error e => [⟨time, .error e.message⟩]

/-- The offset to read from next; it never goes back. -/
def offsetAfter (a : Answer LogChunk) (offset : UInt64) : UInt64 :=
  match a.result with
  | .ok chunk => if offset ≤ chunk.offset then chunk.offset else offset
  | .error _ => offset

def isOk (a : Answer LogChunk) : Bool :=
  match a.result with
  | .ok _ => true
  | .error _ => false

end Answer

structure LogRun where
  calls : List (Timed UInt64)
  events : List (Timed Event)
  recorded : List (Timed String)
  wakes : List Nat
  stop : Nat

/-- Polls the log from a time on. A piece that arrives when the end is seen is dropped, an error
is still reported. -/
def followLog (o : Options) (ended : Option Nat) (script : Script (Answer LogChunk))
    (offset : UInt64) (time : Nat) : LogRun :=
  if o.cancel ≤ time || endedBy ended time then ⟨[], [], [], [], time⟩
  else
    let a := script.next.1
    let answered := time + a.delay
    if a.isOk && endedBy ended answered then ⟨[⟨time, offset⟩], [], [], [answered], answered⟩
    else
      let events := a.logEvents answered
      let recorded := a.recorded answered
      match _h : o.pause answered o.poll with
      | .error stop => ⟨[⟨time, offset⟩], events, recorded, [answered, stop], stop⟩
      | .ok wake =>
        if _stuck : script.upcoming = [] ∧ wake = time then
          ⟨[⟨time, offset⟩], events, recorded, [answered, wake], wake⟩
        else
          let r := followLog o ended script.next.2 (a.offsetAfter offset) wake
          { r with
            calls := ⟨time, offset⟩ :: r.calls
            events := events ++ r.events
            recorded := recorded ++ r.recorded
            wakes := answered :: wake :: r.wakes }
termination_by (script.upcoming.length, o.cancel - time)
decreasing_by
  have hw := Options.pause_eq_ok _h
  exact poll_advances script o.cancel time wake hw.2 (by omega) _stuck

end DeployWizard.Monitor
