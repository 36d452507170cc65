import AlarmKeypad.Cli.Exit
import AlarmKeypad.Replay.Server
/-!
The program of the replay server: its command line, the log it loads, and the address it listens on.
-/

namespace AlarmKeypad.Replay

open Cli

structure Invocation where
  path : String
  address : SocketAddress
  interval : Nat
  verbosity : Nat
deriving DecidableEq

namespace Invocation

def ofLevels (levels : List Level) : Invocation :=
  let text := Level.text? levels []
  let port := (text .replayPort).bind (Argument.signed? (UInt16.size - 1))
  { path := (text .log).getD ""
    address :=
      { ip := ((text .bind).bind fun s => IpAddress.parse? s.toList).getD (.v4 0)
        port := (port.map Nat.toUInt16).getD defaultPort }
    interval := ((text .interval).bind Argument.duration?).getD defaultInterval
    verbosity := Level.count levels .verbose }

def read (args : List String) : Except UsageFault Invocation :=
  (Level.read .replay args []).map ofLevels

end Invocation

/-- Whether a machine without a network can listen on an address: any, or its own. -/
def isLocal : IpAddress → Bool
  | .v4 a => a = 0 ∨ a >>> 24 = 127
  | .v6 ps _ => ps = List.replicate 8 0 ∨ ps = List.replicate 7 0 ++ [1]

/-- What is left to do once the command line is read and the log is loaded. -/
inductive Errand where
  | ended (e : Exit)
  /-- The server serves until it is interrupted. -/
  | serve (s : Server) (a : SocketAddress)

def exitOfFault (f : ReplayFault) : Exit := ⟨1, "", f.report⟩

namespace Errand

def loadedEntry (path : String) (log : Log) : Journal.Entry :=
  ⟨.info, "replay log loaded", [("path", path), ("lines", Journal.number log.size)]⟩

/-- The server that an invocation asks for; `canBind` says where the machine listens. -/
def ofInvocation (i : Invocation) (file : Option (List UInt8)) (canBind : IpAddress → Bool) :
    Start Errand :=
  let rank := Journal.threshold .info i.verbosity
  match Log.load i.path file with
  | .error f => ⟨[], rank, .ended (exitOfFault f)⟩
  | .ok log =>
    ⟨[loadedEntry i.path log], rank,
      if canBind i.address.ip then .serve (.new log i.interval true) i.address
      else .ended (exitOfFault (.bind i.address.text))⟩

/-- `readFile` is what is in the file of a path. -/
def read (args : List String) (readFile : String → Option (List UInt8))
    (canBind : IpAddress → Bool) : Start Errand :=
  match Invocation.read args with
  | .error f => ⟨[], 0, .ended (.ofUsage f [])⟩
  | .ok i => ofInvocation i (readFile i.path) canBind

end Errand

/-- How a server ends that is interrupted without a fault. -/
def servedExit : Exit := .ok ""

end AlarmKeypad.Replay
