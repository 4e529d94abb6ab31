import SessionBridge.Host.Worker

/-! A daemon that runs as a program of its own. The program gets its log file and the forwarded
arguments one by one; the command line is for display only and is never split. -/
namespace SessionBridge

structure Invocation where
  program : String
  arguments : List String
  deriving DecidableEq

inductive ProgramEnd where
  | exited (status : UInt8)
  | killed
  deriving DecidableEq

structure ProgramDaemon where
  program : String
  logFile : Option String
  arguments : List String
  /-- How the system answers an invocation, which it may refuse: there may be no such program. -/
  execute : Invocation → Except OsError ProgramEnd
  /-- The last invocation that the system was asked for, whether it could run the program or not. -/
  invoked : Option Invocation

namespace ProgramDaemon

def create (program : String) (execute : Invocation → Except OsError ProgramEnd) : ProgramDaemon :=
  ⟨program, none, [], execute, none⟩

def invocation (d : ProgramDaemon) : Invocation where
  program := d.program
  arguments := match d.logFile with
    | some path => "--log-file" :: path :: d.arguments
    | none => d.arguments

/-- Only an exit with status zero is a success; a program that was killed has no status. -/
def outcomeOf (program : String) : Except OsError ProgramEnd → Outcome DaemonError Unit
  | .error e => .failure (.entry ("cannot run " ++ program ++ ": " ++ e.message))
  | .ok (.exited 0) => .value ()
  | .ok (.exited status) => .failure (.daemonExit (Int32.ofNat status.toNat))
  | .ok .killed => .failure (.daemonExit (-1))

instance : DaemonEntry ProgramDaemon where
  setLogFile path d := (.value (), { d with logFile := some path })
  setArguments forwarded d := (.value (), { d with arguments := forwarded })
  daemonMain _ _ d :=
    (outcomeOf d.program (d.execute d.invocation), { d with invoked := some d.invocation })

end ProgramDaemon

end SessionBridge
