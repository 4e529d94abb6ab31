import SessionBridge.Host.CommandLine
import SessionBridge.Host.Notice
import SessionBridge.Host.Process

/-! A run of the service host program, from its command line to its exit status. Everything outside
enters through the surroundings, which answer what the program asks of the system. -/
namespace SessionBridge

structure Surroundings where
  contentsOf : String → Except OsError (List UInt8)
  isDirectory : String → Bool
  ensureDirectory : String → Except OsError Unit
  execute : Invocation → Except OsError ProgramEnd
  now : DateTime

structure Report where
  notices : List Notice
  invoked : Option Invocation
  outcome : Outcome DaemonError Unit

/-- A panic has an exit status of its own. -/
def Report.exitStatus (r : Report) : UInt8 :=
  match r.outcome with
  | .value () => 0
  | .failure _ => 1
  | .panic => 101

namespace Launch

def configNotice : Option String → Notice
  | some path => .configFile path
  | none => .standardConfig

/-- The configuration of a file, or the standard one. A file is checked before anything replaces a
part of it. -/
def loadConfig (s : Surroundings) : Option String → Except DaemonError HostConfig
  | some path => HostConfig.load (s.contentsOf path)
  | none => .ok .standard

def overrideDaemon (daemon : Option String) (c : HostConfig) : HostConfig :=
  { c with daemonProgram := daemon.getD c.daemonProgram }

def host (s : Surroundings) (c : CommandLine) : Except DaemonError ServiceHost := do
  let config ← loadConfig s c.config
  ServiceHost.create (overrideDaemon c.daemon config)

def start (s : Surroundings) (c : CommandLine) (host : ServiceHost) : Start ProgramDaemon :=
  host.start (.parse c.serviceArgs) s.ensureDirectory s.now
    (.create host.config.daemonProgram s.execute)

def readyNotices (s : Surroundings) (host : ServiceHost) (args : ServiceArgs) (dir logFile : String) :
    List Notice :=
  let starting :=
    .starting host.config.workerThreadName (args.commandLine host.config.programName) logFile
  if s.isDirectory dir then [starting] else [.directoryMade dir, starting]

def startNotices (s : Surroundings) (c : CommandLine) (host : ServiceHost) : List Notice :=
  let args := ServiceArgs.parse c.serviceArgs
  (ServiceArgs.malformedLogPaths c.serviceArgs).map .malformedLogPath ++
    match args.logPath with
    | none => [.noLogPath args.forwarded]
    | some dir =>
      match LogFile.destination s.ensureDirectory dir host.config.logFilePrefix s.now with
      | .error _ => []
      | .ok logFile => readyNotices s host args dir logFile

/-- Without the flag to observe the worker, the daemon's outcome is nobody's business. -/
def conclude (c : CommandLine) (worker : Worker) : Except DaemonError Unit :=
  if c.observeWorker then worker.join else .ok ()

def finish (notices : List Notice) (invoked : Option Invocation) :
    Except DaemonError Unit → Report
  | .ok () => ⟨notices, invoked, .value ()⟩
  | .error e => ⟨notices ++ [.failed e], invoked, .failure e⟩

def run (s : Surroundings) (c : CommandLine) : Report :=
  let first := configNotice c.config
  match host s c with
  | .error e => finish [first] none (.error e)
  | .ok host =>
    let started := start s c host
    let notices := first :: startNotices s c host
    let invoked := started.entry.invoked
    match started.worker with
    | .panic => ⟨notices, invoked, .panic⟩
    | .failure e => finish notices invoked (.error e)
    | .value worker =>
      let ending := if c.observeWorker then [] else [Notice.finished]
      finish (notices ++ .logging worker.logFile :: ending) invoked (conclude c worker)

end Launch

end SessionBridge
