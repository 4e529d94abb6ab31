import SessionBridge.Host.Arguments
import SessionBridge.Host.Config
import SessionBridge.Host.LogFile
import SessionBridge.Outcome

/-! The service host sets the daemon up and runs its main on one worker. Whatever fails before that
ends the start; what comes out of the daemon itself is known only to those who join the worker. -/
namespace SessionBridge

class DaemonEntry (ε : Type) where
  setLogFile : String → ε → Outcome DaemonError Unit × ε
  setArguments : List String → ε → Outcome DaemonError Unit × ε := fun _ entry => (.value (), entry)
  daemonMain : (commandLine threadName : String) → ε → Outcome DaemonError Unit × ε

inductive EntryCall where
  | setLogFile (path : String)
  | setArguments (forwarded : List String)
  | daemonMain (commandLine threadName : String)
  deriving DecidableEq

structure Worker where
  logFile : String
  commandLine : String
  outcome : Outcome DaemonError Unit

/-- Waits for the daemon and gives its result. A panic goes no further than the worker. -/
def Worker.join (w : Worker) : Except DaemonError Unit :=
  match w.outcome with
  | .value () => .ok ()
  | .failure e => .error e
  | .panic => .error .workerPanicked

structure Start (ε : Type) where
  entry : ε
  calls : List EntryCall
  worker : Outcome DaemonError Worker

structure ServiceHost where
  config : HostConfig
  deriving DecidableEq

namespace ServiceHost

def create (config : HostConfig) : Except DaemonError ServiceHost :=
  config.validate.map fun () => ⟨config⟩

variable [DaemonEntry ε]

/-- A name that the system takes for a thread: the zero character would cut it short. -/
def isThreadName (name : String) : Bool :=
  name.toList.all (· ≠ '\x00')

/-- Runs the daemon's main on the worker, once it has its log file and its arguments. A worker that
cannot be named is a panic, and the daemon does not run. -/
def spawn (host : ServiceHost) (args : ServiceArgs) (logFile : String) (calls : List EntryCall)
    (entry : ε) : Start ε :=
  let commandLine := args.commandLine host.config.programName
  let threadName := host.config.workerThreadName
  if isThreadName threadName then
    let (outcome, entry) := DaemonEntry.daemonMain commandLine threadName entry
    ⟨entry, calls ++ [.daemonMain commandLine threadName], .value ⟨logFile, commandLine, outcome⟩⟩
  else ⟨entry, calls, .panic⟩

def setUp (host : ServiceHost) (args : ServiceArgs) (logFile : String) (entry : ε) : Start ε :=
  match DaemonEntry.setLogFile logFile entry with
  | (.failure e, entry) => ⟨entry, [.setLogFile logFile], .failure e⟩
  | (.panic, entry) => ⟨entry, [.setLogFile logFile], .panic⟩
  | (.value (), entry) =>
    let calls := [.setLogFile logFile, .setArguments args.forwarded]
    match DaemonEntry.setArguments args.forwarded entry with
    | (.failure e, entry) => ⟨entry, calls, .failure e⟩
    | (.panic, entry) => ⟨entry, calls, .panic⟩
    | (.value (), entry) => host.spawn args logFile calls entry

/-- Starts the daemon. Without a log path, or without its directory, nothing is called. -/
def start (host : ServiceHost) (args : ServiceArgs) (prepare : String → Except OsError Unit)
    (started : DateTime) (entry : ε) : Start ε :=
  match args.logPath with
  | none => ⟨entry, [], .failure .logPathMissing⟩
  | some dir =>
    match LogFile.destination prepare dir host.config.logFilePrefix started with
    | .error e => ⟨entry, [], .failure e⟩
    | .ok logFile => host.setUp args logFile entry

end ServiceHost

end SessionBridge
