import SessionBridge.Host.Arguments
import SessionBridge.Host.Error
import SessionBridge.Text.Terminal

/-! What the service host says about a run while it goes on. Names and paths in a notice come from
outside, so its line is made fit for a terminal. -/
namespace SessionBridge

inductive Notice where
  | configFile (path : String)
  | standardConfig
  | malformedLogPath (value : String)
  | noLogPath (forwarded : List String)
  | directoryMade (dir : String)
  | starting (threadName commandLine logFile : String)
  | logging (logFile : String)
  | finished
  | failed (error : DaemonError)
  deriving DecidableEq

namespace Notice

def message : Notice → String
  | configFile path => "Loading configuration from: " ++ path
  | standardConfig => "Using default configuration"
  | malformedLogPath value => "Ignoring malformed log path " ++ value
  | noLogPath forwarded =>
    "Path name for log file not found in '" ++ " ".intercalate forwarded ++ "'"
  | directoryMade dir => "Created log directory " ++ dir
  | starting threadName commandLine logFile =>
    "Starting daemon worker '" ++ threadName ++ "': " ++ commandLine ++ " (log " ++ logFile ++ ")"
  | logging logFile => "Daemon logging to " ++ logFile
  | finished => "Daemon worker finished"
  | failed error => "Service host failed: " ++ error.message

def line (n : Notice) : String :=
  Text.forTerminal n.message

end Notice

end SessionBridge
