import SessionBridge.Host.Error
import SessionBridge.Text.Blank
import SessionBridge.Text.Utf8
import SessionBridge.Toml.Document

/-! The configuration of the service host. In a file every field may be missing; in any case the
fields are checked in order before the host is used. -/
namespace SessionBridge

structure HostConfig where
  /-- The executable that is run. -/
  daemonProgram : String
  /-- The word in front of the forwarded arguments. -/
  programName : String
  logFilePrefix : String
  workerThreadName : String
  deriving DecidableEq

namespace HostConfig

def standard : HostConfig where
  daemonProgram := "alljoyn-daemon"
  programName := "AlljoynService"
  logFilePrefix := "DaemonLog_"
  workerThreadName := "bus-daemon"

instance : Inhabited HostConfig := ⟨standard⟩

def isSeparator (c : Char) : Bool :=
  c == '/' || c == '\\'

def validate (c : HostConfig) : Except DaemonError Unit :=
  if c.daemonProgram.isEmpty then .error (.config "daemon_program must not be empty")
  else if c.programName.isEmpty || c.programName.toList.any Text.isBlank then
    .error (.config ("program_name '" ++ c.programName ++ "' must be a single token"))
  else if c.logFilePrefix.isEmpty || c.logFilePrefix.toList.any isSeparator then
    .error (.config ("log_file_prefix '" ++ c.logFilePrefix ++ "' must be a non-empty file name"))
  else if c.workerThreadName.isEmpty then
    .error (.config "worker_thread_name must not be empty")
  else .ok ()

/-- A field of the file: its default if it is missing, and nothing if it is not a string. -/
def field? (entries : Toml.Entries) (key fallback : String) : Option String :=
  match entries.lookup key with
  | none => some fallback
  | some (.string s) => some s
  | some _ => none

def ofToml? (entries : Toml.Entries) : Option HostConfig := do
  some {
    daemonProgram := ← field? entries "daemon_program" standard.daemonProgram
    programName := ← field? entries "program_name" standard.programName
    logFilePrefix := ← field? entries "log_file_prefix" standard.logFilePrefix
    workerThreadName := ← field? entries "worker_thread_name" standard.workerThreadName }

def load (contents : Except OsError (List UInt8)) : Except DaemonError HostConfig :=
  match contents with
  | .error e => .error (.io e)
  | .ok bytes =>
    match Utf8.decode? bytes with
    | none => .error (.io .invalidText)
    | some text =>
      match Toml.parse text >>= ofToml? with
      | none => .error .toml
      | some config => config.validate.map fun () => config

end HostConfig

end SessionBridge
