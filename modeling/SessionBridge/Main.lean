import SessionBridge.Host.Launch
import SessionBridge.Text.Quoted
import Std.Time.DateTime.Timestamp

/-! The command line of the service host. Starting the daemon is left to whoever started the host:
its invocation goes out on one line of quoted words, and one line that comes back says how it ended:
an exit status, any other word if it was killed, nothing if it was not found. -/
namespace SessionBridge.Main

def osError : IO.Error → OsError
  | .alreadyExists .. => .fileExists
  | .permissionDenied .. => .permissionDenied
  | .inappropriateType .. => .notADirectory
  | .invalidArgument .. => .zeroInPath
  | .illegalOperation .. => .isADirectory
  | .resourceExhausted .. => .nameTooLong
  | _ => .notFound

def attempt (action : IO α) : IO (Except OsError α) := do
  match ← action.toBaseIO with
  | .ok a => return .ok a
  | .error e => return .error (osError e)

def now : IO DateTime := do
  let t ← Std.Time.Timestamp.now
  return (DateTime.ofInstant? ⟨t.toSecondsSinceUnixEpoch.val, 0⟩).getD default

def ask (i : Invocation) : IO (Except OsError ProgramEnd) := do
  IO.println (" ".intercalate ("run" :: (i.program :: i.arguments).map Text.quote))
  (← IO.getStdout).flush
  let reply := (← (← IO.getStdin).getLine).trimAscii.toString
  if reply.isEmpty then return .error .notFound
  return .ok (match reply.toNat? with
    | some status => .exited (UInt8.ofNat status)
    | none => .killed)

def surroundings (c : CommandLine) : IO Surroundings := do
  let contents ← match c.config with
    | some path => attempt (return (← IO.FS.readBinFile path).toList)
    | none => pure (.error .notFound)
  let s : Surroundings :=
    { contentsOf := fun _ => contents
      isDirectory := fun _ => true
      ensureDirectory := fun _ => .ok ()
      execute := fun _ => .error .notFound
      now := ← now }
  match Launch.host s c, (ServiceArgs.parse c.serviceArgs).logPath with
  | .ok _, some dir =>
    let first ← attempt (IO.FS.createDir dir)
    let made ← attempt (IO.FS.createDirAll dir)
    return { s with
      isDirectory := fun _ => first matches .error .fileExists
      ensureDirectory := fun _ => made }
  | _, _ => return s

def usage : String :=
  "Usage: service-host [--verbose] [--config FILE] [--daemon PROGRAM] [--observe-worker] " ++
    "[SERVICE ARGUMENTS]"

def run (c : CommandLine) : IO UInt32 := do
  let s ← surroundings c
  -- The invocation is the same whatever comes of it.
  let ending ← match (Launch.run s c).invoked with
    | some i => ask i
    | none => pure (.error .notFound)
  let report := Launch.run { s with execute := fun _ => ending } c
  report.notices.forM fun n => IO.println n.line
  return report.exitStatus.toUInt32

end SessionBridge.Main

def main (args : List String) : IO UInt32 := do
  match SessionBridge.CommandLine.parse args with
  | .ok c => SessionBridge.Main.run c
  | .error e =>
    IO.println SessionBridge.Main.usage
    return e.exitStatus.toUInt32
