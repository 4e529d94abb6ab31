import SessionBridge.Calendar
import SessionBridge.Host.Error

/-! The log file of a daemon: its name tells when the daemon was started, and its directory is made
if it is not there. -/
namespace SessionBridge

/-- Puts a name behind a directory. An absolute name stands for itself; nothing is normalized. -/
def joinPath (dir name : String) : String :=
  if name.toList.head? = some '/' then name
  else if dir.isEmpty || dir.toList.getLast? = some '/' then dir ++ name
  else dir ++ "/" ++ name

namespace LogFile

def name (stem : String) (started : DateTime) : String :=
  stem ++ started.stamp ++ ".txt"

/-- The path of the log file once the directory is there; `prepare` tells whether it is. -/
def destination (prepare : String → Except OsError Unit) (dir stem : String) (started : DateTime) :
    Except DaemonError String :=
  match prepare dir with
  | .error e => .error (.logDestination dir e.message)
  | .ok () => .ok (joinPath dir (name stem started))

end LogFile

end SessionBridge
