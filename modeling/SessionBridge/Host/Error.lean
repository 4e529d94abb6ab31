import SessionBridge.Text.Decimal

/-! What can go wrong in the service host, and how the operating system says it. -/
namespace SessionBridge

inductive OsError where
  | notFound
  | tooManyArguments
  | permissionDenied
  | fileExists
  | notADirectory
  | isADirectory
  | nameTooLong
  | zeroInPath
  | zeroInArgument
  | invalidText
  deriving DecidableEq

def OsError.message : OsError → String
  | .notFound => "No such file or directory (os error 2)"
  | .tooManyArguments => "Argument list too long (os error 7)"
  | .permissionDenied => "Permission denied (os error 13)"
  | .fileExists => "File exists (os error 17)"
  | .notADirectory => "Not a directory (os error 20)"
  | .isADirectory => "Is a directory (os error 21)"
  | .nameTooLong => "File name too long (os error 36)"
  | .zeroInPath => "file name contained an unexpected NUL byte"
  | .zeroInArgument => "nul byte found in provided data"
  | .invalidText => "stream did not contain valid UTF-8"

inductive DaemonError where
  | logPathMissing
  | logDestination (path reason : String)
  | config (message : String)
  | entry (message : String)
  | daemonExit (status : Int32)
  | workerPanicked
  | io (error : OsError)
  | toml
  deriving DecidableEq

def DaemonError.message : DaemonError → String
  | .logPathMissing => "Path name for log file not found in service arguments"
  | .logDestination path reason => "Cannot prepare log destination " ++ path ++ ": " ++ reason
  | .config message => "Configuration error: " ++ message
  | .entry message => "Daemon entry error: " ++ message
  | .daemonExit status => "Daemon exited with status " ++ Text.decimal status.toInt
  | .workerPanicked => "Daemon worker panicked"
  | .io error => "IO error: " ++ error.message
  | .toml => "TOML parsing error"

end SessionBridge
