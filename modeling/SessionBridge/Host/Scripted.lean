import SessionBridge.Host.Worker

/-! Daemon entries whose every call ends as a script says. -/
namespace SessionBridge

structure ScriptedEntry where
  setLogFile : Outcome DaemonError Unit
  setArguments : Outcome DaemonError Unit
  main : Outcome DaemonError Unit

instance : DaemonEntry ScriptedEntry where
  setLogFile _ entry := (entry.setLogFile, entry)
  setArguments _ entry := (entry.setArguments, entry)
  daemonMain _ _ entry := (entry.main, entry)

structure PlainEntry where
  setLogFile : Outcome DaemonError Unit
  main : Outcome DaemonError Unit

instance : DaemonEntry PlainEntry where
  setLogFile _ entry := (entry.setLogFile, entry)
  daemonMain _ _ entry := (entry.main, entry)

end SessionBridge
