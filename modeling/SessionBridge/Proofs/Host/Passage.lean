import SessionBridge.Host.Process
import SessionBridge.Proofs.Host.LogPath
import SessionBridge.Proofs.Host.Placement

/-! The way of the arguments through a start. The log path is split off, its directory is made, and the
system is asked to run the program with the log file in front of the arguments that are its own. -/
namespace SessionBridge

namespace HostConfig

theorem validate_eq_ok_iff {c : HostConfig} :
    c.validate = .ok () ↔
      c.daemonProgram ≠ "" ∧
        (c.programName ≠ "" ∧ ∀ char ∈ c.programName.toList, ¬Text.isBlank char) ∧
        (c.logFilePrefix ≠ "" ∧ ∀ char ∈ c.logFilePrefix.toList, ¬isSeparator char) ∧
        c.workerThreadName ≠ "" := by
  have hrefused {p : Prop} [Decidable p] {e : DaemonError} {x : Except DaemonError Unit} :
      (if p then .error e else x) = .ok () ↔ ¬p ∧ x = .ok () := by
    by_cases hp : p <;> simp [hp]
  simp only [validate, hrefused, Bool.or_eq_true, String.isEmpty_iff, List.any_eq_true, not_or,
    not_exists, not_and, and_true, ne_eq]

theorem slash_not_mem_logFilePrefix {c : HostConfig} (h : c.validate = .ok ()) :
    '/' ∉ c.logFilePrefix.toList := by
  obtain ⟨-, -, ⟨-, hplain⟩, -⟩ := validate_eq_ok_iff.mp h
  exact fun hmem => hplain '/' hmem rfl

end HostConfig

namespace ServiceHost

theorem create_eq_ok_iff {config : HostConfig} {host : ServiceHost} :
    create config = .ok host ↔ config.validate = .ok () ∧ host = ⟨config⟩ := by
  unfold create
  rcases config.validate with e | ⟨⟩
  · simp [Except.map]
  · simp [Except.map, eq_comm]

inductive Beginning (host : ServiceHost) (args : ServiceArgs) (prepare : String → Except OsError Unit)
    (started : DateTime) (daemon : ProgramDaemon) : Start ProgramDaemon → Prop where
  | pathless (hpath : args.logPath = none) :
      Beginning host args prepare started daemon ⟨daemon, [], .failure .logPathMissing⟩
  | unprepared (dir : String) (e : OsError) (hpath : args.logPath = some dir)
      (hprepare : prepare dir = .error e) :
      Beginning host args prepare started daemon
        ⟨daemon, [], .failure (.logDestination dir e.message)⟩
  | unnamed (dir logFile : String) (hpath : args.logPath = some dir) (hprepare : prepare dir = .ok ())
      (hlog : logFile = joinPath dir (LogFile.name host.config.logFilePrefix started))
      (hname : isThreadName host.config.workerThreadName = false) :
      Beginning host args prepare started daemon
        ⟨{ daemon with logFile := some logFile, arguments := args.forwarded },
          [.setLogFile logFile, .setArguments args.forwarded], .panic⟩
  | begun (dir logFile line : String) (hpath : args.logPath = some dir) (hprepare : prepare dir = .ok ())
      (hlog : logFile = joinPath dir (LogFile.name host.config.logFilePrefix started))
      (hline : line = args.commandLine host.config.programName)
      (hname : isThreadName host.config.workerThreadName = true) (asked : Invocation)
      (hasked : asked = ⟨daemon.program, "--log-file" :: logFile :: args.forwarded⟩) :
      Beginning host args prepare started daemon
        ⟨{ daemon with logFile := some logFile, arguments := args.forwarded, invoked := some asked },
          [.setLogFile logFile, .setArguments args.forwarded,
            .daemonMain line host.config.workerThreadName],
          .value ⟨logFile, line, ProgramDaemon.outcomeOf daemon.program (daemon.execute asked)⟩⟩

theorem beginning_start (host : ServiceHost) (args : ServiceArgs)
    (prepare : String → Except OsError Unit) (started : DateTime) (daemon : ProgramDaemon) :
    Beginning host args prepare started daemon (host.start args prepare started daemon) := by
  unfold start
  rcases hpath : args.logPath with _ | dir
  · exact .pathless hpath
  dsimp only
  unfold LogFile.destination
  rcases hprepare : prepare dir with e | ⟨⟩
  · exact .unprepared dir e hpath hprepare
  rcases hname : isThreadName host.config.workerThreadName with _ | _
  · simp only [setUp, spawn, DaemonEntry.setLogFile, DaemonEntry.setArguments, hname]
    exact .unnamed dir _ hpath hprepare rfl hname
  · simp only [setUp, spawn, DaemonEntry.setLogFile, DaemonEntry.setArguments, hname]
    exact .begun dir _ _ hpath hprepare rfl rfl hname _ rfl

/-- What a start does with the arguments of a program. If it gives a worker, the directory in the last
log path argument is there and the system has been asked to run the program with a log file that lies
directly in it, under a name that tells the prefix and the time, and behind it with all other arguments
as they were given and in their order; the worker tells the same log file, a line for display, and what
the system answered, be it that the program cannot be run. Without a directory in
the last log path argument, and only then, the start fails for the lack of a path, and nothing is
called. A start gives a worker if nothing else is amiss: the directory can be made and the thread be
named. -/
theorem arguments_reach_program {config : HostConfig} {host : ServiceHost}
    (hcreate : create config = .ok host) (args : List String) (prepare : String → Except OsError Unit)
    (started : DateTime) (daemon : ProgramDaemon) :
    let name := LogFile.name config.logFilePrefix started
    let own := ServiceArgs.own args
    let start := host.start (.parse args) prepare started daemon
    (∀ worker, start.worker = .value worker →
      ∃ value dir, ServiceArgs.LastLogPath args value ∧ ServiceArgs.cleanPath value = some dir ∧
        prepare dir = .ok () ∧ worker.logFile = joinPath dir name ∧
        FileTree.IsEntry dir worker.logFile name ∧
        worker.commandLine = " ".intercalate (config.programName :: own) ∧
        ∃ asked : Invocation, asked = ⟨daemon.program, "--log-file" :: worker.logFile :: own⟩ ∧
          start.entry.invoked = some asked ∧
          worker.outcome = ProgramDaemon.outcomeOf daemon.program (daemon.execute asked) ∧
          start.calls = [.setLogFile worker.logFile, .setArguments own,
            .daemonMain worker.commandLine config.workerThreadName]) ∧
      (start.worker = .failure .logPathMissing ↔ ServiceArgs.NoLogPath args) ∧
      (ServiceArgs.NoLogPath args → start.calls = [] ∧ start.entry = daemon) ∧
      ((∃ worker, start.worker = .value worker) ↔
        (∃ value dir, ServiceArgs.LastLogPath args value ∧ ServiceArgs.cleanPath value = some dir ∧
          prepare dir = .ok ()) ∧ isThreadName config.workerThreadName = true) := by
  intro name own start
  obtain ⟨hvalid, rfl⟩ := create_eq_ok_iff.mp hcreate
  have hslash : '/' ∉ name.toList :=
    LogFile.slash_not_mem_name (HostConfig.slash_not_mem_logFilePrefix hvalid) started
  have hentry (dir : String) : FileTree.IsEntry dir (joinPath dir name) name :=
    FileTree.isEntry_joinPath dir hslash (LogFile.name_genuine _ started)
  have hown : (ServiceArgs.parse args).forwarded = own := ServiceArgs.forwarded_parse args
  have hmissing : (ServiceArgs.parse args).logPath = none ↔ ServiceArgs.NoLogPath args :=
    ServiceArgs.logPath_parse_eq_none_iff
  have hdir (dir : String) : (ServiceArgs.parse args).logPath = some dir ↔
      ∃ value, ServiceArgs.LastLogPath args value ∧ ServiceArgs.cleanPath value = some dir :=
    ServiceArgs.logPath_parse_eq_some_iff
  have hbegins : Beginning ⟨config⟩ (.parse args) prepare started daemon start := beginning_start ..
  clear_value start
  cases hbegins with
  | pathless hpath =>
    refine ⟨fun worker hworker => (nomatch hworker), iff_of_true rfl (hmissing.mp hpath),
      fun _ => ⟨rfl, rfl⟩, iff_of_false (fun ⟨worker, hworker⟩ => (nomatch hworker)) ?_⟩
    rintro ⟨⟨value, dir, hlast, hclean, -⟩, -⟩
    exact absurd ((hdir dir).mpr ⟨value, hlast, hclean⟩) (by simp [hpath])
  | unprepared dir e hpath hprepare =>
    have hgiven : ¬ServiceArgs.NoLogPath args := mt hmissing.mpr (by simp [hpath])
    refine ⟨fun worker hworker => (nomatch hworker), iff_of_false (fun h => (nomatch h)) hgiven,
      fun hno => absurd hno hgiven, iff_of_false (fun ⟨worker, hworker⟩ => (nomatch hworker)) ?_⟩
    rintro ⟨⟨value, other, hlast, hclean, hother⟩, -⟩
    cases hpath.symm.trans ((hdir other).mpr ⟨value, hlast, hclean⟩)
    cases hprepare.symm.trans hother
  | unnamed dir logFile hpath hprepare hlog hname =>
    have hgiven : ¬ServiceArgs.NoLogPath args := mt hmissing.mpr (by simp [hpath])
    refine ⟨fun worker hworker => (nomatch hworker), iff_of_false (fun h => (nomatch h)) hgiven,
      fun hno => absurd hno hgiven, iff_of_false (fun ⟨worker, hworker⟩ => (nomatch hworker)) ?_⟩
    rintro ⟨-, hnamed⟩
    cases hname.symm.trans hnamed
  | begun dir logFile line hpath hprepare hlog hline hname asked hasked =>
    have hgiven : ¬ServiceArgs.NoLogPath args := mt hmissing.mpr (by simp [hpath])
    obtain ⟨value, hlast, hclean⟩ := (hdir dir).mp hpath
    refine ⟨?_, iff_of_false (fun h => (nomatch h)) hgiven, fun hno => absurd hno hgiven,
      iff_of_true ⟨_, rfl⟩ ⟨⟨value, dir, hlast, hclean, hprepare⟩, hname⟩⟩
    rintro worker ⟨⟩
    rw [hown] at hasked
    refine ⟨value, dir, hlast, hclean, hprepare, hlog, ?_, ?_, asked, hasked, rfl, rfl, ?_⟩
    · rw [hlog]
      exact hentry dir
    · rw [hline, ServiceArgs.commandLine, hown]
    · rw [hown]

def mixedArgs : List String :=
  ["--name=two words", " LogPath=\"/tmp", "", "logpath = /tmp", "loGpAtH= \" /srv/bus logs/\" ",
    "\t\"quoted\""]

theorem arguments_reach_program_mixedArgs :
    let daemon := ProgramDaemon.create "daemon" fun _ => .ok (.exited 3)
    let start := (⟨.standard⟩ : ServiceHost).start (.parse mixedArgs) (fun _ => .ok ())
      ⟨⟨2026, 10, 18⟩, 9, 5, 33⟩ daemon
    create .standard = .ok ⟨.standard⟩ ∧ ∃ worker, start.worker = .value worker ∧
      worker.logFile = "/srv/bus logs/DaemonLog_2026-10-18_09_05_33.txt" ∧
      worker.outcome = .failure (.daemonExit 3) ∧
      start.entry.invoked = some ⟨"daemon", ["--log-file",
        "/srv/bus logs/DaemonLog_2026-10-18_09_05_33.txt", "--name=two words", "", "logpath = /tmp",
        "\t\"quoted\""]⟩ := by
  intro daemon start
  have hcreate : create .standard = .ok ⟨.standard⟩ := create_eq_ok_iff.mpr ⟨rfl, rfl⟩
  have hgiven : (ServiceArgs.parse mixedArgs).logPath = some "/srv/bus logs/" := by decide +kernel
  obtain ⟨value, hlast, hclean⟩ := ServiceArgs.logPath_parse_eq_some_iff.mp hgiven
  obtain ⟨hvalue, -, -, hbegins⟩ := arguments_reach_program hcreate mixedArgs (fun _ => .ok ())
    ⟨⟨2026, 10, 18⟩, 9, 5, 33⟩ daemon
  obtain ⟨worker, hworker⟩ := hbegins.mpr ⟨⟨value, _, hlast, hclean, rfl⟩, by decide +kernel⟩
  obtain ⟨_, dir, hlast', hclean', -, hlog, -, -, asked, hasked, hinvoked, houtcome, -⟩ :=
    hvalue worker hworker
  obtain rfl : "/srv/bus logs/" = dir := by
    have hdir := ServiceArgs.logPath_parse_eq_some_iff.mpr ⟨_, hlast', hclean'⟩
    exact Option.some.inj (hgiven.symm.trans hdir)
  have hfile : worker.logFile = "/srv/bus logs/DaemonLog_2026-10-18_09_05_33.txt" :=
    hlog.trans (by decide +kernel)
  refine ⟨hcreate, worker, hworker, hfile, houtcome, ?_⟩
  rw [hinvoked, hasked, hfile]
  decide +kernel

end ServiceHost

end SessionBridge
