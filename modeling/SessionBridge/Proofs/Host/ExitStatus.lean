import SessionBridge.Host.Launch
import SessionBridge.Host.Scripted
import SessionBridge.Proofs.Host.Passage
import SessionBridge.Proofs.Host.SetUp

/-! The exit status of a run. Whatever goes wrong before there is a worker is a failure, and no flag hides
it; what comes of the daemon counts only for a run that observes its worker. A name that no thread can have
is noticed by nobody before the thread is made, and it takes the whole run down. -/
namespace SessionBridge.Launch

/-! ### How far a run gets -/

structure Configured (s : Surroundings) (c : CommandLine) (config : HostConfig) : Prop where
  load : ∃ loaded, loadConfig s c.config = .ok loaded ∧ config = overrideDaemon c.daemon loaded
  valid : config.validate = .ok ()

inductive Fails (s : Surroundings) (c : CommandLine) : DaemonError → Prop where
  | unloaded {e : DaemonError} (hload : loadConfig s c.config = .error e) : Fails s c e
  | invalid {loaded : HostConfig} {e : DaemonError} (hload : loadConfig s c.config = .ok loaded)
      (hvalid : (overrideDaemon c.daemon loaded).validate = .error e) : Fails s c e
  | pathless {config : HostConfig} (hconfig : Configured s c config)
      (hpath : (ServiceArgs.parse c.serviceArgs).logPath = none) : Fails s c .logPathMissing
  | unprepared {config : HostConfig} {dir : String} {e : OsError} (hconfig : Configured s c config)
      (hpath : (ServiceArgs.parse c.serviceArgs).logPath = some dir)
      (hprepare : s.ensureDirectory dir = .error e) : Fails s c (.logDestination dir e.message)

structure Prepared (s : Surroundings) (c : CommandLine) (config : HostConfig) (dir : String) : Prop where
  configured : Configured s c config
  logPath : (ServiceArgs.parse c.serviceArgs).logPath = some dir
  directory : s.ensureDirectory dir = .ok ()

def invocationOf (s : Surroundings) (c : CommandLine) (config : HostConfig) (dir : String) : Invocation :=
  ⟨config.daemonProgram, "--log-file" :: joinPath dir (LogFile.name config.logFilePrefix s.now) ::
    (ServiceArgs.parse c.serviceArgs).forwarded⟩

variable {s : Surroundings} {c : CommandLine} {config : HostConfig} {dir : String}

theorem Configured.host (h : Configured s c config) : host s c = .ok ⟨config⟩ := by
  obtain ⟨⟨loaded, hload, rfl⟩, hvalid⟩ := h
  unfold Launch.host
  rw [hload]
  exact ServiceHost.create_eq_ok_iff.mpr ⟨hvalid, rfl⟩

theorem host_of_unloaded {e : DaemonError} (h : loadConfig s c.config = .error e) :
    host s c = .error e := by
  unfold host
  rw [h]
  rfl

theorem host_of_invalid {loaded : HostConfig} {e : DaemonError} (hload : loadConfig s c.config = .ok loaded)
    (hvalid : (overrideDaemon c.daemon loaded).validate = .error e) : host s c = .error e := by
  unfold host
  rw [hload]
  change ServiceHost.create (overrideDaemon c.daemon loaded) = _
  rw [ServiceHost.create, hvalid]
  rfl

theorem fails_or_prepared (s : Surroundings) (c : CommandLine) :
    (∃ e, Fails s c e) ∨ ∃ config dir, Prepared s c config dir := by
  rcases hload : loadConfig s c.config with e | loaded
  · exact .inl ⟨e, .unloaded hload⟩
  rcases hvalid : (overrideDaemon c.daemon loaded).validate with e | ⟨⟩
  · exact .inl ⟨e, .invalid hload hvalid⟩
  have hconfig : Configured s c (overrideDaemon c.daemon loaded) := ⟨⟨loaded, hload, rfl⟩, hvalid⟩
  rcases hpath : (ServiceArgs.parse c.serviceArgs).logPath with _ | dir
  · exact .inl ⟨_, .pathless hconfig hpath⟩
  rcases hprepare : s.ensureDirectory dir with e | ⟨⟩
  · exact .inl ⟨_, .unprepared hconfig hpath hprepare⟩
  · exact .inr ⟨_, dir, hconfig, hpath, hprepare⟩

/-! ### What a run leaves -/

/-- The exit status of a run with a worker. The flag hides what came of the daemon, and nothing else. -/
structure Told (c : CommandLine) (succeeded : Prop) (status : UInt8) : Prop where
  unobserved : c.observeWorker = false → status = 0
  success : c.observeWorker = true → (status = 0 ↔ succeeded)
  failure : c.observeWorker = true → (status = 1 ↔ ¬succeeded)

structure Refused (r : Report) (e : DaemonError) : Prop where
  outcome : r.outcome = .failure e
  status : r.exitStatus = 1
  invoked : r.invoked = none

theorem invoked_finish (notices : List Notice) (invoked : Option Invocation)
    (ending : Except DaemonError Unit) : (finish notices invoked ending).invoked = invoked := by
  cases ending <;> rfl

theorem refused_finish (notices : List Notice) (e : DaemonError) :
    Refused (finish notices none (.error e)) e :=
  ⟨rfl, rfl, rfl⟩

variable {notices : List Notice} {invoked : Option Invocation}

theorem exitStatus_finish_eq_zero_iff {ending : Except DaemonError Unit} :
    (finish notices invoked ending).exitStatus = 0 ↔ ending = .ok () := by
  rcases ending with e | ⟨⟩
  · exact iff_of_false (by decide : (1 : UInt8) ≠ 0) nofun
  · exact iff_of_true rfl rfl

theorem exitStatus_finish_eq_one_iff {ending : Except DaemonError Unit} :
    (finish notices invoked ending).exitStatus = 1 ↔ ending ≠ .ok () := by
  rcases ending with e | ⟨⟩
  · exact iff_of_true rfl nofun
  · exact iff_of_false (by decide : (0 : UInt8) ≠ 1) (not_not_intro rfl)

theorem join_eq_ok_iff {worker : Worker} : worker.join = .ok () ↔ worker.outcome = .value () := by
  unfold Worker.join
  rcases worker.outcome with _ | e | _
  · exact iff_of_true rfl rfl
  · exact iff_of_false nofun nofun
  · exact iff_of_false nofun nofun

theorem told_finish (c : CommandLine) (worker : Worker) :
    Told c (worker.outcome = .value ()) (finish notices invoked (conclude c worker)).exitStatus := by
  unfold conclude
  constructor
  · intro hobserve
    rw [hobserve]
    rfl
  · intro hobserve
    rw [if_pos hobserve, exitStatus_finish_eq_zero_iff, join_eq_ok_iff]
  · intro hobserve
    rw [if_pos hobserve, exitStatus_finish_eq_one_iff, ne_eq, join_eq_ok_iff]

theorem run_of_error {e : DaemonError} (h : host s c = .error e) :
    run s c = finish [configNotice c.config] none (.error e) := by
  unfold run
  rw [h]

variable {host : ServiceHost}

theorem run_of_failure {e : DaemonError} (hhost : Launch.host s c = .ok host)
    (hworker : (start s c host).worker = .failure e) :
    ∃ notices, run s c = finish notices (start s c host).entry.invoked (.error e) := by
  unfold run
  rw [hhost]
  dsimp only
  rw [hworker]
  exact ⟨_, rfl⟩

theorem run_of_panic (hhost : Launch.host s c = .ok host) (hworker : (start s c host).worker = .panic) :
    ∃ notices, run s c = ⟨notices, (start s c host).entry.invoked, .panic⟩ := by
  unfold run
  rw [hhost]
  dsimp only
  rw [hworker]
  exact ⟨_, rfl⟩

theorem run_of_worker {worker : Worker} (hhost : Launch.host s c = .ok host)
    (hworker : (start s c host).worker = .value worker) :
    ∃ notices, run s c = finish notices (start s c host).entry.invoked (conclude c worker) := by
  unfold run
  rw [hhost]
  dsimp only
  rw [hworker]
  exact ⟨_, rfl⟩

theorem Fails.refused {e : DaemonError} (h : Fails s c e) : Refused (run s c) e := by
  cases h with
  | unloaded hload =>
    rw [run_of_error (host_of_unloaded hload)]
    exact refused_finish ..
  | invalid hload hvalid =>
    rw [run_of_error (host_of_invalid hload hvalid)]
    exact refused_finish ..
  | @pathless config hconfig hpath =>
    have hstart : start s c ⟨config⟩ =
        ⟨.create config.daemonProgram s.execute, [], .failure .logPathMissing⟩ :=
      ServiceHost.start_of_none _ hpath _
    obtain ⟨notices, hrun⟩ := run_of_failure hconfig.host (congrArg Start.worker hstart)
    rw [hrun, hstart]
    exact refused_finish ..
  | @unprepared config dir e hconfig hpath hprepare =>
    have hstart : start s c ⟨config⟩ =
        ⟨.create config.daemonProgram s.execute, [], .failure (.logDestination dir e.message)⟩ :=
      ServiceHost.start_of_error _ hpath hprepare _
    obtain ⟨notices, hrun⟩ := run_of_failure hconfig.host (congrArg Start.worker hstart)
    rw [hrun, hstart]
    exact refused_finish ..

theorem outcomeOf_eq_value_iff (program : String) {ending : Except OsError ProgramEnd} :
    ProgramDaemon.outcomeOf program ending = .value () ↔ ending = .ok (.exited 0) := by
  unfold ProgramDaemon.outcomeOf
  split <;> simp_all

theorem setUp_program (daemon : ProgramDaemon) (logFile : String) (forwarded : List String) :
    SetUp logFile forwarded daemon [.setLogFile logFile, .setArguments forwarded]
      { daemon with logFile := some logFile, arguments := forwarded } (.value ()) :=
  .answered rfl rfl

theorem Prepared.start_eq (h : Prepared s c config dir) :
    start s c ⟨config⟩ = (⟨config⟩ : ServiceHost).spawn (.parse c.serviceArgs)
      (joinPath dir (LogFile.name config.logFilePrefix s.now))
      [.setLogFile (joinPath dir (LogFile.name config.logFilePrefix s.now)),
        .setArguments (ServiceArgs.parse c.serviceArgs).forwarded]
      ⟨config.daemonProgram, some (joinPath dir (LogFile.name config.logFilePrefix s.now)),
        (ServiceArgs.parse c.serviceArgs).forwarded, s.execute, none⟩ := by
  rw [start, ServiceHost.start_of_ok _ h.logPath h.directory, ServiceHost.setUp_eq _ (setUp_program ..)]
  rfl

theorem Prepared.run_unnamed (h : Prepared s c config dir)
    (hname : ServiceHost.isThreadName config.workerThreadName = false) :
    (run s c).exitStatus = 101 ∧ (run s c).invoked = none := by
  have hstart := h.start_eq
  rw [ServiceHost.spawn_unnamed _ hname] at hstart
  obtain ⟨notices, hrun⟩ := run_of_panic h.configured.host (congrArg Start.worker hstart)
  rw [hrun, hstart]
  exact ⟨rfl, rfl⟩

theorem Prepared.start_named (h : Prepared s c config dir)
    (hname : ServiceHost.isThreadName config.workerThreadName = true) :
    ∃ worker, (start s c ⟨config⟩).worker = .value worker ∧
      worker.outcome =
        ProgramDaemon.outcomeOf config.daemonProgram (s.execute (invocationOf s c config dir)) ∧
      (start s c ⟨config⟩).entry.invoked = some (invocationOf s c config dir) := by
  rw [h.start_eq, ServiceHost.spawn_named _ hname]
  exact ⟨_, rfl, rfl, rfl⟩

theorem Prepared.run_named (h : Prepared s c config dir)
    (hname : ServiceHost.isThreadName config.workerThreadName = true) :
    (run s c).invoked = some (invocationOf s c config dir) ∧
      Told c (s.execute (invocationOf s c config dir) = .ok (.exited 0)) (run s c).exitStatus := by
  obtain ⟨worker, hworker, houtcome, hinvoked⟩ := h.start_named hname
  obtain ⟨notices, hrun⟩ := run_of_worker h.configured.host hworker
  rw [hrun, ← outcomeOf_eq_value_iff config.daemonProgram, ← houtcome]
  exact ⟨(invoked_finish ..).trans hinvoked, told_finish c worker⟩

theorem Configured.program (h : Configured s c config) {loaded : HostConfig}
    (hload : loadConfig s c.config = .ok loaded) :
    config.daemonProgram = c.daemon.getD loaded.daemonProgram := by
  obtain ⟨⟨loaded', hload', rfl⟩, -⟩ := h
  cases hload.symm.trans hload'
  rfl

/-- What a configuration file says, before anything in it is checked. -/
def Says (s : Surroundings) (path : String) (parsed : HostConfig) : Prop :=
  ∃ bytes text, s.contentsOf path = .ok bytes ∧ Utf8.decode? bytes = some text ∧
    Toml.parse text >>= HostConfig.ofToml? = some parsed

/-- A file is checked as it is: nothing on the command line makes up for what it lacks. -/
theorem loadConfig_of_says {path : String} {parsed : HostConfig} (h : Says s path parsed) :
    loadConfig s (some path) = parsed.validate.map fun () => parsed := by
  obtain ⟨bytes, text, hcontents, htext, hparsed⟩ := h
  change HostConfig.load (s.contentsOf path) = _
  unfold HostConfig.load
  rw [hcontents]
  dsimp only
  rw [htext]
  dsimp only
  rw [hparsed]

/-! ### Runs that differ in what comes of the daemon -/

variable {execute : Invocation → Except OsError ProgramEnd}

theorem Fails.withExecute {e : DaemonError} (h : Fails s c e) : Fails { s with execute } c e := by
  cases h with
  | unloaded hload => exact .unloaded hload
  | invalid hload hvalid => exact .invalid hload hvalid
  | pathless hconfig hpath => exact .pathless ⟨hconfig.load, hconfig.valid⟩ hpath
  | unprepared hconfig hpath hprepare => exact .unprepared ⟨hconfig.load, hconfig.valid⟩ hpath hprepare

theorem Prepared.withExecute (h : Prepared s c config dir) : Prepared { s with execute } c config dir :=
  ⟨⟨h.configured.load, h.configured.valid⟩, h.logPath, h.directory⟩

theorem exitStatus_withExecute (hobserve : c.observeWorker = false) :
    (run { s with execute } c).exitStatus = (run s c).exitStatus := by
  obtain ⟨e, hfails⟩ | ⟨config, dir, hprepared⟩ := fails_or_prepared s c
  · rw [hfails.refused.status, hfails.withExecute.refused.status]
  cases hname : ServiceHost.isThreadName config.workerThreadName with
  | false => rw [(hprepared.run_unnamed hname).1, (hprepared.withExecute.run_unnamed hname).1]
  | true =>
    rw [(hprepared.run_named hname).2.unobserved hobserve,
      (hprepared.withExecute.run_named hname).2.unobserved hobserve]

/-! ### Any worker -/

/-- A run with any way to come to a worker, short of what it says: with another daemon, say, or on a system
that has no thread left. -/
def supervise (s : Surroundings) (c : CommandLine) (begin : ServiceHost → Outcome DaemonError Worker) :
    Report :=
  match Launch.host s c with
  | .error e => finish [] none (.error e)
  | .ok host =>
    match begin host with
    | .panic => ⟨[], none, .panic⟩
    | .failure e => finish [] none (.error e)
    | .value worker => finish [] none (conclude c worker)

theorem outcome_finish (notices : List Notice) (invoked : Option Invocation)
    (ending : Except DaemonError Unit) :
    (finish notices invoked ending).outcome = (finish [] none ending).outcome := by
  cases ending <;> rfl

theorem outcome_run (s : Surroundings) (c : CommandLine) :
    (run s c).outcome = (supervise s c fun host => (start s c host).worker).outcome := by
  unfold supervise
  rcases hhost : Launch.host s c with e | host
  · rw [run_of_error hhost]
    exact outcome_finish ..
  dsimp only
  rcases hworker : (start s c host).worker with worker | e | _
  · obtain ⟨notices, hrun⟩ := run_of_worker hhost hworker
    rw [hrun]
    exact outcome_finish ..
  · obtain ⟨notices, hrun⟩ := run_of_failure hhost hworker
    rw [hrun]
    exact outcome_finish ..
  · obtain ⟨notices, hrun⟩ := run_of_panic hhost hworker
    rw [hrun]

variable {begin : ServiceHost → Outcome DaemonError Worker}

theorem supervise_of_error {e : DaemonError} (h : Launch.host s c = .error e) :
    Refused (supervise s c begin) e := by
  unfold supervise
  rw [h]
  exact refused_finish ..

/-- What a start comes to decides the status of a run: any failure shows, and what comes of a worker shows
to those who observe it. -/
structure Decided (c : CommandLine) (r : Report) (worker : Outcome DaemonError Worker) : Prop where
  failure : ∀ e, worker = .failure e → Refused r e
  panic : worker = .panic → r.exitStatus = 101
  value : ∀ w, worker = .value w → Told c (w.outcome = .value ()) r.exitStatus

theorem decided_supervise (hhost : Launch.host s c = .ok host) :
    Decided c (supervise s c begin) (begin host) := by
  unfold supervise
  rw [hhost]
  dsimp only
  constructor
  · intro e hbegin
    rw [hbegin]
    exact refused_finish ..
  · intro hbegin
    rw [hbegin]
    rfl
  · intro worker hbegin
    rw [hbegin]
    exact told_finish c worker

/-- The exit status of every run, and how its daemon is invoked. A run whose worker cannot be started has the
status of a failure with the flag and without it, unless the thread of the worker cannot have its name: then
it ends in a panic. -/
theorem exit_status_of_run (s : Surroundings) (c : CommandLine) :
    ((∃ e, Fails s c e) ∨ ∃ config dir, Prepared s c config dir) ∧
    (∀ e, Fails s c e → Refused (run s c) e) ∧
    (∀ config dir, Prepared s c config dir →
      (ServiceHost.isThreadName config.workerThreadName = false →
        (run s c).exitStatus = 101 ∧ (run s c).invoked = none) ∧
      (ServiceHost.isThreadName config.workerThreadName = true →
        (run s c).invoked = some (invocationOf s c config dir) ∧
        Told c (s.execute (invocationOf s c config dir) = .ok (.exited 0)) (run s c).exitStatus) ∧
      ∀ loaded, loadConfig s c.config = .ok loaded →
        (invocationOf s c config dir).program = c.daemon.getD loaded.daemonProgram) ∧
    (c.observeWorker = false → ∀ execute, (run { s with execute } c).exitStatus = (run s c).exitStatus) ∧
    (∀ path parsed e, c.config = some path → Says s path parsed → parsed.validate = .error e →
      Refused (run s c) e) ∧
    (run s c).outcome = (supervise s c fun host => (start s c host).worker).outcome ∧
    (∀ begin e, Launch.host s c = .error e → Refused (supervise s c begin) e) ∧
    ∀ begin host, Launch.host s c = .ok host → Decided c (supervise s c begin) (begin host) := by
  refine ⟨fails_or_prepared s c, fun _ hfails => hfails.refused, ?_, fun hobserve _ =>
    exitStatus_withExecute hobserve, ?_, outcome_run s c, fun _ _ => supervise_of_error, fun _ _ =>
    decided_supervise⟩
  · intro config dir h
    exact ⟨h.run_unnamed, h.run_named, fun _ hload => h.configured.program hload⟩
  · intro path parsed e hpath hsays hvalid
    refine Fails.refused (.unloaded ?_)
    rw [hpath, loadConfig_of_says hsays, hvalid]
    rfl

theorem exit_status_of_run_killed :
    let s : Surroundings := ⟨fun _ => .ok (Utf8.ofString "daemon_program=\"\""), fun _ => false,
      fun _ => .ok (), fun _ => .ok .killed, ⟨⟨2026, 10, 18⟩, 9, 5, 33⟩⟩
    let line (config : Option String) (observe : Bool) : CommandLine :=
      ⟨false, config, some "./daemon.sh", observe, ["logpath=/srv", "-v"]⟩
    let panicking : ServiceHost → Outcome DaemonError Worker := fun host =>
      (host.start ⟨some "/srv", []⟩ s.ensureDirectory s.now
        (⟨.value (), .value (), .panic⟩ : ScriptedEntry)).worker
    (run s (line none true)).exitStatus = 1 ∧ (run s (line none false)).exitStatus = 0 ∧
      (run s (line none false)).invoked =
        some ⟨"./daemon.sh", ["--log-file", "/srv/DaemonLog_2026-10-18_09_05_33.txt", "-v"]⟩ ∧
      (supervise s (line none true) panicking).exitStatus = 1 ∧
      Refused (run s (line (some "host.toml") false)) (.config "daemon_program must not be empty") := by
  intro s line panicking
  have hpath (observe : Bool) : (ServiceArgs.parse (line none observe).serviceArgs).logPath = some "/srv" := by
    change (ServiceArgs.parse ["logpath=/srv", "-v"]).logPath = some "/srv"
    decide +kernel
  have hvalid : (overrideDaemon (some "./daemon.sh") .standard).validate = .ok () := rfl
  have hprepared (observe : Bool) :
      Prepared s (line none observe) (overrideDaemon (some "./daemon.sh") .standard) "/srv" :=
    ⟨⟨⟨.standard, rfl, rfl⟩, hvalid⟩, hpath observe, rfl⟩
  have hname : ServiceHost.isThreadName HostConfig.standard.workerThreadName = true := by decide +kernel
  obtain ⟨-, -, hobserved, -, -, -, -, hdecided⟩ := exit_status_of_run s (line none true)
  obtain ⟨-, -, hunobserved, -⟩ := exit_status_of_run s (line none false)
  obtain ⟨-, -, -, -, hrefused, -⟩ := exit_status_of_run s (line (some "host.toml") false)
  obtain ⟨-, htold⟩ := (hobserved _ _ (hprepared true)).2.1 hname
  obtain ⟨hinvoked, hzero⟩ := (hunobserved _ _ (hprepared false)).2.1 hname
  obtain ⟨worker, hworker, hpanic⟩ :
      ∃ worker, panicking ⟨overrideDaemon (some "./daemon.sh") .standard⟩ = .value worker ∧
        worker.outcome = .panic := by
    dsimp only [panicking]
    rw [ServiceHost.start_of_ok _ rfl rfl, ServiceHost.setUp_eq _ (.answered rfl rfl)]
    exact ⟨_, congrArg Start.worker (ServiceHost.spawn_named _ hname _ _), rfl⟩
  have hpanicking := hdecided panicking _ (hprepared true).configured.host
  refine ⟨(htold.failure rfl).mpr nofun, hzero.unobserved rfl, ?_, ?_, ?_⟩
  · rw [hinvoked]
    decide +kernel
  · exact ((hpanicking.value worker hworker).failure rfl).mpr (by rw [hpanic]; nofun)
  · exact hrefused "host.toml" { HostConfig.standard with daemonProgram := "" } _ rfl
      ⟨_, "daemon_program=\"\"".toList, rfl, by decide +kernel, by decide +kernel⟩ rfl

/-- A name with a zero character passes the check of the configuration, and the run ends in a panic where a
failure was to be reported. -/
theorem zero_in_thread_name_panics :
    let s : Surroundings := ⟨fun _ => .ok (Utf8.ofString "worker_thread_name=\"a\\u0000\""), fun _ => false,
      fun _ => .ok (), fun _ => .ok (.exited 0), ⟨⟨2026, 10, 18⟩, 9, 5, 33⟩⟩
    let c : CommandLine := ⟨false, some "host.toml", some "./daemon.sh", false, ["logpath=l"]⟩
    (∃ host, Launch.host s c = .ok host ∧ ∀ worker, (start s c host).worker ≠ .value worker) ∧
      (run s c).invoked = none ∧ (run s c).exitStatus = 101 ∧ (run s c).exitStatus ≠ 1 := by
  intro s c
  have hsays : Says s "host.toml" { HostConfig.standard with workerThreadName := "a\x00" } :=
    ⟨_, "worker_thread_name=\"a\\u0000\"".toList, rfl, by decide +kernel, by decide +kernel⟩
  have hprepared : Prepared s c (overrideDaemon (some "./daemon.sh")
      { HostConfig.standard with workerThreadName := "a\x00" }) "l" :=
    ⟨⟨⟨_, loadConfig_of_says hsays, rfl⟩, rfl⟩, by decide +kernel, rfl⟩
  have hname : ServiceHost.isThreadName "a\x00" = false := by decide +kernel
  have hworker := congrArg Start.worker (hprepared.start_eq.trans (ServiceHost.spawn_unnamed _ hname ..))
  obtain ⟨hstatus, hinvoked⟩ := hprepared.run_unnamed hname
  refine ⟨⟨_, hprepared.configured.host, fun worker hvalue => ?_⟩, hinvoked, hstatus, ?_⟩
  · exact nomatch hworker.symm.trans hvalue
  · rw [hstatus]
    decide

end SessionBridge.Launch
