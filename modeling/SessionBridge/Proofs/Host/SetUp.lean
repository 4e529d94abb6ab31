import SessionBridge.Host.Worker

/-! How a start goes with any daemon, up to its worker. The daemon is given its log file and then its
arguments, and what it says to them decides whether it is run. -/
namespace SessionBridge

variable {ε : Type} [DaemonEntry ε]

structure Recorded (ε : Type) where
  entry : ε
  received : List EntryCall

namespace Recorded

def after (r : Recorded ε) (call : EntryCall) (result : Outcome DaemonError Unit × ε) :
    Outcome DaemonError Unit × Recorded ε :=
  (result.1, ⟨result.2, r.received ++ [call]⟩)

instance : DaemonEntry (Recorded ε) where
  setLogFile path r := r.after (.setLogFile path) (DaemonEntry.setLogFile path r.entry)
  setArguments forwarded r := r.after (.setArguments forwarded) (DaemonEntry.setArguments forwarded r.entry)
  daemonMain line name r := r.after (.daemonMain line name) (DaemonEntry.daemonMain line name r.entry)

end Recorded

/-- What setting a daemon up comes to: the calls, up to the first that does not succeed, the daemon as it
is left, and the answer to the last call. -/
inductive SetUp (logFile : String) (forwarded : List String) (entry : ε) :
    List EntryCall → ε → Outcome DaemonError Unit → Prop where
  | unlogged {left : ε} {answer : Outcome DaemonError Unit}
      (hset : DaemonEntry.setLogFile logFile entry = (answer, left)) (hanswer : answer ≠ .value ()) :
      SetUp logFile forwarded entry [.setLogFile logFile] left answer
  | answered {logged left : ε} {answer : Outcome DaemonError Unit}
      (hset : DaemonEntry.setLogFile logFile entry = (.value (), logged))
      (hanswer : DaemonEntry.setArguments forwarded logged = (answer, left)) :
      SetUp logFile forwarded entry [.setLogFile logFile, .setArguments forwarded] left answer

variable {logFile : String} {forwarded : List String} {entry left left' : ε} {calls calls' : List EntryCall}
  {answer answer' : Outcome DaemonError Unit}

namespace SetUp

theorem exists_setUp (logFile : String) (forwarded : List String) (entry : ε) :
    ∃ calls left answer, SetUp logFile forwarded entry calls left answer := by
  rcases hset : DaemonEntry.setLogFile logFile entry with ⟨_ | e | _, logged⟩
  · rcases hanswer : DaemonEntry.setArguments forwarded logged with ⟨answer, left⟩
    exact ⟨_, left, answer, .answered hset hanswer⟩
  · exact ⟨_, logged, _, .unlogged hset nofun⟩
  · exact ⟨_, logged, _, .unlogged hset nofun⟩

theorem calls_eq (h : SetUp logFile forwarded entry calls left (.value ())) :
    calls = [.setLogFile logFile, .setArguments forwarded] := by
  cases h with
  | unlogged hset hanswer => exact absurd rfl hanswer
  | answered hset hanswer => rfl

theorem calls_prefix (h : SetUp logFile forwarded entry calls left answer) :
    calls <+: [.setLogFile logFile, .setArguments forwarded] := by
  cases h with
  | unlogged hset hanswer => exact ⟨_, rfl⟩
  | answered hset hanswer => exact List.prefix_rfl

theorem recorded (h : SetUp logFile forwarded entry calls left answer) :
    SetUp logFile forwarded (⟨entry, []⟩ : Recorded ε) calls ⟨left, calls⟩ answer := by
  cases h with
  | unlogged hset hanswer =>
    refine .unlogged ?_ hanswer
    change Recorded.after _ _ (DaemonEntry.setLogFile logFile entry) = _
    rw [hset]
    rfl
  | @answered logged left answer hset hanswer =>
    have hlogged : DaemonEntry.setLogFile logFile (⟨entry, []⟩ : Recorded ε) =
        (.value (), ⟨logged, [.setLogFile logFile]⟩) := by
      change Recorded.after _ _ (DaemonEntry.setLogFile logFile entry) = _
      rw [hset]
      rfl
    refine .answered hlogged ?_
    change Recorded.after _ _ (DaemonEntry.setArguments forwarded logged) = _
    rw [hanswer]
    rfl

end SetUp

namespace ServiceHost

def logFileIn (host : ServiceHost) (dir : String) (started : DateTime) : String :=
  joinPath dir (LogFile.name host.config.logFilePrefix started)

def workerOf (host : ServiceHost) (args : ServiceArgs) (logFile : String) (left : ε) : Worker :=
  let line := args.commandLine host.config.programName
  ⟨logFile, line, (DaemonEntry.daemonMain line host.config.workerThreadName left).1⟩

/-- How a start goes on after the answer to the last call: only a daemon that has taken its log file and
its arguments gets a worker. -/
def proceed (host : ServiceHost) (args : ServiceArgs) (logFile : String) (calls : List EntryCall)
    (left : ε) : Outcome DaemonError Unit → Start ε
  | .value () => host.spawn args logFile calls left
  | .failure e => ⟨left, calls, .failure e⟩
  | .panic => ⟨left, calls, .panic⟩

variable (host : ServiceHost) {args : ServiceArgs} {prepare : String → Except OsError Unit}
  {started : DateTime} {dir : String}

theorem setUp_eq (h : SetUp logFile args.forwarded entry calls left answer) :
    host.setUp args logFile entry = host.proceed args logFile calls left answer := by
  unfold setUp
  cases h with
  | unlogged hset hanswer =>
    rw [hset]
    cases answer with
    | value => exact absurd rfl hanswer
    | failure e => rfl
    | panic => rfl
  | answered hset hanswer =>
    rw [hset]
    dsimp only
    rw [hanswer]
    cases answer <;> rfl

theorem spawn_named (hname : isThreadName host.config.workerThreadName = true) (calls : List EntryCall)
    (left : ε) :
    host.spawn args logFile calls left =
      ⟨(DaemonEntry.daemonMain (args.commandLine host.config.programName)
          host.config.workerThreadName left).2,
        calls ++ [.daemonMain (args.commandLine host.config.programName) host.config.workerThreadName],
        .value (host.workerOf args logFile left)⟩ := by
  unfold spawn
  exact if_pos hname

theorem spawn_unnamed (hname : isThreadName host.config.workerThreadName = false)
    (calls : List EntryCall) (left : ε) :
    host.spawn args logFile calls left = ⟨left, calls, .panic⟩ := by
  unfold spawn
  exact if_neg (Bool.eq_false_iff.mp hname)

theorem start_of_none (hpath : args.logPath = none) (entry : ε) :
    host.start args prepare started entry = ⟨entry, [], .failure .logPathMissing⟩ := by
  unfold start
  rw [hpath]

theorem start_of_error {e : OsError} (hpath : args.logPath = some dir) (hprepare : prepare dir = .error e)
    (entry : ε) :
    host.start args prepare started entry = ⟨entry, [], .failure (.logDestination dir e.message)⟩ := by
  unfold start LogFile.destination
  rw [hpath]
  dsimp only
  rw [hprepare]

theorem start_of_ok (hpath : args.logPath = some dir) (hprepare : prepare dir = .ok ()) (entry : ε) :
    host.start args prepare started entry = host.setUp args (host.logFileIn dir started) entry := by
  unfold start LogFile.destination
  rw [hpath]
  dsimp only
  rw [hprepare]
  rfl

/-! ### What the daemon receives -/

theorem spawn_recorded (calls : List EntryCall) (left : ε) :
    host.spawn args logFile calls (⟨left, calls⟩ : Recorded ε) =
      let plain := host.spawn args logFile calls left
      ⟨⟨plain.entry, plain.calls⟩, plain.calls, plain.worker⟩ := by
  unfold spawn
  dsimp only
  split <;> rfl

theorem start_recorded (entry : ε) :
    host.start args prepare started (⟨entry, []⟩ : Recorded ε) =
      let plain := host.start args prepare started entry
      ⟨⟨plain.entry, plain.calls⟩, plain.calls, plain.worker⟩ := by
  rcases hpath : args.logPath with _ | dir
  · rw [host.start_of_none hpath, host.start_of_none hpath]
  rcases hprepare : prepare dir with e | ⟨⟩
  · rw [host.start_of_error hpath hprepare, host.start_of_error hpath hprepare]
  rw [host.start_of_ok hpath hprepare, host.start_of_ok hpath hprepare]
  obtain ⟨calls, left, answer, hsetUp⟩ :=
    SetUp.exists_setUp (host.logFileIn dir started) args.forwarded entry
  rw [host.setUp_eq hsetUp, host.setUp_eq hsetUp.recorded]
  cases answer with
  | value => exact host.spawn_recorded calls left
  | failure e => rfl
  | panic => rfl

end ServiceHost

end SessionBridge
