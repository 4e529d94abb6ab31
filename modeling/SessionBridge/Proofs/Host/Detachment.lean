import Mathlib.Logic.Function.Iterate
import SessionBridge.Host.Scripted
import SessionBridge.Proofs.Host.SetUp

/-! A worker on a thread of its own. Whoever started it has a handle, which can be joined once the daemon's
main has ended and be dropped at any time. Whatever becomes of the handle, the worker goes its way: it calls
the daemon's main once, and what a start gives is what it comes to in the end. -/
namespace SessionBridge

inductive Stage where
  | waiting
  | running
  | over (outcome : Outcome DaemonError Unit)

structure WorkerThread (ε : Type) where
  entry : ε
  calls : List EntryCall
  logFile : String
  commandLine : String
  name : String
  stage : Stage

inductive Handle where
  | held
  | dropped
  | joined (result : Except DaemonError Unit)

structure Service (ε : Type) where
  thread : WorkerThread ε
  handle : Handle

inductive Service.Move where
  | work
  | join
  | drop
  deriving DecidableEq

variable {ε : Type} [DaemonEntry ε]

namespace WorkerThread

/-- Calls the daemon's main, and later comes back from it. -/
def work (t : WorkerThread ε) : WorkerThread ε :=
  match t.stage with
  | .waiting => { t with calls := t.calls ++ [.daemonMain t.commandLine t.name], stage := .running }
  | .running =>
    let (outcome, entry) := DaemonEntry.daemonMain t.commandLine t.name t.entry
    { t with entry, stage := .over outcome }
  | .over _ => t

def result? (t : WorkerThread ε) : Option (Except DaemonError Unit) :=
  match t.stage with
  | .over outcome => some (Worker.join ⟨t.logFile, t.commandLine, outcome⟩)
  | _ => none

theorem work_of_result {t : WorkerThread ε} {result : Except DaemonError Unit}
    (h : t.result? = some result) : t.work = t := by
  unfold result? at h
  unfold work
  split at h
  · rename_i hstage
    rw [hstage]
  · cases h

def finished (t : WorkerThread ε) : WorkerThread ε :=
  { t with
    entry := (DaemonEntry.daemonMain t.commandLine t.name t.entry).2
    calls := t.calls ++ [.daemonMain t.commandLine t.name]
    stage := .over (DaemonEntry.daemonMain t.commandLine t.name t.entry).1 }

variable {t : WorkerThread ε}

theorem iterate_work_of_two_le (h : t.stage = .waiting) {n : Nat} (hn : 2 ≤ n) :
    work^[n] t = t.finished := by
  obtain ⟨n, rfl⟩ := Nat.exists_eq_add_of_le hn
  have htwo : work (work t) = t.finished := by
    simp only [work, h, finished]
  rw [Nat.add_comm, Function.iterate_add_apply]
  change work^[n] (work (work t)) = _
  rw [htwo]
  exact Function.iterate_fixed rfl n

theorem iterate_work_cases (h : t.stage = .waiting) (n : Nat) :
    work^[n] t = t ∨
      work^[n] t = { t with calls := t.calls ++ [.daemonMain t.commandLine t.name], stage := .running } ∨
      work^[n] t = t.finished := by
  match n with
  | 0 => exact .inl rfl
  | 1 =>
    refine .inr (.inl ?_)
    change work t = _
    simp only [work, h]
  | n + 2 => exact .inr (.inr (iterate_work_of_two_le h (Nat.le_add_left 2 n)))

end WorkerThread

namespace Service

/-- To join a worker that is not through is to wait. -/
def move (s : Service ε) : Move → Service ε
  | .work => { s with thread := s.thread.work }
  | .join =>
    match s.handle, s.thread.result? with
    | .held, some result => { s with handle := .joined result }
    | _, _ => s
  | .drop =>
    match s.handle with
    | .held => { s with handle := .dropped }
    | _ => s

variable {s : Service ε}

theorem thread_join (s : Service ε) : (s.move .join).thread = s.thread := by
  unfold move
  dsimp only
  split <;> rfl

theorem thread_drop (s : Service ε) : (s.move .drop).thread = s.thread := by
  unfold move
  dsimp only
  split <;> rfl

theorem thread_foldl_move (s : Service ε) (moves : List Move) :
    (moves.foldl move s).thread = WorkerThread.work^[moves.count .work] s.thread := by
  induction moves generalizing s with
  | nil => rfl
  | cons m moves ih =>
    rw [List.foldl_cons, ih]
    cases m with
    | work =>
      rw [List.count_cons_self, Function.iterate_succ_apply]
      rfl
    | join => rw [List.count_cons_of_ne (by decide), thread_join]
    | drop => rw [List.count_cons_of_ne (by decide), thread_drop]

/-- Whoever has joined the worker has been given its result. -/
def Honest (s : Service ε) : Prop :=
  ∀ result, s.handle = .joined result → s.thread.result? = some result

theorem Honest.move (h : s.Honest) (m : Move) : (s.move m).Honest := by
  intro result hjoined
  cases m with
  | work =>
    have hresult := h result hjoined
    change s.thread.work.result? = some result
    rwa [WorkerThread.work_of_result hresult]
  | join =>
    rw [thread_join]
    unfold Service.move at hjoined
    dsimp only at hjoined
    split at hjoined
    · rename_i hresult
      cases hjoined
      exact hresult
    · exact h result hjoined
  | drop =>
    rw [thread_drop]
    unfold Service.move at hjoined
    dsimp only at hjoined
    split at hjoined
    · cases hjoined
    · exact h result hjoined

theorem Honest.foldl_move (h : s.Honest) (moves : List Move) : (moves.foldl Service.move s).Honest := by
  induction moves generalizing s with
  | nil => exact h
  | cons m moves ih => exact ih (h.move m)

theorem join_held {result : Except DaemonError Unit} (hheld : s.handle = .held)
    (hresult : s.thread.result? = some result) : (s.move .join).handle = .joined result := by
  unfold Service.move
  dsimp only
  rw [hheld, hresult]

end Service

namespace ServiceHost

def serviceOf (host : ServiceHost) (args : ServiceArgs) (logFile : String) (calls : List EntryCall)
    (left : ε) : Service ε :=
  ⟨⟨left, calls, logFile, args.commandLine host.config.programName, host.config.workerThreadName, .waiting⟩,
    .held⟩

/-- What a worker and its handle have come to after some turns, of the worker and of the handle's holder in
any order: the worker has called the daemon's main at most once, after two turns it is where the start has
it, and whoever joins it is given what the daemon's main came to. -/
structure Detached (start : Start ε) (worker : Worker) (calls : List EntryCall) (turns : Nat)
    (s : Service ε) : Prop where
  since : calls <+: s.thread.calls
  upTo : s.thread.calls <+: start.calls
  entry : 2 ≤ turns → s.thread.entry = start.entry
  received : 2 ≤ turns → s.thread.calls = start.calls
  stage : 2 ≤ turns → s.thread.stage = .over worker.outcome
  joins : 2 ≤ turns → s.handle = .held → (s.move .join).handle = .joined worker.join
  joined : ∀ result, s.handle = .joined result → result = worker.join

variable (host : ServiceHost) {args : ServiceArgs} {logFile : String}

theorem detached_service (hname : isThreadName host.config.workerThreadName = true) (args : ServiceArgs)
    (logFile : String) (calls : List EntryCall) (left : ε) (moves : List Service.Move) :
    Detached (host.spawn args logFile calls left) (host.workerOf args logFile left) calls
      (moves.count .work) (moves.foldl Service.move (host.serviceOf args logFile calls left)) := by
  rw [host.spawn_named hname]
  have hhonest : (moves.foldl Service.move (host.serviceOf args logFile calls left)).Honest :=
    Service.Honest.foldl_move (fun _ hjoined => by cases hjoined) moves
  have hthread := Service.thread_foldl_move (host.serviceOf args logFile calls left) moves
  generalize moves.foldl Service.move (host.serviceOf args logFile calls left) = s at hhonest hthread ⊢
  have hfinished (hturns : 2 ≤ moves.count .work) :
      s.thread = (host.serviceOf args logFile calls left).thread.finished :=
    hthread.trans (WorkerThread.iterate_work_of_two_le rfl hturns)
  have hcases := WorkerThread.iterate_work_cases (t := (host.serviceOf args logFile calls left).thread) rfl
    (moves.count .work)
  rw [← hthread] at hcases
  constructor
  · rcases hcases with hthread | hthread | hthread <;> rw [hthread]
    · exact List.prefix_rfl
    · exact List.prefix_append ..
    · exact List.prefix_append ..
  · rcases hcases with hthread | hthread | hthread <;> rw [hthread]
    · exact List.prefix_append ..
    · exact List.prefix_rfl
    · exact List.prefix_rfl
  · intro hturns
    rw [hfinished hturns]
    rfl
  · intro hturns
    rw [hfinished hturns]
    rfl
  · intro hturns
    rw [hfinished hturns]
    rfl
  · intro hturns hheld
    refine Service.join_held hheld ?_
    rw [hfinished hturns]
    rfl
  · intro result hjoined
    have hresult := hhonest result hjoined
    rcases hcases with hthread | hthread | hthread <;> rw [hthread] at hresult
    · cases hresult
    · cases hresult
    · cases hresult
      rfl

/-- What the start of a daemon that is set up comes to. The daemon's main is called once, behind the two
other calls and with the line that the worker tells. To join the worker gives what main came to, and so it
is whenever the worker and the holder of its handle have their turns. -/
structure Runs (host : ServiceHost) (args : ServiceArgs) (logFile : String) (calls : List EntryCall)
    (left : ε) (start : Start ε) (worker : Worker) : Prop where
  given : start.worker = .value worker
  path : worker.logFile = logFile
  line : worker.commandLine = args.commandLine host.config.programName
  received : start.calls = [.setLogFile worker.logFile, .setArguments args.forwarded,
    .daemonMain worker.commandLine host.config.workerThreadName]
  main : DaemonEntry.daemonMain worker.commandLine host.config.workerThreadName left =
    (worker.outcome, start.entry)
  join_value : worker.outcome = .value () → worker.join = .ok ()
  join_failure : ∀ e, worker.outcome = .failure e → worker.join = .error e
  join_panic : worker.outcome = .panic → worker.join = .error .workerPanicked
  detached : ∀ moves : List Service.Move, Detached start worker calls (moves.count .work)
    (moves.foldl Service.move (host.serviceOf args logFile calls left))

theorem runs_spawn (hname : isThreadName host.config.workerThreadName = true) {entry left : ε}
    {calls : List EntryCall} (h : SetUp logFile args.forwarded entry calls left (.value ())) :
    Runs host args logFile calls left (host.spawn args logFile calls left)
      (host.workerOf args logFile left) := by
  have hdetached := host.detached_service hname args logFile calls left
  rw [host.spawn_named hname] at hdetached ⊢
  refine ⟨rfl, rfl, rfl, ?_, rfl, ?_, ?_, ?_, hdetached⟩
  · rw [h.calls_eq]
    rfl
  · intro houtcome
    rw [Worker.join, houtcome]
  · intro e houtcome
    rw [Worker.join, houtcome]
  · intro houtcome
    rw [Worker.join, houtcome]

/-- A daemon is called in the order of the protocol, each call at most once, and its main exactly if there
is a worker. -/
structure Ordered (forwarded : List String) (main : EntryCall) (start : Start ε) : Prop where
  calls : ∃ logFile, start.calls <+: [.setLogFile logFile, .setArguments forwarded, main]
  main : (∃ worker, start.worker = .value worker) ↔ main ∈ start.calls

variable {forwarded : List String} {line name : String} {calls : List EntryCall} {left : ε}

omit [DaemonEntry ε] in
theorem ordered_of_halted (logFile : String)
    (hcalls : calls <+: [.setLogFile logFile, .setArguments forwarded])
    {halt : Outcome DaemonError Worker} (hhalt : ∀ worker, halt ≠ .value worker) :
    Ordered forwarded (.daemonMain line name) ⟨left, calls, halt⟩ where
  calls := ⟨logFile, hcalls.trans ⟨[.daemonMain line name], rfl⟩⟩
  main := by
    refine iff_of_false (fun ⟨worker, hworker⟩ => hhalt worker hworker) fun hmem => ?_
    have hearly := hcalls.subset hmem
    simp at hearly

variable {host}

theorem ordered_setUp (args : ServiceArgs) (logFile : String) (entry : ε) :
    Ordered args.forwarded
      (.daemonMain (args.commandLine host.config.programName) host.config.workerThreadName)
      (host.setUp args logFile entry) := by
  obtain ⟨calls, left, answer, hsetUp⟩ := SetUp.exists_setUp logFile args.forwarded entry
  rw [host.setUp_eq hsetUp]
  cases answer with
  | failure e => exact ordered_of_halted logFile hsetUp.calls_prefix nofun
  | panic => exact ordered_of_halted logFile hsetUp.calls_prefix nofun
  | value =>
    cases hname : isThreadName host.config.workerThreadName with
    | false =>
      rw [proceed, host.spawn_unnamed hname]
      exact ordered_of_halted logFile hsetUp.calls_prefix nofun
    | true =>
      rw [proceed, host.spawn_named hname, hsetUp.calls_eq]
      exact ⟨⟨logFile, List.prefix_rfl⟩, iff_of_true ⟨_, rfl⟩ (by simp)⟩

theorem ordered_start (args : ServiceArgs) (prepare : String → Except OsError Unit) (started : DateTime)
    (entry : ε) :
    Ordered args.forwarded
      (.daemonMain (args.commandLine host.config.programName) host.config.workerThreadName)
      (host.start args prepare started entry) := by
  rcases hpath : args.logPath with _ | dir
  · rw [host.start_of_none hpath]
    exact ordered_of_halted "" List.nil_prefix nofun
  rcases hprepare : prepare dir with e | ⟨⟩
  · rw [host.start_of_error hpath hprepare]
    exact ordered_of_halted "" List.nil_prefix nofun
  · rw [host.start_of_ok hpath hprepare]
    exact ordered_setUp args _ entry

/-- How a start goes, whatever daemon it is given and however the daemon answers. The daemon receives the
calls of the protocol in their order, up to the first that does not succeed. Without a log path or without
its directory it receives none and the start fails; a refusal of the log file or of the arguments is the
start's own failure; and in all these cases, but in no others, main is not run. A daemon that is set up gets
its worker, and the worker does its work whatever becomes of the handle on it. -/
theorem start_protocol {host : ServiceHost} (hname : isThreadName host.config.workerThreadName = true)
    (args : ServiceArgs) (prepare : String → Except OsError Unit) (started : DateTime) (entry : ε) :
    let start := host.start args prepare started entry
    let main := EntryCall.daemonMain (args.commandLine host.config.programName) host.config.workerThreadName
    (host.start args prepare started (⟨entry, []⟩ : Recorded ε)).entry = ⟨start.entry, start.calls⟩ ∧
    (∃ logFile, start.calls <+: [.setLogFile logFile, .setArguments args.forwarded, main]) ∧
    ((∃ worker, start.worker = .value worker) ↔ main ∈ start.calls) ∧
    (args.logPath = none → start = ⟨entry, [], .failure .logPathMissing⟩) ∧
    (∀ dir e, args.logPath = some dir → prepare dir = .error e →
      start = ⟨entry, [], .failure (.logDestination dir e.message)⟩) ∧
    ∀ dir, args.logPath = some dir → prepare dir = .ok () →
      ∃ calls left answer, SetUp (host.logFileIn dir started) args.forwarded entry calls left answer ∧
        (∀ e, answer = .failure e → start = ⟨left, calls, .failure e⟩) ∧
        (answer = .panic → start = ⟨left, calls, .panic⟩) ∧
        (answer = .value () →
          ∃ worker, Runs host args (host.logFileIn dir started) calls left start worker) := by
  intro start main
  obtain ⟨hcalls, hmain⟩ := ordered_start args prepare started entry
  refine ⟨?_, hcalls, hmain, fun hpath => host.start_of_none hpath entry,
    fun dir e hpath hprepare => host.start_of_error hpath hprepare entry, ?_⟩
  · rw [host.start_recorded entry]
  · intro dir hpath hprepare
    obtain ⟨calls, left, answer, hsetUp⟩ :=
      SetUp.exists_setUp (host.logFileIn dir started) args.forwarded entry
    have hstart : start = host.proceed args (host.logFileIn dir started) calls left answer :=
      (host.start_of_ok hpath hprepare entry).trans (host.setUp_eq hsetUp)
    refine ⟨calls, left, answer, hsetUp, ?_, ?_, ?_⟩
    · rintro e rfl
      exact hstart
    · rintro rfl
      exact hstart
    · rintro rfl
      have hruns := host.runs_spawn hname hsetUp
      rw [← proceed, ← hstart] at hruns
      exact ⟨_, hruns⟩

theorem start_protocol_dropped :
    let host : ServiceHost := ⟨.standard⟩
    let args : ServiceArgs := ⟨some "/srv", ["-v"]⟩
    let daemon : ScriptedEntry := ⟨.value (), .value (), .panic⟩
    let start := host.start args (fun _ => .ok ()) ⟨⟨2026, 10, 18⟩, 9, 5, 33⟩ daemon
    isThreadName host.config.workerThreadName = true ∧ args.logPath = some "/srv" ∧
      ∃ worker calls left, Runs host args "/srv/DaemonLog_2026-10-18_09_05_33.txt" calls left start worker ∧
        worker.join = .error .workerPanicked ∧
        ([.work, .drop, .work, .join].foldl Service.move
          (host.serviceOf args "/srv/DaemonLog_2026-10-18_09_05_33.txt" calls left)).thread.calls =
            start.calls := by
  intro host args daemon start
  have hname : isThreadName host.config.workerThreadName = true := by decide +kernel
  have hfile : host.logFileIn "/srv" ⟨⟨2026, 10, 18⟩, 9, 5, 33⟩ =
      "/srv/DaemonLog_2026-10-18_09_05_33.txt" := by
    decide +kernel
  obtain ⟨-, -, -, -, -, hprotocol⟩ := start_protocol hname args (fun _ => .ok ())
    ⟨⟨2026, 10, 18⟩, 9, 5, 33⟩ daemon
  obtain ⟨calls, left, answer, hsetUp, -, -, hvalue⟩ := hprotocol "/srv" rfl rfl
  rw [hfile] at hsetUp hvalue
  obtain ⟨rfl, rfl⟩ : answer = .value () ∧ left = daemon := by
    cases hsetUp with
    | unlogged hset hanswer =>
      cases hset
      exact absurd rfl hanswer
    | answered hset hanswer =>
      cases hset
      cases hanswer
      exact ⟨rfl, rfl⟩
  obtain ⟨worker, hruns⟩ := hvalue rfl
  have hpanic : worker.outcome = .panic := (congrArg Prod.fst hruns.main).symm
  exact ⟨hname, rfl, worker, calls, daemon, hruns, hruns.join_panic hpanic,
    (hruns.detached _).received (by decide)⟩

end ServiceHost

end SessionBridge
