import SessionBridge.Proofs.Bridge.Delivery
import SessionBridge.Proofs.Control.Trace

/-! Callbacks and a connect on threads of their own. What a thread does under a lock is one job, and
between two jobs of a thread any others may be performed; a job may put further ones in front of the
rest of its thread. A thread that is left alone does what the bridge does in one piece. -/
namespace SessionBridge

inductive Job where
  | register (name : String)
  | record (origin : Origin) (kind : InformType) (text : String)
  | publish (e : BridgeEvent)
  | count
  | tell (e : SessionEvent)
  /-- A message that a handler delivers. -/
  | accept (text : String) (code : Int32)
  | showMessage (e : Entry)
  | greet (p : Participant)
  /-- The handler is through with a participant. -/
  | greeted (p : Participant) (crash? : Option Crash)
  deriving DecidableEq

namespace Job

def fault (callback : EntryPoint) (crash : Crash) : Job :=
  .record .system .error (CallbackFault.panicked callback.name crash.message).message

def announcing (s : Session) (stateName : String) : List Job :=
  [.count, .record .system .status ("Session " ++ s.id.text ++ " established as " ++ stateName),
    .publish (.sessionEstablished s)]

def introducing (p : Participant) : List Job :=
  [.record .system .status (p.name ++ " joined"), .publish (.participantJoined p), .greet p]

/-- Performs a job and gives what is left of its thread, of which `rest` came behind the job. The crash
of a participant handler ends the thread but for the line that reports it. -/
def perform (b : Bridge) (rest : List Job) : Job → Bridge × List Job
  | register name =>
    match b.register name with
    | (none, b) => (b, rest)
    | (some p, b) => (b, introducing p ++ rest)
  | record origin kind text => (b.record origin kind text, rest)
  | publish e => (b.publish e, rest)
  | count => ({ b with established := b.established + 1 }, rest)
  | tell e =>
    match b.state.transition b.clock e with
    | .error _ => (b, rest)
    | .ok t =>
      let b := { b with state := t.newState }
      match t.materialized with
      | none => (b, rest)
      | some s => (b, announcing s t.newState.name ++ rest)
  | accept text code =>
    let line := b.line .inbound (.ofCode code) text
    ({ b with journal := b.journal.append line }, .showMessage (b.transcript.place line) :: rest)
  | showMessage e =>
    match b.handlers with
    | none => (b, rest)
    | some h => (b.showed (.message e), ((h.onMessage e).map (fault .message)).toList ++ rest)
  | greet p =>
    match b.handlers with
    | none => (b, rest)
    | some h =>
      let reaction := h.onParticipant p
      (b, reaction.echoes.map (fun echo => .accept echo.1 echo.2) ++
        .greeted p reaction.crash :: rest)
  | greeted p none => (b.showed (.participant p), rest)
  | greeted p (some crash) => (b.showed (.participant p), [fault .participant crash])

theorem perform_tell (b : Bridge) (rest : List Job) (e : SessionEvent) :
    (tell e).perform b rest =
      match b.state.next? b.clock e with
      | none => (b, rest)
      | some (state, none) => ({ b with state }, rest)
      | some (state, some s) => ({ b with state }, announcing s state.name ++ rest) := by
  dsimp only [perform]
  unfold SessionState.transition
  rcases b.state.next? b.clock e with _ | ⟨state, _ | s⟩ <;> rfl

theorem perform_register (b : Bridge) (rest : List Job) (name : String) :
    (register name).perform b rest =
      if b.registry.contains name then (b, rest)
      else ({ b with registry := b.registry.insert ⟨name, b.clock⟩ },
        introducing ⟨name, b.clock⟩ ++ rest) := by
  dsimp only [perform]
  unfold Bridge.register Registry.register Registry.newcomer?
  cases b.registry.contains name <;> rfl

theorem perform_showMessage (b : Bridge) (rest : List Job) (e : Entry) :
    (showMessage e).perform b rest =
      match b.handlers with
      | none => (b, rest)
      | some h => (b.showed (.message e), ((h.onMessage e).map (fault .message)).toList ++ rest) :=
  rfl

theorem perform_greet (b : Bridge) (rest : List Job) (p : Participant) :
    (greet p).perform b rest =
      match b.handlers with
      | none => (b, rest)
      | some h =>
        (b, (h.onParticipant p).echoes.map (fun echo => .accept echo.1 echo.2) ++
          .greeted p (h.onParticipant p).crash :: rest) := rfl

end Job

def joining (name : String) : List Job :=
  [.register name, .tell .participantJoined]

namespace Opening

def asking (o : Opening) : SessionEvent :=
  .connect o.mode o.sessionName o.handle

def roleLine (o : Opening) (target : BusTarget) : String :=
  target.wellKnownName o.sessionName ++ " is " ++ o.mode.role

def thread (o : Opening) (target : BusTarget) : List Job :=
  [.tell o.asking, .record .system .status (o.roleLine target), .tell (.nativeAccepted o.id)]

end Opening

/-! ### Threads that are left alone -/

/-- What a thread comes to that nobody interferes with while the clock stands still. -/
inductive Alone : Bridge → List Job → Bridge → List Job → Prop where
  | refl (b : Bridge) (jobs : List Job) : Alone b jobs b jobs
  | step {b b' : Bridge} {job : Job} {rest jobs : List Job}
      (h : Alone (job.perform b rest).1 (job.perform b rest).2 b' jobs) :
      Alone b (job :: rest) b' jobs

namespace Alone

variable {b b' b'' : Bridge} {jobs jobs' jobs'' : List Job}

theorem trans (h : Alone b jobs b' jobs') (h' : Alone b' jobs' b'' jobs'') :
    Alone b jobs b'' jobs'' := by
  induction h with
  | refl b jobs => exact h'
  | step h ih => exact .step (ih h')

theorem record (b : Bridge) (origin : Origin) (kind : InformType) (text : String)
    (rest : List Job) :
    Alone b (.record origin kind text :: rest) (b.record origin kind text) rest :=
  .step (.refl _ rest)

theorem publish (b : Bridge) (e : BridgeEvent) (rest : List Job) :
    Alone b (.publish e :: rest) (b.publish e) rest :=
  .step (.refl _ rest)

theorem announcing (b : Bridge) (s : Session) (stateName : String) (rest : List Job) :
    Alone b (Job.announcing s stateName ++ rest) (b.announceSession s stateName) rest :=
  .step ((record _ .system .status _ _).trans (publish _ _ rest))

theorem tell (b : Bridge) (e : SessionEvent) (rest : List Job) :
    Alone b (.tell e :: rest) (b.advance e) rest := by
  refine .step ?_
  rw [Job.perform_tell]
  unfold Bridge.advance Bridge.apply SessionState.transition
  rcases b.state.next? b.clock e with _ | ⟨state, _ | s⟩
  · exact .refl b rest
  · exact .refl _ rest
  · exact announcing { b with state } s state.name rest

theorem showMessage (b : Bridge) (e : Entry) (rest : List Job) :
    Alone b (.showMessage e :: rest) (Bridge.contain .message (b.showMessage e)) rest := by
  refine .step ?_
  rw [Job.perform_showMessage]
  unfold Bridge.showMessage
  rcases b.handlers with _ | h
  · exact .refl b rest
  · dsimp only
    rcases h.onMessage e with _ | crash
    · exact .refl _ rest
    · exact record _ .system .error _ rest

theorem accept (b : Bridge) (text : String) (code : Int32) (rest : List Job) :
    Alone b (.accept text code :: rest) (b.deliverMessage text code) rest :=
  .step (showMessage _ _ rest)

theorem echoes (b : Bridge) (echoes : List (String × Int32)) (rest : List Job) :
    Alone b (echoes.map (fun echo => .accept echo.1 echo.2) ++ rest)
      (echoes.foldl (fun b echo => b.deliverMessage echo.1 echo.2) b) rest := by
  induction echoes generalizing b with
  | nil => exact .refl b rest
  | cons echo echoes ih => exact (accept b echo.1 echo.2 _).trans (ih _)

theorem greet {p : Participant} (hshow : b.showParticipant p = (none, b')) (rest : List Job) :
    Alone b (.greet p :: rest) b' rest := by
  refine .step ?_
  rw [Job.perform_greet]
  unfold Bridge.showParticipant at hshow
  rcases hhandlers : b.handlers with _ | h
  · rw [hhandlers] at hshow
    cases hshow
    exact .refl b rest
  · rw [hhandlers] at hshow
    obtain ⟨hcrash, rfl⟩ := Prod.mk.inj hshow
    dsimp only
    rw [hcrash]
    exact (echoes b _ _).trans (.step (.refl _ rest))

theorem greet_crashed {p : Participant} {crash : Crash}
    (hshow : b.showParticipant p = (some crash, b')) (rest : List Job) :
    Alone b (.greet p :: rest)
      (b'.recordFault (.panicked EntryPoint.participant.name crash.message)) [] := by
  refine .step ?_
  rw [Job.perform_greet]
  unfold Bridge.showParticipant at hshow
  rcases hhandlers : b.handlers with _ | h
  · rw [hhandlers] at hshow
    cases hshow
  · rw [hhandlers] at hshow
    obtain ⟨hcrash, rfl⟩ := Prod.mk.inj hshow
    dsimp only
    rw [hcrash]
    exact (echoes b _ _).trans (.step (record _ .system .error _ []))

/-- A thread that reports a participant and is left alone is the delivery of the participant. -/
theorem joining (b : Bridge) (name : String) :
    Alone b (SessionBridge.joining name) (b.deliverParticipant name) [] := by
  refine .step ?_
  rw [Job.perform_register]
  cases hknown : b.registry.contains name with
  | true =>
    rw [Bridge.deliverParticipant_known hknown, if_pos rfl]
    exact tell b .participantJoined []
  | false =>
    rw [if_neg Bool.false_ne_true]
    refine ((record _ .system .status _ _).trans (publish _ _ _)).trans ?_
    change Alone (b.enroll ⟨name, b.clock⟩) _ _ _
    rcases hshow : (b.enroll ⟨name, b.clock⟩).showParticipant ⟨name, b.clock⟩ with
      ⟨_ | crash, after⟩
    · rw [Bridge.deliverParticipant_shown hknown hshow]
      exact (greet hshow _).trans (tell after .participantJoined [])
    · rw [Bridge.deliverParticipant_crashed hknown hshow]
      exact greet_crashed hshow _

/-- The thread of a connect that is left alone is the connect, on a bus that calls nothing back while it
registers the callbacks and opens the session. -/
theorem connecting {β : Type} [NativeBus β] {c : Controller β} {o : Opening} {bus bus' : β}
    (hallowed : connectRefusal? false c.state o.sessionName o.handle = none)
    (hregister : NativeBus.registerCallbacks ⟨c.world.anchors.next⟩ c.world.bus =
      ⟨[], .value (), bus⟩)
    (hopen : NativeBus.openSession o.mode c.config.target o.sessionName bus =
      ⟨[], .value o.id, bus'⟩) :
    (c.connect o.mode o.sessionName o.handle).1 = .value () ∧
      Alone c.bridge (o.thread c.config.target)
        (c.connect o.mode o.sessionName o.handle).2.bridge [] := by
  have hconnect : (c.connect o.mode o.sessionName o.handle).1 = .value () ∧
      (c.connect o.mode o.sessionName o.handle).2.bridge =
        ((c.bridge.advance (.connect o.mode o.sessionName o.handle)).report .status
          (c.config.target.wellKnownName o.sessionName ++ " is " ++ o.mode.role)).advance
            (.nativeAccepted o.id) := by
    unfold Controller.connect Controller.openLink World.registerCallbacks World.openSession
      World.perform
    simp only [hallowed]
    dsimp only [World.advance, World.issueAnchor, World.report]
    rw [hregister]
    dsimp only [List.foldl_nil]
    rw [hopen]
    exact ⟨rfl, rfl⟩
  refine ⟨hconnect.1, ?_⟩
  rw [hconnect.2]
  exact (tell _ _ _).trans ((record _ .system .status _ _).trans (tell _ _ []))

end Alone

/-! ### Schedules -/

structure Pool where
  bridge : Bridge
  threads : List (List Job)

namespace Pool

/-- Lets a thread perform its next job, at some reading of the clock; a thread that has finished does
nothing. Gives the job that was performed. -/
def step (p : Pool) (i : Nat) (now : Timestamp) : Option Job × Pool :=
  match p.threads[i]? with
  | some (job :: rest) =>
    let (bridge, rest) := job.perform { p.bridge with clock := now } rest
    (some job, ⟨bridge, p.threads.set i rest⟩)
  | _ => (none, p)

/-- Lets threads take steps in the order of a schedule. Gives the jobs in the order they were
performed. -/
def run (p : Pool) : List (Nat × Timestamp) → List Job × Pool
  | [] => ([], p)
  | (i, now) :: schedule =>
    let (job?, p) := p.step i now
    let (jobs, p) := p.run schedule
    (job?.toList ++ jobs, p)

def Finished (p : Pool) : Prop :=
  ∀ thread ∈ p.threads, thread = []

theorem threads_of_getElem? {threads : List (List Job)} {i : Nat} {thread : List Job}
    (h : threads[i]? = some thread) : ∃ before after, threads = before ++ thread :: after ∧
      ∀ thread', threads.set i thread' = before ++ thread' :: after := by
  obtain ⟨hi, rfl⟩ := List.getElem?_eq_some_iff.mp h
  refine ⟨threads.take i, threads.drop (i + 1), ?_, fun thread' => ?_⟩
  · rw [List.getElem_cons_drop, List.take_append_drop]
  · rw [List.set_eq_take_append_cons_drop, if_pos hi]

theorem step_steps (p : Pool) (i : Nat) (now : Timestamp) :
    p.step i now = (none, p) ∨ ∃ before job rest after,
      p.threads = before ++ (job :: rest) :: after ∧
        p.step i now = (some job, ⟨(job.perform { p.bridge with clock := now } rest).1,
          before ++ (job.perform { p.bridge with clock := now } rest).2 :: after⟩) := by
  unfold step
  split
  · rename_i job rest hthread
    obtain ⟨before, after, hthreads, hset⟩ := threads_of_getElem? hthread
    refine .inr ⟨before, job, rest, after, hthreads, ?_⟩
    rw [← hset]
  · exact .inl rfl

/-- What holds at the start and survives every job of every thread holds after every schedule. -/
theorem run_induction {motive : List Job → Pool → Prop} {p : Pool} (start : motive [] p)
    (next : ∀ done bridge before job rest after now,
      motive done ⟨bridge, before ++ (job :: rest) :: after⟩ →
        motive (done ++ [job]) ⟨(job.perform { bridge with clock := now } rest).1,
          before ++ (job.perform { bridge with clock := now } rest).2 :: after⟩)
    (schedule : List (Nat × Timestamp)) : motive (p.run schedule).1 (p.run schedule).2 := by
  suffices hgeneral : ∀ done, motive done p →
      motive (done ++ (p.run schedule).1) (p.run schedule).2 by
    simpa using hgeneral [] start
  clear start
  induction schedule generalizing p with
  | nil =>
    intro done h
    simpa [run] using h
  | cons turn schedule ih =>
    intro done h
    obtain ⟨i, now⟩ := turn
    obtain ⟨bridge, threads⟩ := p
    unfold run
    rcases step_steps ⟨bridge, threads⟩ i now with hidle | ⟨before, job, rest, after, rfl, hstep⟩
    · rw [hidle]
      simpa using ih done h
    · rw [hstep]
      simpa using ih _ (next done bridge before job rest after now h)

end Pool

end SessionBridge
