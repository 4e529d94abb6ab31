import SessionBridge.Proofs.Bridge.Replica
import SessionBridge.Proofs.Concurrent.Pool
import SessionBridge.Proofs.Control.Succession
import SessionBridge.Proofs.Registry.Order

/-! The books of a pool. What the registry and the session say is due to be reported: a line and an event
for every participant; a line, an event and a count for the session that has come into being. Each
report is either in the journal or still owed by a thread, and no step of any thread loses one or makes
one twice. -/
namespace SessionBridge

theorem SessionState.Next.session?_of_materialized {now : Timestamp} {state state' : SessionState}
    {e : SessionEvent} {s : Session} (h : Next now state e state' (some s)) :
    state.session? = none := by
  cases h <;> rfl

/-! ### Bookings -/

inductive Booking where
  | line (text : String)
  | joined (p : Participant)
  | established (s : Session)
  | counted
  deriving DecidableEq

def Participant.bookings (p : Participant) : List Booking :=
  [.line (p.name ++ " joined"), .joined p]

def Session.bookings (s : Session) : List Booking :=
  [.counted, .line s.announcement.text, .established s]

def BridgeEvent.participant? : BridgeEvent → Option Participant
  | participantJoined p => some p
  | _ => none

namespace Bridge

def statuses (b : Bridge) : List String :=
  (b.lines.filter fun l => l.origin = .system ∧ l.kind = .status).map Line.text

def joins (b : Bridge) : List Participant :=
  b.feed.published.toList.filterMap BridgeEvent.participant?

def tally (b : Bridge) : Booking → Nat
  | .line text => b.statuses.count text
  | .joined p => b.joins.count p
  | .established s => b.sessions.count s
  | .counted => b.established

/-- What is due for the participants and the session that there are. -/
def due (b : Bridge) : List Booking :=
  b.registry.toList.flatMap Participant.bookings ++ b.state.session?.toList.flatMap Session.bookings

theorem count_due_insert (b : Bridge) (p : Participant) (a : Booking) :
    ({ b with registry := b.registry.insert p } : Bridge).due.count a =
      b.due.count a + p.bookings.count a := by
  unfold due
  rw [Registry.toList_insert, List.flatMap_append, List.flatMap_singleton]
  simp only [List.count_append]
  omega

theorem count_due_establish {b : Bridge} (s : Session) (hsession : b.state.session? = none)
    (a : Booking) :
    ({ b with state := .established s } : Bridge).due.count a =
      b.due.count a + s.bookings.count a := by
  unfold due
  rw [SessionState.session?_established, hsession]
  simp

theorem due_state {b : Bridge} {state : SessionState}
    (hsession : state.session? = b.state.session?) : ({ b with state } : Bridge).due = b.due := by
  unfold due
  rw [hsession]

theorem statuses_record (b : Bridge) (origin : Origin) (kind : InformType) (text : String) :
    (b.record origin kind text).statuses =
      b.statuses ++ if origin = .system ∧ kind = .status then [text] else [] := by
  unfold statuses
  rw [lines_record, List.filter_append, List.map_append]
  by_cases hown : origin = .system ∧ kind = .status
  · simp [hown, line]
  · simp [hown, line]

theorem joins_publish (b : Bridge) (e : BridgeEvent) :
    (b.publish e).joins = b.joins ++ e.participant?.toList :=
  filterMap_publish BridgeEvent.participant? b e

theorem joins_record (b : Bridge) (origin : Origin) (kind : InformType) (text : String) :
    (b.record origin kind text).joins = b.joins :=
  filterMap_record (fun _ => rfl) b origin kind text

end Bridge

namespace Job

def bookings : Job → List Booking
  | record origin kind text => if origin = .system ∧ kind = .status then [.line text] else []
  | publish (.participantJoined p) => [.joined p]
  | publish (.sessionEstablished s) => [.established s]
  | count => [.counted]
  | _ => []

def owed (jobs : List Job) : List Booking :=
  jobs.flatMap bookings

theorem count_owed_cons (job : Job) (jobs : List Job) (a : Booking) :
    (owed (job :: jobs)).count a = job.bookings.count a + (owed jobs).count a :=
  List.count_append

theorem count_owed_append (first second : List Job) (a : Booking) :
    (owed (first ++ second)).count a = (owed first).count a + (owed second).count a := by
  unfold owed
  rw [List.flatMap_append, List.count_append]

theorem owed_introducing (p : Participant) : owed (introducing p) = p.bookings := rfl

theorem owed_announcing (s : Session) :
    owed (announcing s (SessionState.established s).name) = s.bookings := rfl

end Job

namespace Bridge

theorem tally_record (b : Bridge) (origin : Origin) (kind : InformType) (text : String)
    (a : Booking) :
    (b.record origin kind text).tally a =
      b.tally a + (Job.record origin kind text).bookings.count a := by
  dsimp only [Job.bookings]
  cases a with
  | line text' =>
    dsimp only [tally]
    rw [statuses_record, List.count_append]
    by_cases hown : origin = .system ∧ kind = .status
    · simp [hown, List.count_singleton]
    · simp [hown]
  | joined p =>
    dsimp only [tally]
    rw [joins_record]
    split <;> simp
  | established s =>
    dsimp only [tally]
    rw [sessions_record]
    split <;> simp
  | counted =>
    dsimp only [tally, record]
    split <;> simp

theorem tally_publish (b : Bridge) (e : BridgeEvent) (a : Booking) :
    (b.publish e).tally a = b.tally a + (Job.publish e).bookings.count a := by
  cases a with
  | line text =>
    change b.statuses.count text = b.statuses.count text + _
    cases e <;> simp [Job.bookings]
  | joined p =>
    dsimp only [tally]
    rw [joins_publish, List.count_append]
    cases e <;> simp [Job.bookings, BridgeEvent.participant?, List.count_singleton]
  | established s =>
    dsimp only [tally]
    rw [sessions_publish, List.count_append]
    cases e <;> simp [Job.bookings, BridgeEvent.session?, List.count_singleton]
  | counted =>
    change b.established = b.established + _
    cases e <;> simp [Job.bookings]

theorem tally_count (b : Bridge) (a : Booking) :
    ({ b with established := b.established + 1 } : Bridge).tally a =
      b.tally a + Job.count.bookings.count a := by
  cases a <;> rfl

end Bridge

/-! ### What a job does -/

structure Bridge.Beside (b b' : Bridge) : Prop where
  registry : b'.registry = b.registry
  state : b'.state = b.state
  handlers : b'.handlers = b.handlers
  tally : ∀ a, b'.tally a = b.tally a

/-- No participant handler crashes over one of the names. -/
def Bridge.Gentle (names : List String) (b : Bridge) : Prop :=
  ∀ h, b.handlers = some h → ∀ p : Participant, p.name ∈ names → (h.onParticipant p).crash = none

namespace Job

variable {names : List String} {b b' : Bridge} {job : Job} {rest rest' : List Job}

/-- Jobs that report the names only, end no session and have no crash to report. -/
def Tame (names : List String) : Job → Prop
  | register name => name ∈ names
  | greet p => p.name ∈ names
  | greeted _ crash? => crash? = none
  | tell e => e ≠ .disconnect
  | _ => True

/-- Jobs that come of what handlers do. They touch nothing that is booked. -/
def IsAside : Job → Prop
  | record _ kind _ => kind = .error
  | accept _ _ | showMessage _ => True
  | greeted _ crash? => crash? = none
  | _ => False

def registered? : Job → Option String
  | register name => some name
  | _ => none

def told? : Job → Option SessionEvent
  | tell e => some e
  | _ => none

theorem eq_tell_of_told? {e : SessionEvent} (h : job.told? = some e) : job = tell e := by
  cases job <;> cases h
  rfl

theorem IsAside.bookings (h : job.IsAside) : job.bookings = [] := by
  cases job with
  | record origin kind text =>
    cases h
    exact if_neg fun hown => nomatch hown.2
  | accept | showMessage | greeted => rfl
  | register | publish | count | tell | greet => exact h.elim

theorem IsAside.registered? (h : job.IsAside) : job.registered? = none := by
  cases job with
  | register name => exact h.elim
  | _ => rfl

theorem IsAside.told? (h : job.IsAside) : job.told? = none := by
  cases job with
  | tell e => exact h.elim
  | _ => rfl

theorem IsAside.tame (h : job.IsAside) : job.Tame names := by
  cases job with
  | register | greet | tell => exact h.elim
  | greeted p crash? => exact h
  | record | publish | count | accept | showMessage => trivial

inductive Performs (b : Bridge) (rest : List Job) : Job → Bridge → List Job → Prop where
  | known {name : String} (hknown : b.registry.contains name = true) :
      Performs b rest (register name) b rest
  | enrolled {name : String} (hnew : b.registry.contains name = false) :
      Performs b rest (register name) { b with registry := b.registry.insert ⟨name, b.clock⟩ }
        (introducing ⟨name, b.clock⟩ ++ rest)
  | recorded {origin : Origin} {kind : InformType} {text : String} :
      Performs b rest (record origin kind text) (b.record origin kind text) rest
  | published {e : BridgeEvent} : Performs b rest (publish e) (b.publish e) rest
  | counted : Performs b rest count { b with established := b.established + 1 } rest
  | rejected {e : SessionEvent} (hnext : b.state.next? b.clock e = none) :
      Performs b rest (tell e) b rest
  | moved {e : SessionEvent} {state : SessionState}
      (hnext : b.state.next? b.clock e = some (state, none)) :
      Performs b rest (tell e) { b with state } rest
  | established {e : SessionEvent} {s : Session}
      (hnext : b.state.next? b.clock e = some (.established s, some s)) :
      Performs b rest (tell e) { b with state := .established s }
        (announcing s (SessionState.established s).name ++ rest)
  | aside {job : Job} {b' : Bridge} {more : List Job} (hbookings : job.bookings = [])
      (hregistered : job.registered? = none) (htold : job.told? = none) (hbeside : b.Beside b')
      (hmore : ∀ next ∈ more, next.IsAside) : Performs b rest job b' (more ++ rest)

theorem performs (hgentle : b.Gentle names) (htame : job.Tame names) :
    job.Performs b rest (job.perform b rest).1 (job.perform b rest).2 := by
  cases job with
  | register name =>
    rw [perform_register]
    cases hknown : b.registry.contains name with
    | true => exact .known hknown
    | false => exact .enrolled hknown
  | record origin kind text => exact .recorded
  | publish e => exact .published
  | count => exact .counted
  | tell e =>
    rw [perform_tell]
    rcases hnext : b.state.next? b.clock e with _ | ⟨state, _ | s⟩
    · exact .rejected hnext
    · exact .moved hnext
    · obtain ⟨rfl, -⟩ := SessionState.next?_materialized hnext
      exact .established hnext
  | accept text code =>
    refine @Performs.aside b rest _ _ [.showMessage _] rfl rfl rfl ⟨rfl, rfl, rfl, fun a => ?_⟩ ?_
    · exact b.tally_record .inbound (.ofCode code) text a
    · intro next hnext
      rw [List.mem_singleton.mp hnext]
      trivial
  | showMessage e =>
    rw [perform_showMessage]
    rcases b.handlers with _ | h
    · exact .aside rfl rfl rfl ⟨rfl, rfl, rfl, fun _ => rfl⟩ fun _ hnext =>
        absurd hnext List.not_mem_nil
    · refine .aside rfl rfl rfl ⟨rfl, rfl, rfl, fun _ => rfl⟩ fun next hnext => ?_
      obtain ⟨crash, -, rfl⟩ := Option.map_eq_some_iff.mp (Option.mem_toList.mp hnext)
      rfl
  | greet p =>
    rw [perform_greet]
    rcases hhandlers : b.handlers with _ | h
    · exact .aside rfl rfl rfl ⟨rfl, rfl, rfl, fun _ => rfl⟩ fun _ hnext =>
        absurd hnext List.not_mem_nil
    · dsimp only
      rw [hgentle h hhandlers p htame, List.append_cons]
      refine .aside rfl rfl rfl ⟨rfl, rfl, rfl, fun _ => rfl⟩ fun next hnext => ?_
      rcases List.mem_append.mp hnext with hecho | hlast
      · obtain ⟨echo, -, rfl⟩ := List.mem_map.mp hecho
        trivial
      · rw [List.mem_singleton.mp hlast]
        rfl
  | greeted p crash? =>
    obtain rfl : crash? = none := htame
    exact @Performs.aside b rest _ _ [] rfl rfl rfl ⟨rfl, rfl, rfl, fun _ => rfl⟩ fun _ hnext =>
      absurd hnext List.not_mem_nil

namespace Performs

theorem handlers (h : Performs b rest job b' rest') : b'.handlers = b.handlers := by
  cases h with
  | aside _ _ _ hbeside => exact hbeside.handlers
  | _ => rfl

theorem gentle (h : Performs b rest job b' rest') (hgentle : b.Gentle names) :
    b'.Gentle names := by
  unfold Bridge.Gentle
  rw [h.handlers]
  exact hgentle

theorem tame (h : Performs b rest job b' rest') (hjob : job.Tame names)
    (hrest : ∀ next ∈ rest, next.Tame names) : ∀ next ∈ rest', next.Tame names := by
  have hbehind {more : List Job} (hmore : ∀ next ∈ more, next.Tame names) :
      ∀ next ∈ more ++ rest, next.Tame names := fun next hnext =>
    (List.mem_append.mp hnext).elim (hmore next) (hrest next)
  cases h with
  | @enrolled name =>
    refine hbehind fun next hnext => ?_
    simp only [introducing, List.mem_cons, List.not_mem_nil, or_false] at hnext
    rcases hnext with rfl | rfl | rfl
    · trivial
    · trivial
    · exact hjob
  | established =>
    refine hbehind fun next hnext => ?_
    simp only [announcing, List.mem_cons, List.not_mem_nil, or_false] at hnext
    rcases hnext with rfl | rfl | rfl <;> trivial
  | aside _ _ _ _ hmore => exact hbehind fun next hnext => (hmore next hnext).tame
  | known | recorded | published | counted | rejected | moved => exact hrest

theorem registered? (h : Performs b rest job b' rest') :
    rest'.filterMap Job.registered? = rest.filterMap Job.registered? := by
  cases h with
  | aside _ _ _ _ hmore =>
    rw [List.filterMap_append, List.filterMap_eq_nil_iff.mpr fun next hnext =>
      (hmore next hnext).registered?]
    rfl
  | _ => rfl

theorem told? (h : Performs b rest job b' rest') :
    rest'.filterMap Job.told? = rest.filterMap Job.told? := by
  cases h with
  | aside _ _ _ _ hmore =>
    rw [List.filterMap_append, List.filterMap_eq_nil_iff.mpr fun next hnext =>
      (hmore next hnext).told?]
    rfl
  | _ => rfl

theorem registry (h : Performs b rest job b' rest') :
    b'.registry =
      (b.registry.registerAll (job.registered?.map (Participant.mk · b.clock)).toList).2 := by
  cases h with
  | @known name hknown =>
    exact (congrArg Prod.snd (Registry.register_known (p := ⟨name, b.clock⟩) hknown)).symm
  | @enrolled name hnew =>
    exact (congrArg Prod.snd (Registry.register_new (p := ⟨name, b.clock⟩) hnew)).symm
  | aside _ hregistered _ hbeside =>
    rw [hregistered, hbeside.registry]
    rfl
  | _ => rfl

theorem state (h : Performs b rest job b' rest') :
    b'.state = job.told?.elim b.state (b.state.after b.clock) := by
  cases h with
  | rejected hnext | moved hnext | established hnext =>
    change _ = b.state.after b.clock _
    unfold SessionState.after
    rw [hnext]
  | aside _ _ htold hbeside =>
    rw [htold, hbeside.state]
    rfl
  | _ => rfl

theorem balanced (h : Performs b rest job b' rest') (htame : job.Tame names) (a : Booking) :
    b'.tally a + (owed rest').count a + b.due.count a =
      b.tally a + (owed (job :: rest)).count a + b'.due.count a := by
  rw [count_owed_cons]
  cases h with
  | known | rejected => simp [Job.bookings]
  | enrolled =>
    rw [count_owed_append, owed_introducing, Bridge.count_due_insert]
    change b.tally a + _ + _ = b.tally a + (0 + _) + _
    omega
  | recorded =>
    rw [Bridge.tally_record]
    change _ + b.due.count a = _ + b.due.count a
    omega
  | published =>
    rw [Bridge.tally_publish]
    change _ + b.due.count a = _ + b.due.count a
    omega
  | counted =>
    rw [Bridge.tally_count]
    change _ + b.due.count a = _ + b.due.count a
    omega
  | moved hnext =>
    rw [Bridge.due_state
      (Bridge.session?_of_next (SessionState.next_of_next? hnext) htame)]
    change b.tally a + _ + _ = b.tally a + (0 + _) + _
    omega
  | established hnext =>
    rw [count_owed_append, owed_announcing,
      Bridge.count_due_establish _ (SessionState.next_of_next? hnext).session?_of_materialized]
    change b.tally a + _ + _ = b.tally a + (0 + _) + _
    omega
  | @aside _ _ more hbookings _ _ hbeside hmore =>
    have hmore_owed : owed more = [] :=
      List.flatMap_eq_nil_iff.mpr fun next hnext => (hmore next hnext).bookings
    have hdue : b'.due = b.due := by
      unfold Bridge.due
      rw [hbeside.registry, hbeside.state]
    rw [count_owed_append, hmore_owed, hbookings, hbeside.tally, hdue]

end Performs

end Job

namespace Pool

open Job

variable {names : List String}

def pending (p : Pool) : List Job :=
  p.threads.flatten

theorem pending_split (bridge : Bridge) (before after : List (List Job)) (thread : List Job) :
    pending ⟨bridge, before ++ thread :: after⟩ = before.flatten ++ (thread ++ after.flatten) := by
  simp [pending]

/-- Nothing but the names is reported, no handler crashes over them, and the session is not ended. -/
structure Calm (names : List String) (p : Pool) : Prop where
  gentle : p.bridge.Gentle names
  tame : ∀ job ∈ p.pending, job.Tame names

/-- What holds at the start of a calm pool and survives all that tame jobs can do holds after every
schedule. -/
theorem Calm.run_induction {motive : List Job → Pool → Prop} {p : Pool} (hcalm : p.Calm names)
    (start : motive [] p)
    (next : ∀ done bridge before job rest after now bridge' rest', job.Tame names →
      job.Performs { bridge with clock := now } rest bridge' rest' →
        motive done ⟨bridge, before ++ (job :: rest) :: after⟩ →
          motive (done ++ [job]) ⟨bridge', before ++ rest' :: after⟩)
    (schedule : List (Nat × Timestamp)) : motive (p.run schedule).1 (p.run schedule).2 := by
  refine (Pool.run_induction (motive := fun done q => q.Calm names ∧ motive done q)
    ⟨hcalm, start⟩ ?_ schedule).2
  rintro done bridge before job rest after now ⟨⟨hgentle, htame⟩, h⟩
  rw [pending_split] at htame
  have hmine : ∀ next ∈ job :: rest, next.Tame names := fun next hnext =>
    htame next (List.mem_append_right _ (List.mem_append_left _ hnext))
  have hjob := hmine job List.mem_cons_self
  have hperforms : job.Performs { bridge with clock := now } rest _ _ := performs hgentle hjob
  refine ⟨⟨hperforms.gentle hgentle, ?_⟩,
    next done bridge before job rest after now _ _ hjob hperforms h⟩
  have hrest := hperforms.tame hjob fun next hnext => hmine next (List.mem_cons_of_mem _ hnext)
  rw [pending_split]
  intro next hnext
  rcases List.mem_append.mp hnext with hbefore | hbehind
  · exact htame next (List.mem_append_left _ hbefore)
  · rcases List.mem_append.mp hbehind with hnew | hafter
    · exact hrest next hnew
    · exact htame next (List.mem_append_right _ (List.mem_append_right _ hafter))

/-- No schedule loses a booking or makes one twice: what is booked or still owed grows by what has come
to be due. -/
theorem Calm.balanced {p : Pool} (hcalm : p.Calm names) (schedule : List (Nat × Timestamp))
    (a : Booking) :
    (p.run schedule).2.bridge.tally a + (owed (p.run schedule).2.pending).count a +
        p.bridge.due.count a =
      p.bridge.tally a + (owed p.pending).count a + (p.run schedule).2.bridge.due.count a := by
  refine hcalm.run_induction (motive := fun _ q => q.bridge.tally a + (owed q.pending).count a +
        p.bridge.due.count a =
      p.bridge.tally a + (owed p.pending).count a + q.bridge.due.count a) rfl ?_ schedule
  intro done bridge before job rest after now bridge' rest' hjob hperforms h
  have hstep := hperforms.balanced hjob a
  change _ + _ + bridge.due.count a = bridge.tally a + _ + _ at hstep
  rw [pending_split, count_owed_append, count_owed_append] at h ⊢
  dsimp only at h ⊢
  omega

end Pool

end SessionBridge
