import Mathlib.Data.List.Nodup
import SessionBridge.Proofs.Concurrent.Ledger
import SessionBridge.Proofs.Concurrent.Progress

/-! A session is opened while participants are reported, each on a thread of its own. The reports may be
repeated and may fall between any two steps of the opening; still every participant and the session are
registered, written down and published once. -/
namespace SessionBridge

open Job

/-! ### The registry -/

namespace Pool

variable {names : List String}

theorem Calm.reports {p : Pool} (hcalm : p.Calm names) (schedule : List (Nat × Timestamp)) :
    ∃ reports, (p.run schedule).2.bridge.registry = (p.bridge.registry.registerAll reports).2 ∧
      (reports.map Participant.name ++ (p.run schedule).2.pending.filterMap registered?).Perm
        (p.pending.filterMap registered?) := by
  refine hcalm.run_induction (motive := fun _ q =>
    ∃ reports, q.bridge.registry = (p.bridge.registry.registerAll reports).2 ∧
      (reports.map Participant.name ++ q.pending.filterMap registered?).Perm
        (p.pending.filterMap registered?)) ⟨[], rfl, .refl _⟩ ?_ schedule
  rintro done bridge before job rest after now bridge' rest' - hperforms ⟨reports, hregistry, hperm⟩
  refine ⟨reports ++ (job.registered?.map (Participant.mk · now)).toList, ?_, ?_⟩
  · rw [Registry.registerAll_append, ← hregistry]
    exact hperforms.registry
  · refine .trans ?_ hperm
    have hnames : (job.registered?.map (Participant.mk · now)).toList.map Participant.name =
        job.registered?.toList := by
      cases job.registered? <;> rfl
    have hjob : (job :: rest).filterMap registered? =
        job.registered?.toList ++ rest.filterMap registered? := by
      rw [List.filterMap_cons]
      cases job.registered? <;> rfl
    rw [pending_split, pending_split, List.map_append, hnames]
    simp only [List.filterMap_append, hperforms.registered?, hjob]
    refine List.perm_iff_count.mpr fun name => ?_
    simp only [List.count_append]
    omega

end Pool

/-! ### The session -/

namespace Opening

variable {o : Opening} {tells : List SessionEvent} {done : List Job} {job : Job}
  {state : SessionState}

def session (o : Opening) (since : Timestamp) : Session :=
  ⟨o.mode, o.id, o.sessionName, o.handle, since⟩

def Heard (o : Opening) (done : List Job) : Prop :=
  [Job.tell o.asking, Job.tell .participantJoined].Sublist done

theorem heard_snoc (o : Opening) (done : List Job) (job : Job) :
    o.Heard (done ++ [job]) ↔
      o.Heard done ∨ Job.tell o.asking ∈ done ∧ job = Job.tell .participantJoined := by
  unfold Heard
  rw [← List.reverse_sublist, List.reverse_concat, List.sublist_cons_iff]
  refine or_congr List.reverse_sublist ⟨?_, ?_⟩
  · rintro ⟨first, hfirst, hdone⟩
    cases hfirst
    exact ⟨List.mem_reverse.mp (List.singleton_sublist.mp hdone), rfl⟩
  · rintro ⟨hasked, rfl⟩
    exact ⟨[Job.tell o.asking], rfl, List.singleton_sublist.mpr (List.mem_reverse.mpr hasked)⟩

/-- How far the opening has come, with what it has still to tell, the jobs done so far and the state of
the session. -/
inductive Stage (o : Opening) : List SessionEvent → List Job → SessionState → Prop where
  | fresh {done : List Job} (hasked : Job.tell o.asking ∉ done) :
      Stage o [o.asking, .nativeAccepted o.id] done .disconnected
  | asked {done : List Job} {joinedEarly : Bool} {since : Timestamp}
      (hasked : Job.tell o.asking ∈ done) (hheard : joinedEarly = true ↔ o.Heard done) :
      Stage o [.nativeAccepted o.id] done
        (.connecting ⟨o.mode, o.sessionName, o.handle, none, joinedEarly, since⟩)
  | waiting {done : List Job} {since : Timestamp} (hasked : Job.tell o.asking ∈ done)
      (hheard : ¬ o.Heard done) :
      Stage o [] done (.connecting ⟨o.mode, o.sessionName, o.handle, some o.id, false, since⟩)
  | opened {done : List Job} {since : Timestamp} (hheard : o.Heard done) :
      Stage o [] done (.established (o.session since))

theorem Heard.asked (h : o.Heard done) : Job.tell o.asking ∈ done :=
  h.subset List.mem_cons_self

theorem Stage.idle (h : Stage o tells done state) (hjob : job.told? = none) :
    Stage o tells (done ++ [job]) state := by
  have hother (e : SessionEvent) : job ≠ Job.tell e := by
    rintro rfl
    cases hjob
  have hasked : Job.tell o.asking ∈ done ++ [job] ↔ Job.tell o.asking ∈ done := by
    simp [(hother o.asking).symm]
  have hheard : o.Heard (done ++ [job]) ↔ o.Heard done := by
    simp [heard_snoc, hother]
  cases h with
  | fresh hnot => exact .fresh (mt hasked.mp hnot)
  | asked hyes hearly => exact .asked (hasked.mpr hyes) (hearly.trans hheard.symm)
  | waiting hyes hnot => exact .waiting (hasked.mpr hyes) (mt hheard.mp hnot)
  | opened hyes => exact .opened (hheard.mpr hyes)

/-- A participant is remembered once the session has been asked for, and makes a session of one that
has its id. -/
theorem Stage.joined (h : Stage o tells done state) (now : Timestamp) :
    Stage o tells (done ++ [Job.tell .participantJoined]) (state.after now .participantJoined) := by
  have hasked :
      Job.tell o.asking ∈ done ++ [Job.tell .participantJoined] ↔ Job.tell o.asking ∈ done := by
    simp [asking]
  have hheard (hyes : Job.tell o.asking ∈ done) : o.Heard (done ++ [Job.tell .participantJoined]) :=
    (heard_snoc o done _).mpr (.inr ⟨hyes, rfl⟩)
  cases h with
  | fresh hnot => exact .fresh (mt hasked.mp hnot)
  | asked hyes => exact .asked (hasked.mpr hyes) (iff_of_true rfl (hheard hyes))
  | waiting hyes => exact .opened (hheard hyes)
  | opened hyes =>
    rw [SessionState.after, SessionState.next?_established_join]
    exact .opened (hheard hyes.asked)

theorem Stage.told {e : SessionEvent} (h : Stage o (e :: tells) done state) (now : Timestamp) :
    Stage o tells (done ++ [Job.tell e]) (state.after now e) := by
  cases h with
  | fresh hnot =>
    refine .asked (List.mem_append_right _ List.mem_cons_self) (iff_of_false Bool.false_ne_true ?_)
    rw [heard_snoc]
    exact fun hheard => hnot (hheard.elim Heard.asked And.left)
  | @asked _ joinedEarly since hyes hearly =>
    have hheard : o.Heard (done ++ [Job.tell (.nativeAccepted o.id)]) ↔ o.Heard done := by
      rw [heard_snoc]
      simp
    cases joinedEarly with
    | true => exact .opened (hheard.mpr (hearly.mp rfl))
    | false =>
      exact .waiting (List.mem_append_left _ hyes) fun hnow => by simpa using hearly.mpr (hheard.mp hnow)

end Opening

namespace Pool

variable {names : List String}

theorem Calm.stage {bridge : Bridge} {opener : List Job} {guests : List (List Job)} {o : Opening}
    (hcalm : Calm names ⟨bridge, opener :: guests⟩)
    (hguests : ∀ e ∈ guests.flatten.filterMap told?, e = .participantJoined)
    (hstage : o.Stage (opener.filterMap told?) [] bridge.state)
    (schedule : List (Nat × Timestamp)) :
    let p := run ⟨bridge, opener :: guests⟩ schedule
    ∃ opener guests, p.2.threads = opener :: guests ∧
      o.Stage (opener.filterMap told?) p.1 p.2.bridge.state := by
  have hrun := hcalm.run_induction (motive := fun done q =>
    ∃ opener guests, q.threads = opener :: guests ∧
      (∀ e ∈ guests.flatten.filterMap told?, e = .participantJoined) ∧
      o.Stage (opener.filterMap told?) done q.bridge.state)
    ⟨opener, guests, rfl, hguests, hstage⟩ ?_ schedule
  · obtain ⟨opener, guests, hthreads, -, hstage⟩ := hrun
    exact ⟨opener, guests, hthreads, hstage⟩
  clear hguests hstage
  rintro done bridge before job rest after now bridge' rest' - hperforms
    ⟨opener, guests, hthreads, hguests, hstage⟩
  have hidle {tells : List SessionEvent} (hstage : o.Stage tells done bridge.state)
      (htold : job.told? = none) : o.Stage tells (done ++ [job]) bridge'.state := by
    rw [hperforms.state, htold]
    exact hstage.idle htold
  rcases before with _ | ⟨first, before⟩
  · -- The opening goes on.
    obtain ⟨rfl, rfl⟩ := List.cons.inj hthreads
    refine ⟨rest', after, rfl, hguests, ?_⟩
    rw [hperforms.told?]
    cases htold : job.told? with
    | none =>
      rw [List.filterMap_cons_none htold] at hstage
      exact hidle hstage htold
    | some e =>
      rw [List.filterMap_cons_some htold] at hstage
      rw [hperforms.state, htold]
      obtain rfl := eq_tell_of_told? htold
      exact hstage.told now
  · -- A participant's thread goes on.
    rw [List.cons_append] at hthreads
    obtain ⟨rfl, rfl⟩ := List.cons.inj hthreads
    refine ⟨first, before ++ rest' :: after, rfl, ?_, ?_⟩
    · intro e he
      refine hguests e ?_
      simp only [List.flatten_append, List.flatten_cons, List.filterMap_append, hperforms.told?,
        List.mem_append] at he ⊢
      exact he.imp_right (Or.imp_left fun hrest =>
        ((List.sublist_cons_self job rest).filterMap told?).subset hrest)
    · cases htold : job.told? with
      | none => exact hidle hstage htold
      | some e =>
        obtain rfl := eq_tell_of_told? htold
        obtain rfl : e = .participantJoined := hguests e (by simp [told?])
        rw [hperforms.state]
        exact hstage.joined now

end Pool

/-! ### The books -/

namespace Bridge

theorem count_participants (participants : List Participant) (a : Booking) :
    (participants.flatMap Participant.bookings).count a =
      match a with
      | .line text => (participants.map (·.name ++ " joined")).count text
      | .joined p => participants.count p
      | _ => 0 := by
  induction participants with
  | nil => cases a <;> rfl
  | cons p participants ih =>
    rw [List.flatMap_cons, List.count_append, ih]
    cases a <;> simp [Participant.bookings, List.count_cons, Nat.add_comm]

theorem count_session (session? : Option Session) (a : Booking) :
    (session?.toList.flatMap Session.bookings).count a =
      match a with
      | .line text => (session?.toList.map (·.announcement.text)).count text
      | .established s => session?.toList.count s
      | .counted => session?.toList.length
      | _ => 0 := by
  cases session? with
  | none => cases a <;> rfl
  | some s => cases a <;> simp [Session.bookings, List.count_cons]

theorem count_due (b : Bridge) (a : Booking) :
    b.due.count a =
      match a with
      | .line text => (b.registry.names.map (· ++ " joined") ++
          b.state.session?.toList.map (·.announcement.text)).count text
      | .joined p => b.registry.toList.count p
      | .established s => b.state.session?.toList.count s
      | .counted => b.state.session?.toList.length := by
  unfold due
  rw [List.count_append, count_participants, count_session]
  cases a with
  | line text =>
    dsimp only [Registry.names]
    rw [List.map_map, List.count_append]
    rfl
  | joined p => rfl
  | established s => exact Nat.zero_add _
  | counted => exact Nat.zero_add _

end Bridge

/-- The last letters of a line. They tell what kind of line it is. -/
def ending (line : String) : List Char :=
  (line.toList.reverse.take 6).reverse

theorem ending_append (front : String) {back : String} (h : 6 ≤ back.toList.length) :
    ending (front ++ back) = ending back := by
  unfold ending
  rw [String.toList_append, List.reverse_append, List.take_append_of_le_length]
  rwa [List.length_reverse]

theorem ending_joined (name : String) : ending (name ++ " joined") = "joined".toList :=
  ending_append name (by decide)

theorem ending_roleLine (o : Opening) (target : BusTarget) :
    ending (o.roleLine target) ≠ "joined".toList := by
  unfold Opening.roleLine
  cases o.mode with
  | owner | joiner =>
    rw [ending_append _ (by decide)]
    decide

theorem ending_announcement (s : Session) : ending s.announcement.text ≠ "joined".toList := by
  have hname : (SessionState.established s).name = "Owner" ∨
      (SessionState.established s).name = "Joined" := by
    unfold SessionState.established
    cases s.mode with
    | owner => exact .inl rfl
    | joiner => exact .inr rfl
  change ending ("Session " ++ s.id.text ++ " established as " ++ (SessionState.established s).name) ≠ _
  rcases hname with hname | hname <;>
  · rw [hname, String.append_assoc, ending_append _ (by decide)]
    decide

/-! ### The whole of it -/

namespace Pool

def gathering (b : Bridge) (o : Opening) (target : BusTarget) (names : List String) : Pool :=
  ⟨b, o.thread target :: names.map joining⟩

variable {b : Bridge} {names : List String} {o : Opening} {target : BusTarget}
  {schedule : List (Nat × Timestamp)}

theorem Finished.pending {p : Pool} (h : p.Finished) : p.pending = [] :=
  List.flatten_eq_nil_iff.mpr h

theorem mem_pending_gathering {job : Job} (h : job ∈ (gathering b o target names).pending) :
    job ∈ o.thread target ∨
      ∃ name ∈ names, job = register name ∨ job = Job.tell .participantJoined := by
  simpa [gathering, Pool.pending, joining] using h

theorem calm_gathering (o : Opening) (target : BusTarget) (hgentle : b.Gentle names) :
    (gathering b o target names).Calm names := by
  refine ⟨hgentle, fun job hjob => ?_⟩
  rcases mem_pending_gathering hjob with hopener | ⟨name, hname, rfl | rfl⟩
  · simp only [Opening.thread, List.mem_cons, List.not_mem_nil, or_false] at hopener
    rcases hopener with rfl | rfl | rfl
    · exact fun h => nomatch h
    · trivial
    · exact fun h => nomatch h
  · exact hname
  · exact fun h => nomatch h

theorem registered?_gathering :
    (gathering b o target names).pending.filterMap registered? = names := by
  change (names.map joining).flatten.filterMap registered? = names
  induction names with
  | nil => rfl
  | cons name names ih => exact congrArg (name :: ·) ih

theorem told?_guests (names : List String) :
    ∀ e ∈ (names.map joining).flatten.filterMap told?, e = .participantJoined := by
  induction names with
  | nil => exact fun _ he => absurd he List.not_mem_nil
  | cons name names ih => exact List.forall_mem_cons.mpr ⟨rfl, ih⟩

theorem owed_gathering :
    owed (gathering b o target names).pending = [.line (o.roleLine target)] := by
  change Booking.line (o.roleLine target) :: owed (names.map joining).flatten = _
  refine congrArg (_ :: ·) (List.flatMap_eq_nil_iff.mpr fun job hjob => ?_)
  obtain ⟨thread, hthread, hjob⟩ := List.mem_flatten.mp hjob
  obtain ⟨name, -, rfl⟩ := List.mem_map.mp hthread
  simp only [joining, List.mem_cons, List.not_mem_nil, or_false] at hjob
  rcases hjob with rfl | rfl <;> rfl

theorem balanced_gathering (hstate : b.state = .disconnected) (hregistry : b.registry = .empty)
    (hgentle : b.Gentle names) (hfinished : ((gathering b o target names).run schedule).2.Finished)
    (a : Booking) :
    ((gathering b o target names).run schedule).2.bridge.tally a =
      b.tally a + [Booking.line (o.roleLine target)].count a +
        ((gathering b o target names).run schedule).2.bridge.due.count a := by
  have hdue : (gathering b o target names).bridge.due = [] := by
    change b.due = []
    unfold Bridge.due
    rw [hstate, hregistry]
    rfl
  have hbalanced := (calm_gathering o target hgentle).balanced schedule a
  rw [hfinished.pending, owed_gathering, hdue] at hbalanced
  exact hbalanced

theorem names_gathering (hregistry : b.registry = .empty) (hgentle : b.Gentle names)
    (hfinished : ((gathering b o target names).run schedule).2.Finished) :
    ((gathering b o target names).run schedule).2.bridge.registry.names.Nodup ∧
      ∀ name, name ∈ ((gathering b o target names).run schedule).2.bridge.registry.names ↔
        name ∈ names := by
  obtain ⟨reports, hreports, hperm⟩ :=
    (calm_gathering o target hgentle).reports schedule
  rw [hfinished.pending, registered?_gathering, List.filterMap_nil, List.append_nil] at hperm
  rw [show (gathering b o target names).bridge.registry = .empty from hregistry] at hreports
  rw [hreports]
  refine ⟨(Registry.indexed_reports reports).nodup, fun name => ?_⟩
  rw [Registry.mem_names_reports]
  exact hperm.mem_iff

theorem stage_gathering (hstate : b.state = .disconnected) (hgentle : b.Gentle names)
    (hfinished : ((gathering b o target names).run schedule).2.Finished) :
    o.Stage [] ((gathering b o target names).run schedule).1
      ((gathering b o target names).run schedule).2.bridge.state := by
  have hstart : o.Stage ((o.thread target).filterMap told?) [] b.state := by
    rw [hstate]
    exact .fresh List.not_mem_nil
  obtain ⟨opener, guests, hthreads, hstage⟩ :=
    (calm_gathering o target hgentle).stage (told?_guests names) hstart
      schedule
  have hended : opener = [] := hfinished opener (hthreads ▸ List.mem_cons_self)
  rw [hended] at hstage
  exact hstage

theorem statuses_gathering (hstate : b.state = .disconnected) (hregistry : b.registry = .empty)
    (hgentle : b.Gentle names)
    (hfinished : ((gathering b o target names).run schedule).2.Finished) :
    let b' := ((gathering b o target names).run schedule).2.bridge
    b'.statuses.Perm (b.statuses ++ o.roleLine target ::
      (b'.registry.names.map (· ++ " joined") ++
        b'.state.session?.toList.map (·.announcement.text))) := by
  intro b'
  refine List.perm_iff_count.mpr fun text => ?_
  have hbalanced := balanced_gathering hstate hregistry hgentle hfinished (.line text)
  rw [Bridge.count_due] at hbalanced
  dsimp only [Bridge.tally] at hbalanced
  have hrole : [Booking.line (o.roleLine target)].count (.line text) =
      [o.roleLine target].count text := by
    simp [List.count_singleton]
  change _ = (b.statuses ++ ([o.roleLine target] ++ _)).count text
  rw [List.count_append, List.count_append, ← Nat.add_assoc, ← hrole]
  exact hbalanced

theorem count_joined_gathering (hstate : b.state = .disconnected) (hregistry : b.registry = .empty)
    (hgentle : b.Gentle names)
    (hfinished : ((gathering b o target names).run schedule).2.Finished) (name : String) :
    ((gathering b o target names).run schedule).2.bridge.statuses.count (name ++ " joined") =
      b.statuses.count (name ++ " joined") + if name ∈ names then 1 else 0 := by
  obtain ⟨hnodup, hnames⟩ := names_gathering hregistry hgentle hfinished
  have hrole : o.roleLine target ≠ name ++ " joined" := fun heq =>
    ending_roleLine o target (heq ▸ ending_joined name)
  have hannouncement (session? : Option Session) :
      name ++ " joined" ∉ session?.toList.map (·.announcement.text) := by
    intro hmem
    obtain ⟨s, -, heq⟩ := List.mem_map.mp hmem
    exact ending_announcement s (heq ▸ ending_joined name)
  rw [(statuses_gathering hstate hregistry hgentle hfinished).count_eq, List.count_append,
    List.count_cons_of_ne hrole, List.count_append, List.count_eq_zero.mpr (hannouncement _),
    List.count_map_of_injective _ _ fun _ _ heq => (String.append_left_inj _).mp heq,
    hnodup.count, if_congr (hnames name) rfl rfl, Nat.add_zero]

/-- A connect and any number of participant reports, each on a thread of its own, on a disconnected
bridge that knows nobody. The steps of the threads come in any order that keeps the order within each
thread, at any readings of the clock, and handlers may echo messages in between as long as they do not
crash over the names. Whatever turns have been taken, all threads can still come to their end. When they
have:

Every name is registered once, however often it was reported, with one line and one event.

If the session was told of a participant after it was asked for, it is established, and counted, written
down and published once. If not, it waits for its first participant under the id that the bus gave it,
and no session is counted, written down or published.

Beside these lines there is only the one that names the role. -/
theorem gathers_exactly_once (hstate : b.state = .disconnected) (hregistry : b.registry = .empty)
    (hgentle : b.Gentle names)
    (hfinished : ((gathering b o target names).run schedule).2.Finished) :
    let jobs := ((gathering b o target names).run schedule).1
    let b' := ((gathering b o target names).run schedule).2.bridge
    let reported := b.statuses ++ o.roleLine target :: b'.registry.names.map (· ++ " joined")
    (∀ turns, ∃ more, ((gathering b o target names).run (turns ++ more)).2.Finished) ∧
      (b'.registry.names.Nodup ∧ ∀ name, name ∈ b'.registry.names ↔ name ∈ names) ∧
      (∀ name, b'.statuses.count (name ++ " joined") =
        b.statuses.count (name ++ " joined") + if name ∈ names then 1 else 0) ∧
      b'.joins.Perm (b.joins ++ b'.registry.toList) ∧
      ((o.Heard jobs ∧ ∃ since, b'.state = .established (o.session since) ∧
          b'.established = b.established + 1 ∧
          b'.sessions.Perm (b.sessions ++ [o.session since]) ∧
          b'.statuses.Perm (reported ++ [(o.session since).announcement.text])) ∨
        (¬ o.Heard jobs ∧ ∃ since,
          b'.state = .connecting ⟨o.mode, o.sessionName, o.handle, some o.id, false, since⟩ ∧
          b'.established = b.established ∧ b'.sessions.Perm b.sessions ∧
          b'.statuses.Perm reported)) := by
  intro jobs b' reported
  have hbalanced := balanced_gathering hstate hregistry hgentle hfinished
  have hstatuses : b'.statuses.Perm
      (reported ++ b'.state.session?.toList.map (·.announcement.text)) := by
    rw [List.append_assoc]
    exact statuses_gathering hstate hregistry hgentle hfinished
  have hestablished : b'.established = b.established + b'.state.session?.toList.length := by
    have hcounted := hbalanced .counted
    rw [Bridge.count_due] at hcounted
    exact hcounted
  have hjoins : b'.joins.Perm (b.joins ++ b'.registry.toList) := by
    refine List.perm_iff_count.mpr fun p => ?_
    have hjoined := hbalanced (.joined p)
    rw [Bridge.count_due] at hjoined
    rw [List.count_append]
    exact hjoined
  have hsessions : b'.sessions.Perm (b.sessions ++ b'.state.session?.toList) := by
    refine List.perm_iff_count.mpr fun s => ?_
    have hsession := hbalanced (.established s)
    rw [Bridge.count_due] at hsession
    rw [List.count_append]
    exact hsession
  refine ⟨can_go_on _, names_gathering hregistry hgentle hfinished,
    count_joined_gathering hstate hregistry hgentle hfinished, hjoins, ?_⟩
  have hstage : o.Stage [] jobs b'.state := stage_gathering hstate hgentle hfinished
  generalize b'.state = state at hstage hestablished hsessions hstatuses ⊢
  cases hstage with
  | waiting _ hheard =>
    refine .inr ⟨hheard, _, rfl, hestablished, ?_, ?_⟩
    · exact hsessions.trans (.of_eq (List.append_nil _))
    · exact hstatuses.trans (.of_eq (List.append_nil _))
  | opened hheard =>
    rw [SessionState.session?_established] at hestablished hsessions hstatuses
    exact .inl ⟨hheard, _, rfl, hestablished, hsessions, hstatuses⟩

def greeting : Bridge :=
  { Bridge.start ⟨64, #[]⟩ ⟨0⟩ "noon" with
    handlers := some ⟨fun _ => none, fun p => ⟨[("hello " ++ p.name, 1)], none⟩⟩ }

def crowd : Pool :=
  gathering greeting ⟨.owner, "lobby", "ann", ⟨7⟩⟩ ⟨"chat", "org.chat.", "/chat", 27⟩
    ["bob", "eve", "bob"]

def turns : List (Nat × Timestamp) :=
  (List.range 48).map fun i => (i % 4, ⟨.ofNat i⟩)

theorem gathers_exactly_once_crowd :
    (crowd.run turns).2.Finished ∧
      (crowd.run turns).2.bridge.statuses.count ("bob" ++ " joined") = 0 + 1 ∧
      (crowd.run turns).2.bridge.established = 0 + 1 := by
  have hgentle : greeting.Gentle ["bob", "eve", "bob"] := by
    rintro h hhandlers p -
    cases hhandlers
    rfl
  have hfinished : (crowd.run turns).2.Finished := by
    unfold Finished
    decide +kernel
  have hheard : Opening.Heard ⟨.owner, "lobby", "ann", ⟨7⟩⟩ (crowd.run turns).1 := by
    unfold Opening.Heard
    decide +kernel
  obtain ⟨-, -, hlines, -, houtcome⟩ := gathers_exactly_once rfl rfl hgentle hfinished
  refine ⟨hfinished, hlines "bob", ?_⟩
  rcases houtcome with ⟨-, _, -, hestablished, -⟩ | ⟨hnot, -⟩
  · exact hestablished
  · exact absurd hheard hnot

end Pool

end SessionBridge
