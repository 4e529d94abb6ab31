import SessionBridge.Control.World
import SessionBridge.Proofs.Bridge.Display
import SessionBridge.Proofs.Bridge.Hearing
import SessionBridge.Proofs.Bridge.Publication

/-! What is left of a callback that goes wrong. Text that cannot be read is one line and nothing else; a
handler that crashes keeps what was recorded before it ran, and every crash is one line that names the
entry point. Nothing else in a callback writes an error, and nothing gets out of it. -/
namespace SessionBridge

/-! ### Callbacks by their parts -/

namespace Callback

def hasContext : Callback → Bool
  | message hasContext .. => hasContext
  | participant hasContext _ => hasContext

def entryPoint : Callback → EntryPoint
  | message .. => .message
  | participant .. => .participant

def text : Callback → NativeText
  | message _ text _ => text
  | participant _ name => name

end Callback

namespace NativeText

variable {t : NativeText} {bytes : List UInt8}

def content (bytes : List UInt8) (size : Int32) : String :=
  String.ofList (Utf8.decodeLossy (untilZero (bytes.take size.toInt.toNat)))

theorem decode_null (h : t.bytes = none) (callback argument : String) :
    t.decode callback argument = .error (.nullPointer callback argument) := by
  simp [decode, h]

theorem decode_negative (h : t.bytes = some bytes) (hsize : t.size < 0) (callback argument : String) :
    t.decode callback argument = .error (.negativeSize callback t.size) := by
  simp [decode, h, hsize]

theorem decode_content (h : t.bytes = some bytes) (hsize : ¬t.size < 0) (callback argument : String) :
    t.decode callback argument = .ok (content bytes t.size) := by
  simp [decode, h, hsize, content]

end NativeText

def Showing.entryPoint : Showing → EntryPoint
  | message _ => .message
  | participant _ => .participant

def Handlers.crashOn? (h : Handlers) : Showing → Option Crash
  | .message e => h.onMessage e
  | .participant p => (h.onParticipant p).crash

def Line.isError (l : Line) : Bool :=
  l.origin = .system && l.kind = .error

namespace Bridge

def errors (b : Bridge) : List Line :=
  b.lines.filter Line.isError

def crashOn? (b : Bridge) (s : Showing) : Option Crash :=
  b.handlers.bind (·.crashOn? s)

def crashLine? (b : Bridge) (s : Showing) : Option Line :=
  (b.crashOn? s).map fun crash =>
    b.line .system .error (s.entryPoint.name ++ ": handler panicked: " ++ crash.message)

def callsFor (b : Bridge) (s : Showing) : List Showing :=
  if b.isInstalled then [s] else []

/-- From one bridge to the other these calls of handlers were made, and the errors written down
meanwhile are the crashes among them. -/
structure Contains (b b' : Bridge) (calls : List Showing) : Prop where
  handlers : b'.handlers = b.handlers
  clock : b'.clock = b.clock
  shown : b'.shown.toList = b.shown.toList ++ calls
  errors : b'.errors = b.errors ++ calls.filterMap b.crashLine?

variable {b b' b'' : Bridge} {calls calls' : List Showing}

theorem crashLine?_congr (hhandlers : b'.handlers = b.handlers) (hclock : b'.clock = b.clock) :
    b'.crashLine? = b.crashLine? := by
  funext s
  simp only [crashLine?, crashOn?, line, hhandlers, hclock]

theorem Contains.refl (b : Bridge) : b.Contains b [] :=
  ⟨rfl, rfl, (List.append_nil _).symm, (List.append_nil _).symm⟩

theorem Contains.trans (h : b.Contains b' calls) (h' : b'.Contains b'' calls') :
    b.Contains b'' (calls ++ calls') where
  handlers := h'.handlers.trans h.handlers
  clock := h'.clock.trans h.clock
  shown := by rw [h'.shown, h.shown, List.append_assoc]
  errors := by
    rw [h'.errors, h.errors, crashLine?_congr h.handlers h.clock, List.filterMap_append,
      List.append_assoc]

theorem errors_record (b : Bridge) (origin : Origin) (kind : InformType) (text : String) :
    (b.record origin kind text).errors =
      b.errors ++ if origin = .system ∧ kind = .error then [b.line origin kind text] else [] := by
  simp [errors, List.filter_append, Line.isError, line, List.filter_cons]

theorem errors_status (b : Bridge) (text : String) :
    (b.report .status text).errors = b.errors := by
  rw [report, errors_record, if_neg nofun, List.append_nil]

theorem contains_nothing (hhandlers : b'.handlers = b.handlers) (hclock : b'.clock = b.clock)
    (hshown : b'.shown = b.shown) (herrors : b'.errors = b.errors) : b.Contains b' [] := by
  refine ⟨hhandlers, hclock, ?_, ?_⟩
  · rw [hshown, List.append_nil]
  · rw [herrors, List.filterMap_nil, List.append_nil]

theorem contains_call (b : Bridge) (s : Showing) :
    b.Contains (contain s.entryPoint (b.crashOn? s, b.showed s)) [s] := by
  rcases hcrash : b.crashOn? s with _ | crash
  · refine ⟨rfl, rfl, Array.toList_push, ?_⟩
    simp only [crashLine?, hcrash, List.filterMap_cons, Option.map_none, List.filterMap_nil,
      List.append_nil]
    rfl
  · refine ⟨rfl, rfl, Array.toList_push, ?_⟩
    simp only [crashLine?, hcrash, List.filterMap_cons, Option.map_some, List.filterMap_nil]
    exact errors_record (b.showed s) .system .error _

theorem errors_advance (b : Bridge) (e : SessionEvent) : (b.advance e).errors = b.errors := by
  have hadvances := b.advance_advances e
  generalize b.advance e = b' at hadvances
  cases hadvances with
  | rejected => rfl
  | moved => rfl
  | @established s =>
    exact errors_status { b with state := .established s, established := b.established + 1 } _

theorem shown_advance (b : Bridge) (e : SessionEvent) : (b.advance e).shown = b.shown := by
  obtain ⟨journal, state, established, hadvance⟩ := b.advance_eq e
  rw [hadvance]

theorem contains_join (b : Bridge) : b.Contains (b.advance .participantJoined) [] := by
  have herrors := b.errors_advance .participantJoined
  obtain ⟨journal, state, established, hadvance⟩ := b.advance_eq .participantJoined
  rw [hadvance] at herrors ⊢
  exact contains_nothing rfl rfl rfl herrors

theorem contains_enroll (b : Bridge) (p : Participant) : b.Contains (b.enroll p) [] :=
  contains_nothing rfl rfl rfl (errors_status { b with registry := b.registry.insert p } _)

/-! ### Messages -/

def inboundEntry (b : Bridge) (text : String) (code : Int32) : Entry :=
  b.transcript.place (b.line .inbound (.ofCode code) text)

theorem deliverMessage_record (b : Bridge) (text : String) (code : Int32) :
    b.deliverMessage text code =
      if b.isInstalled then
        contain .message (b.crashOn? (.message (b.inboundEntry text code)),
          (b.record .inbound (.ofCode code) text).showed (.message (b.inboundEntry text code)))
      else b.record .inbound (.ofCode code) text := by
  rcases hhandlers : b.handlers with _ | h
  · rw [deliverMessage_bare hhandlers, isInstalled, hhandlers]
    rfl
  · rw [deliverMessage_shown hhandlers, isInstalled, crashOn?, hhandlers]
    rfl

theorem contains_deliverMessage (b : Bridge) (text : String) (code : Int32) :
    b.Contains (b.deliverMessage text code)
      (b.callsFor (.message (b.inboundEntry text code))) := by
  have hrecord : b.Contains (b.record .inbound (.ofCode code) text) [] := by
    refine contains_nothing rfl rfl rfl ?_
    rw [errors_record, if_neg nofun, List.append_nil]
  rw [deliverMessage_record, callsFor]
  cases b.isInstalled with
  | false => exact hrecord
  | true => exact hrecord.trans (contains_call _ (.message (b.inboundEntry text code)))

theorem contains_echo (echoes : List (String × Int32)) (b : Bridge) :
    ∃ entries : List Entry,
      b.Contains (echoes.foldl (fun b echo => b.deliverMessage echo.1 echo.2) b)
          (entries.map Showing.message) ∧
        (b.isInstalled = true → entries.map (·.text) = echoes.map Prod.fst) := by
  induction echoes generalizing b with
  | nil => exact ⟨[], .refl b, fun _ => rfl⟩
  | cons echo echoes ih =>
    have hfirst := b.contains_deliverMessage echo.1 echo.2
    obtain ⟨entries, hrest, htexts⟩ := ih (b.deliverMessage echo.1 echo.2)
    have hsame : (b.deliverMessage echo.1 echo.2).isInstalled = b.isInstalled :=
      congrArg Option.isSome hfirst.handlers
    rw [hsame] at htexts
    have hall := hfirst.trans hrest
    rw [callsFor] at hall
    cases hinstalled : b.isInstalled with
    | false =>
      rw [hinstalled] at hall
      exact ⟨entries, hall, nofun⟩
    | true =>
      rw [hinstalled] at hall
      refine ⟨b.inboundEntry echo.1 echo.2 :: entries, hall, fun _ => ?_⟩
      rw [List.map_cons, List.map_cons, htexts hinstalled]
      rfl

/-! ### Participants -/

def ownMessages (b : Bridge) (p : Participant) : List (String × Int32) :=
  match b.handlers with
  | some h => (h.onParticipant p).echoes
  | none => []

/-- The bridge at the end of the handler that is shown a newcomer: the newcomer is registered and
reported, and what the handler delivers has been delivered. -/
def greeted (b : Bridge) (p : Participant) : Bridge :=
  (b.ownMessages p).foldl (fun b echo => b.deliverMessage echo.1 echo.2) (b.enroll p)

theorem showParticipant_enroll (b : Bridge) (p : Participant) :
    (b.enroll p).showParticipant p =
      if b.isInstalled then (b.crashOn? (.participant p), (b.greeted p).showed (.participant p))
      else (none, b.greeted p) := by
  have hsame : (b.enroll p).handlers = b.handlers := rfl
  unfold showParticipant greeted ownMessages crashOn? isInstalled
  rw [hsame]
  rcases b.handlers with _ | h <;> rfl

theorem deliverParticipant_greeted {b : Bridge} {name : String}
    (hnew : b.registry.contains name = false) :
    let p : Participant := ⟨name, b.clock⟩
    b.deliverParticipant name =
      if b.isInstalled then
        match b.crashOn? (.participant p) with
        | none => ((b.greeted p).showed (.participant p)).advance .participantJoined
        | some crash => ((b.greeted p).showed (.participant p)).recordFault
            (.panicked EntryPoint.participant.name crash.message)
      else (b.greeted p).advance .participantJoined := by
  intro p
  have hshow := b.showParticipant_enroll p
  cases hinstalled : b.isInstalled with
  | false =>
    rw [hinstalled] at hshow
    exact deliverParticipant_shown hnew hshow
  | true =>
    rw [hinstalled] at hshow
    rcases hcrash : b.crashOn? (.participant p) with _ | crash
    all_goals rw [hcrash] at hshow
    · exact deliverParticipant_shown hnew hshow
    · exact deliverParticipant_crashed hnew hshow

theorem greeted_eq (b : Bridge) (p : Participant) :
    ∃ journal shown, b.greeted p = { b.enroll p with journal, shown } :=
  (b.enroll p).echo_eq (b.ownMessages p)

theorem extends_greeted (b : Bridge) (p : Participant) :
    (b.enroll p).journal.Extends (b.greeted p).journal :=
  (steady_extends (b.enroll p).journal).echo (b.ownMessages p) (.refl _)

theorem contains_greeted (b : Bridge) (p : Participant) :
    ∃ entries : List Entry, b.Contains (b.greeted p) (entries.map Showing.message) ∧
      entries.map (·.text) = (b.ownMessages p).map Prod.fst := by
  obtain ⟨entries, hcontains, htexts⟩ := contains_echo (b.ownMessages p) (b.enroll p)
  have hall := (b.contains_enroll p).trans hcontains
  rcases hhandlers : b.handlers with _ | h
  · have hnone : b.ownMessages p = [] := by rw [ownMessages, hhandlers]
    refine ⟨[], ?_, by rw [hnone]; rfl⟩
    rw [greeted, hnone]
    exact b.contains_enroll p
  · refine ⟨entries, hall, htexts ?_⟩
    change b.handlers.isSome = true
    rw [hhandlers]
    rfl

theorem contains_deliverParticipant {b : Bridge} {name : String}
    (hnew : b.registry.contains name = false) :
    ∃ entries : List Entry,
      b.Contains (b.deliverParticipant name)
          (entries.map Showing.message ++ b.callsFor (.participant ⟨name, b.clock⟩)) ∧
        entries.map (·.text) = (b.ownMessages ⟨name, b.clock⟩).map Prod.fst := by
  obtain ⟨entries, hgreeted, htexts⟩ := b.contains_greeted ⟨name, b.clock⟩
  refine ⟨entries, hgreeted.trans ?_, htexts⟩
  rw [deliverParticipant_greeted hnew, callsFor]
  cases b.isInstalled with
  | false => exact contains_join _
  | true =>
    have hsame : (b.greeted ⟨name, b.clock⟩).crashOn? (.participant ⟨name, b.clock⟩) =
        b.crashOn? (.participant ⟨name, b.clock⟩) := by
      unfold crashOn?
      rw [hgreeted.handlers]
    have hcall := (b.greeted ⟨name, b.clock⟩).contains_call (.participant ⟨name, b.clock⟩)
    rw [hsame] at hcall
    rcases hcrash : b.crashOn? (.participant ⟨name, b.clock⟩) with _ | crash
    all_goals rw [hcrash] at hcall
    · exact hcall.trans (contains_join _)
    · exact hcall

/-! ### Outcomes -/

/-- What becomes of a message that can be read: it is recorded, shown if there is somebody to show it to,
and a crash on it is recorded behind it. -/
structure TakesMessage (b : Bridge) (text : String) (code : Int32) (b' : Bridge) : Prop where
  lines : b'.lines = b.lines ++ b.line .inbound (.ofCode code) text ::
    (b.crashLine? (.message (b.inboundEntry text code))).toList
  shown : b'.shown.toList = b.shown.toList ++ b.callsFor (.message (b.inboundEntry text code))
  errors : b'.errors = b.errors ++ (b.crashLine? (.message (b.inboundEntry text code))).toList
  published : b.journal.Extends b'.journal
  rest : ∃ journal shown, b' = { b with journal, shown }

/-- What becomes of the name of somebody new: they are registered and reported before the handler runs,
and if it crashes on them the crash is recorded last and the session does not hear of them. -/
structure TakesNewcomer (b : Bridge) (p : Participant) (b' : Bridge) : Prop where
  registered : b'.registry = b.registry.insert p
  reported : b.lines ++ [b.line .system .status (p.name ++ " joined")] <+: b'.lines
  published : b.feed.published.toList ++
    [.transcript (b.transcript.place (b.line .system .status (p.name ++ " joined"))),
      .participantJoined p] <+: b'.feed.published.toList
  /-- The messages that the handler delivers itself are shown first. -/
  calls : ∃ own : List Entry, own.map (·.text) = (b.ownMessages p).map Prod.fst ∧
    b'.shown.toList = b.shown.toList ++ (own.map Showing.message ++ b.callsFor (.participant p)) ∧
    b'.errors = b.errors ++
      (own.map Showing.message ++ b.callsFor (.participant p)).filterMap b.crashLine?
  crashed : ∀ crash, b.crashOn? (.participant p) = some crash →
    b'.state = b.state ∧ b'.established = b.established ∧
      ∃ own : List Line, (b.ownMessages p = [] → own = []) ∧
        b'.lines = b.lines ++ b.line .system .status (p.name ++ " joined") :: (own ++
          [b.line .system .error
            (EntryPoint.participant.name ++ ": handler panicked: " ++ crash.message)])

/-- What becomes of a participant whose name can be read: only somebody new is shown to anybody. -/
structure TakesParticipant (b : Bridge) (name : String) (b' : Bridge) : Prop where
  known : b.registry.contains name = true →
    b' = b.advance .participantJoined ∧ b'.registry = b.registry ∧ b'.shown = b.shown ∧
      b'.errors = b.errors
  new : b.registry.contains name = false → b.TakesNewcomer ⟨name, b.clock⟩ b'

theorem takesMessage (b : Bridge) (text : String) (code : Int32) :
    b.TakesMessage text code (b.deliverMessage text code) := by
  have hcontains := b.contains_deliverMessage text code
  have hcalls : (b.callsFor (.message (b.inboundEntry text code))).filterMap b.crashLine? =
      (b.crashLine? (.message (b.inboundEntry text code))).toList := by
    rcases hhandlers : b.handlers with _ | h
    · simp [callsFor, isInstalled, crashLine?, crashOn?, hhandlers]
    · simp [callsFor, isInstalled, hhandlers, List.filterMap_cons]
      cases b.crashLine? (.message (b.inboundEntry text code)) <;> rfl
  refine ⟨?_, hcontains.shown, ?_, ?_, b.deliverMessage_eq text code⟩
  · rw [deliverMessage_record]
    rcases hhandlers : b.handlers with _ | h
    · simp [isInstalled, crashLine?, crashOn?, hhandlers]
    · simp only [isInstalled, hhandlers, Option.isSome_some, if_true, crashLine?]
      rcases b.crashOn? (.message (b.inboundEntry text code)) with _ | crash
      · exact lines_record b .inbound (.ofCode code) text
      · refine (lines_report ((b.record .inbound (.ofCode code) text).showed _) .error _).trans ?_
        change (b.record .inbound (.ofCode code) text).lines ++ _ = _
        rw [lines_record, List.append_assoc]
        rfl
  · rw [← hcalls]
    exact hcontains.errors
  · exact (steady_extends b.journal).deliverMessage text code (.refl _)

theorem lines_enroll (b : Bridge) (p : Participant) :
    (b.enroll p).lines = b.lines ++ [b.line .system .status (p.name ++ " joined")] :=
  lines_report { b with registry := b.registry.insert p } .status _

theorem lines_of_extends {b b' : Bridge} (h : b.journal.Extends b'.journal) : b.lines <+: b'.lines :=
  h.transcript.map Entry.toLine

theorem takesNewcomer {b : Bridge} {name : String} (hnew : b.registry.contains name = false) :
    b.TakesNewcomer ⟨name, b.clock⟩ (b.deliverParticipant name) := by
  obtain ⟨journal, shown, hgreeted⟩ := b.greeted_eq ⟨name, b.clock⟩
  have hextends := b.extends_greeted ⟨name, b.clock⟩
  have hwritten : (b.greeted ⟨name, b.clock⟩).journal.Extends (b.deliverParticipant name).journal := by
    have hsteady := steady_extends (b.greeted ⟨name, b.clock⟩).journal
    rw [deliverParticipant_greeted hnew]
    split
    · split
      · exact hsteady.join _ (hsteady.showed _ _ (.refl _))
      · exact hsteady.report .error _ (hsteady.showed _ _ (.refl _))
    · exact hsteady.join _ (.refl _)
  have hall := hextends.trans hwritten
  refine ⟨?_, ?_, ?_, ?_, ?_⟩
  · rw [registry_deliverParticipant, Registry.register_new (p := ⟨name, b.clock⟩) hnew]
  · rw [← lines_enroll b ⟨name, b.clock⟩]
    exact lines_of_extends hall
  · have hpublished : (b.enroll ⟨name, b.clock⟩).feed.published.toList = b.feed.published.toList ++
        [.transcript (b.transcript.place (b.line .system .status (name ++ " joined"))),
          .participantJoined ⟨name, b.clock⟩] := by
      unfold enroll announceParticipant publish report record feed Journal.publish Journal.append
      simp [transcript, line]
    rw [← hpublished]
    exact hall.published
  · obtain ⟨own, hcontains, htexts⟩ := contains_deliverParticipant hnew
    exact ⟨own, htexts, hcontains.shown, hcontains.errors⟩
  · intro crash hcrash
    have hinstalled : b.isInstalled = true := by
      unfold isInstalled
      rcases hhandlers : b.handlers with _ | h
      · simp [crashOn?, hhandlers] at hcrash
      · rfl
    have hlines := lines_report ((b.greeted ⟨name, b.clock⟩).showed (.participant ⟨name, b.clock⟩))
      .error (EntryPoint.participant.name ++ ": handler panicked: " ++ crash.message)
    obtain ⟨own, hown⟩ := lines_of_extends hextends
    rw [deliverParticipant_greeted hnew, if_pos hinstalled, hcrash]
    refine ⟨?_, ?_, own, ?_, ?_⟩
    · change (b.greeted ⟨name, b.clock⟩).state = b.state
      rw [hgreeted]
      rfl
    · change (b.greeted ⟨name, b.clock⟩).established = b.established
      rw [hgreeted]
      rfl
    · intro hnone
      rw [greeted, hnone, List.foldl_nil, List.append_right_eq_self] at hown
      exact hown
    · refine hlines.trans ?_
      change (b.greeted ⟨name, b.clock⟩).lines ++
        [(b.greeted ⟨name, b.clock⟩).line .system .error _] = _
      rw [← hown, lines_enroll, hgreeted]
      simp [line, enroll, announceParticipant, publish, report, record]

theorem takesParticipant (b : Bridge) (name : String) :
    b.TakesParticipant name (b.deliverParticipant name) where
  known hknown := by
    rw [deliverParticipant_known hknown]
    exact ⟨rfl, registry_advance b _, shown_advance b _, errors_advance b _⟩
  new := takesNewcomer

/-! ### Callbacks -/

theorem receive_unreadable {call : Callback} {fault : CallbackFault} (hcontext : call.hasContext = true)
    (hdecode : call.text.decode call.entryPoint.name call.entryPoint.argument = .error fault)
    (b : Bridge) : b.receive call = b.recordFault fault := by
  rcases call with ⟨_ | _, text, code⟩ | ⟨_ | _, text⟩
  · cases hcontext
  · unfold receive receiveText
    dsimp only
    rw [show text.decode EntryPoint.message.name EntryPoint.message.argument = .error fault from hdecode]
  · cases hcontext
  · unfold receive receiveText
    dsimp only
    rw [show text.decode EntryPoint.participant.name EntryPoint.participant.argument = .error fault
      from hdecode]

theorem receive_decoded {text : NativeText} {s : String}
    (hdecode : text.decode EntryPoint.message.name EntryPoint.message.argument = .ok s) (b : Bridge)
    (code : Int32) : b.receive (.message true text code) = b.deliverMessage s code := by
  unfold receive receiveText
  dsimp only
  rw [hdecode]

theorem receive_message {text : NativeText} {bytes : List UInt8} {code : Int32}
    (hbytes : text.bytes = some bytes) (hsize : ¬text.size < 0) (b : Bridge) :
    b.receive (.message true text code) =
      b.deliverMessage (NativeText.content bytes text.size) code :=
  receive_decoded (NativeText.decode_content hbytes hsize _ _) b code

theorem receive_named {name : NativeText} {bytes : List UInt8} (hbytes : name.bytes = some bytes)
    (hsize : ¬name.size < 0) (b : Bridge) :
    b.receive (.participant true name) = b.deliverParticipant (NativeText.content bytes name.size) := by
  unfold receive receiveText
  dsimp only
  rw [NativeText.decode_content hbytes hsize]

theorem contains_receive {call : Callback} {bytes : List UInt8} (hcontext : call.hasContext = true)
    (hbytes : call.text.bytes = some bytes) (hsize : ¬call.text.size < 0) (b : Bridge) :
    ∃ calls, b.Contains (b.receive call) calls := by
  rcases call with ⟨_ | _, text, code⟩ | ⟨_ | _, text⟩
  · cases hcontext
  · change text.bytes = some bytes at hbytes
    change ¬text.size < 0 at hsize
    rw [receive_message hbytes hsize]
    exact ⟨_, b.contains_deliverMessage _ code⟩
  · cases hcontext
  · change text.bytes = some bytes at hbytes
    change ¬text.size < 0 at hsize
    rw [receive_named hbytes hsize]
    generalize NativeText.content bytes text.size = name
    cases hknown : b.registry.contains name with
    | true =>
      rw [deliverParticipant_known hknown]
      exact ⟨[], contains_join b⟩
    | false =>
      obtain ⟨own, hcontains, -⟩ := contains_deliverParticipant hknown
      exact ⟨_, hcontains⟩

/-- Faults in a callback, on any bridge and with any handlers. A callback without a context changes
nothing. A null pointer, which is noticed first, or a negative size is one error line with the text of
that fault, and nothing else is changed and no handler called. All other text can be read; what was
recorded before a handler ran is kept, each crash of a handler is one error line that names the entry
point and the message, and there is no other error line. A crash without a text has a message too. No
crash gets out: a native call ends as the bus ends it, whatever is called back meanwhile. -/
theorem faults_stay_contained (b : Bridge) :
    (∀ call : Callback, call.hasContext = false → b.receive call = b) ∧
    (∀ call : Callback, call.hasContext = true → call.text.bytes = none →
      b.receive call = { b with journal := b.journal.append ⟨b.clock, .system, .error,
        call.entryPoint.name ++ ": null " ++ call.entryPoint.argument ++ " pointer"⟩ }) ∧
    (∀ (call : Callback) (bytes : List UInt8), call.hasContext = true →
      call.text.bytes = some bytes → call.text.size < 0 →
      b.receive call = { b with journal := b.journal.append ⟨b.clock, .system, .error,
        call.entryPoint.name ++ ": negative size " ++ Text.decimal call.text.size.toInt⟩ }) ∧
    (∀ (text : NativeText) (bytes : List UInt8) (code : Int32), text.bytes = some bytes →
      ¬text.size < 0 →
      b.TakesMessage (NativeText.content bytes text.size) code (b.receive (.message true text code))) ∧
    (∀ (name : NativeText) (bytes : List UInt8), name.bytes = some bytes → ¬name.size < 0 →
      b.TakesParticipant (NativeText.content bytes name.size) (b.receive (.participant true name))) ∧
    (∀ (call : Callback) (bytes : List UInt8), call.hasContext = true →
      call.text.bytes = some bytes → ¬call.text.size < 0 →
      (∀ s ∈ (b.receive call).shown.toList.drop b.shown.size, b.crashOn? s = none) →
      (b.receive call).errors = b.errors) ∧
    (∀ message, Crash.message (.text message) = message) ∧
    Crash.message .wordless = "unknown panic" ∧
    ∀ (β α : Type) (w : World β) (attended : Bool) (call : β → Turn β α)
      (exchange : Outcome NativeFailure α → Exchange),
      (World.perform attended call exchange { w with bridge := b }).1 = (call w.bus).outcome := by
  refine ⟨?_, ?_, ?_, ?_, ?_, ?_, fun _ => rfl, rfl, fun _ _ _ _ _ _ => rfl⟩
  · rintro (⟨_ | _, text, code⟩ | ⟨_ | _, name⟩) hcontext
    · rfl
    · cases hcontext
    · rfl
    · cases hcontext
  · intro call hcontext hbytes
    rw [receive_unreadable hcontext (NativeText.decode_null hbytes _ _)]
    rfl
  · intro call bytes hcontext hbytes hsize
    rw [receive_unreadable hcontext (NativeText.decode_negative hbytes hsize _ _)]
    rfl
  · intro text bytes code hbytes hsize
    rw [receive_message hbytes hsize]
    exact b.takesMessage _ code
  · intro name bytes hbytes hsize
    rw [receive_named hbytes hsize]
    exact b.takesParticipant _
  · intro call bytes hcontext hbytes hsize hcalm
    obtain ⟨calls, hcontains⟩ := contains_receive hcontext hbytes hsize b
    rw [hcontains.shown, ← Array.length_toList, List.drop_left] at hcalm
    have hnone : calls.filterMap b.crashLine? = [] := by
      rw [List.filterMap_eq_nil_iff]
      intro s hmem
      rw [crashLine?, hcalm s hmem]
      rfl
    rw [hcontains.errors, hnone, List.append_nil]

end Bridge

end SessionBridge
