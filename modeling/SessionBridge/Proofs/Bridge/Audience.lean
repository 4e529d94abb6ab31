import SessionBridge.Proofs.Bridge.Containment

/-! What handlers see. Beside the log and the list of participants stands the sequence of calls of
handlers; while handlers are installed the three grow together, a message with its entry and a
participant with its registration, whether the call crashes or not. -/
namespace SessionBridge

namespace Showing

def message? : Showing → Option Entry
  | message e => some e
  | participant _ => none

def participant? : Showing → Option Participant
  | message _ => none
  | participant p => some p

end Showing

namespace Bridge

def shownMessages (b : Bridge) : List Entry :=
  b.shown.toList.filterMap Showing.message?

def shownParticipants (b : Bridge) : List Participant :=
  b.shown.toList.filterMap Showing.participant?

structure Attends (b b' : Bridge) (entries : List Entry) (joined : List Participant) : Prop where
  log : b'.transcript.toList = b.transcript.toList ++ entries
  messages : b'.shownMessages = b.shownMessages ++ entries.filter (·.origin = .inbound)
  members : b'.registry.toList = b.registry.toList ++ joined
  participants : b'.shownParticipants = b.shownParticipants ++ joined

variable {b b' b'' : Bridge} {entries entries' : List Entry} {joined joined' : List Participant}

theorem attends_unseen (hjournal : b'.journal = b.journal) (hregistry : b'.registry = b.registry)
    (hshown : b'.shown = b.shown) : b.Attends b' [] [] := by
  refine ⟨?_, ?_, ?_, ?_⟩
  · simp [transcript, hjournal]
  · simp [shownMessages, hshown]
  · simp [hregistry]
  · simp [shownParticipants, hshown]

theorem Attends.refl (b : Bridge) : b.Attends b [] [] :=
  attends_unseen rfl rfl rfl

theorem Attends.trans (h : b.Attends b' entries joined) (h' : b'.Attends b'' entries' joined') :
    b.Attends b'' (entries ++ entries') (joined ++ joined') where
  log := by rw [h'.log, h.log, List.append_assoc]
  messages := by rw [h'.messages, h.messages, List.filter_append, List.append_assoc]
  members := by rw [h'.members, h.members, List.append_assoc]
  participants := by rw [h'.participants, h.participants, List.append_assoc]

theorem attends_record (b : Bridge) (origin : Origin) (kind : InformType) (text : String)
    (horigin : origin ≠ .inbound) :
    b.Attends (b.record origin kind text) [b.transcript.place (b.line origin kind text)] [] where
  log := Transcript.toList_append b.transcript _
  messages := by
    simp [shownMessages, record, Transcript.place, line, horigin]
  members := (List.append_nil _).symm
  participants := (List.append_nil _).symm

theorem attends_report (b : Bridge) (kind : InformType) (text : String) :
    ∃ entries, b.Attends (b.report kind text) entries [] :=
  ⟨_, b.attends_record .system kind text nofun⟩

theorem attends_publish (b : Bridge) (e : BridgeEvent) : b.Attends (b.publish e) [] [] where
  log := (List.append_nil _).symm
  messages := (List.append_nil _).symm
  members := (List.append_nil _).symm
  participants := (List.append_nil _).symm

theorem attends_contain (callback : EntryPoint) (crash? : Option Crash) (b : Bridge) :
    ∃ entries, b.Attends (contain callback (crash?, b)) entries [] := by
  rcases crash? with _ | crash
  · exact ⟨[], .refl b⟩
  · exact b.attends_report .error _

theorem attends_advance (b : Bridge) (e : SessionEvent) :
    ∃ entries, b.Attends (b.advance e) entries [] := by
  have hadvances := b.advance_advances e
  generalize b.advance e = b' at hadvances
  cases hadvances with
  | rejected => exact ⟨[], .refl b⟩
  | moved => exact ⟨[], attends_unseen rfl rfl rfl⟩
  | @established s =>
    obtain ⟨entries, hreport⟩ :=
      attends_report { b with state := .established s, established := b.established + 1 } .status
        ("Session " ++ s.id.text ++ " established as " ++ (SessionState.established s).name)
    have hcounted : b.Attends { b with state := .established s, established := b.established + 1 } [] [] :=
      attends_unseen rfl rfl rfl
    exact ⟨_, (hcounted.trans hreport).trans (attends_publish _ (.sessionEstablished s))⟩

/-! ### Deliveries -/

theorem attends_inbound (b : Bridge) (text : String) (code : Int32) :
    b.Attends ((b.record .inbound (.ofCode code) text).showed (.message (b.inboundEntry text code)))
      [b.inboundEntry text code] [] where
  log := Transcript.toList_append b.transcript _
  messages := by
    simp [shownMessages, showed, record, Showing.message?, inboundEntry, Transcript.place, line]
  members := (List.append_nil _).symm
  participants := by simp [shownParticipants, showed, record, Showing.participant?]

theorem attends_deliverMessage (hinstalled : b.isInstalled = true) (text : String) (code : Int32) :
    ∃ entries, b.Attends (b.deliverMessage text code) entries [] := by
  rw [deliverMessage_record, if_pos hinstalled]
  obtain ⟨entries, hcontain⟩ := attends_contain .message _
    ((b.record .inbound (.ofCode code) text).showed (.message (b.inboundEntry text code)))
  exact ⟨_, (b.attends_inbound text code).trans hcontain⟩

theorem isInstalled_deliverMessage (b : Bridge) (text : String) (code : Int32) :
    (b.deliverMessage text code).isInstalled = b.isInstalled :=
  congrArg Option.isSome (b.contains_deliverMessage text code).handlers

theorem attends_echo (echoes : List (String × Int32)) (hinstalled : b.isInstalled = true) :
    ∃ entries,
      b.Attends (echoes.foldl (fun b echo => b.deliverMessage echo.1 echo.2) b) entries [] := by
  induction echoes generalizing b with
  | nil => exact ⟨[], .refl b⟩
  | cons echo echoes ih =>
    obtain ⟨entries, hfirst⟩ := attends_deliverMessage hinstalled echo.1 echo.2
    obtain ⟨entries', hrest⟩ :=
      ih ((b.isInstalled_deliverMessage echo.1 echo.2).trans hinstalled)
    exact ⟨entries ++ entries', hfirst.trans hrest⟩

theorem Attends.introduced {p : Participant}
    (h : Attends { b with registry := b.registry.insert p } b' entries []) :
    b.Attends (b'.showed (.participant p)) entries [p] where
  log := h.log
  messages := by
    rw [shownMessages, showed, Array.toList_push, List.filterMap_append]
    exact (List.append_nil _).trans h.messages
  members := h.members.trans ((List.append_nil _).trans (Registry.toList_insert _ _))
  participants := by
    rw [shownParticipants, showed, Array.toList_push, List.filterMap_append]
    exact congrArg (· ++ [p]) (h.participants.trans (List.append_nil _))

theorem attends_greeted (hinstalled : b.isInstalled = true) (p : Participant) :
    ∃ entries, b.Attends ((b.greeted p).showed (.participant p)) entries [p] := by
  obtain ⟨before, hreport⟩ := attends_report { b with registry := b.registry.insert p } .status
    (p.name ++ " joined")
  obtain ⟨own, hecho⟩ := attends_echo (b := b.enroll p) (b.ownMessages p) hinstalled
  exact ⟨_, ((hreport.trans (attends_publish _ (.participantJoined p))).trans hecho).introduced⟩

theorem attends_deliverParticipant (hinstalled : b.isInstalled = true) (name : String) :
    ∃ entries joined, b.Attends (b.deliverParticipant name) entries joined := by
  cases hknown : b.registry.contains name with
  | true =>
    rw [deliverParticipant_known hknown]
    obtain ⟨entries, hadvance⟩ := b.attends_advance .participantJoined
    exact ⟨entries, [], hadvance⟩
  | false =>
    obtain ⟨entries, hgreeted⟩ := attends_greeted hinstalled ⟨name, b.clock⟩
    rw [deliverParticipant_greeted hknown, if_pos hinstalled]
    rcases b.crashOn? (.participant ⟨name, b.clock⟩) with _ | crash
    · obtain ⟨_, hadvance⟩ := attends_advance _ .participantJoined
      exact ⟨_, _, hgreeted.trans hadvance⟩
    · obtain ⟨_, hreport⟩ := attends_report _ .error _
      exact ⟨_, _, hgreeted.trans hreport⟩

theorem shown_deliverParticipant_bare (hbare : b.handlers = none) (name : String) :
    (b.deliverParticipant name).shown = b.shown := by
  cases hknown : b.registry.contains name with
  | true =>
    rw [deliverParticipant_known hknown]
    exact b.shown_advance _
  | false =>
    rw [deliverParticipant_bare hbare hknown, shown_advance]
    rfl

/-! ### Reading the calls off -/

/-- Behind the first bridge the handlers were called with what came from the bus and with nothing else:
with the entries as they are stored, in the order of the log, and with the participants as they are
registered, in the order of the registry. -/
structure Witnessed (b b' : Bridge) : Prop where
  messages :
    b'.shownMessages = (b'.transcript.since b.transcript.size).filter (·.origin = .inbound)
  stored : ∀ e ∈ b'.shownMessages, b'.transcript.toList[e.sequence]? = some e
  participants : b'.shownParticipants = b'.registry.toList.drop b.registry.size
  once : (b'.shownParticipants.map Participant.name).Nodup

theorem Attends.witnessed (h : b.Attends b' entries joined) (hbefore : b.shown = #[])
    (hdense : b'.transcript.Dense) (hindexed : b'.registry.Indexed) : b.Witnessed b' := by
  have hmessages :
      b'.shownMessages = (b'.transcript.since b.transcript.size).filter (·.origin = .inbound) := by
    rw [h.messages, Transcript.since, h.log, List.drop_left' b.transcript.length_toList]
    simp [shownMessages, hbefore]
  have hparticipants : b'.shownParticipants = b'.registry.toList.drop b.registry.size := by
    rw [h.participants, h.members, List.drop_left' (by simp [Registry.toList, Registry.size])]
    simp [shownParticipants, hbefore]
  refine ⟨hmessages, ?_, hparticipants, ?_⟩
  · intro e hmem
    rw [hmessages] at hmem
    have hlogged : e ∈ b'.transcript.toList := List.mem_of_mem_drop (List.mem_filter.mp hmem).1
    obtain ⟨i, hi⟩ := List.mem_iff_getElem?.mp hlogged
    rw [hdense i e hi]
    exact hi
  · rw [hparticipants, List.map_drop]
    exact hindexed.nodup.sublist (List.drop_sublist _ _)

end Bridge

end SessionBridge
