import SessionBridge.Proofs.Session.Trail
import SessionBridge.Proofs.Text.Quoting

/-! The texts of events in the audit trail and in rejections. The first characters of a text tell the kind
of the event, and whatever somebody has chosen stands behind them in quotation marks that nothing inside can
close. So each text has one reading, and a name, a handle or a reason cannot pass for anything else. -/
namespace SessionBridge

def eventText : Except Rejection Transition → String
  | .ok t => t.audit.event
  | .error r => r.event

theorem SessionMode.name_append_inj {m m' : SessionMode} {rest rest' : List Char}
    (h : m.name.toList ++ rest = m'.name.toList ++ rest') : m = m' ∧ rest = rest' := by
  cases m <;> cases m' <;> simp [SessionMode.name] at h
  · exact ⟨rfl, h⟩
  · exact ⟨rfl, h⟩

namespace SessionEvent

/-! ### Characters of a text -/

theorem toList_connect (mode : SessionMode) (sessionName handle : String) :
    (connect mode sessionName handle).text.toList =
      "Connect \x7b mode: ".toList ++ (mode.name.toList ++ (", session_name: ".toList ++
        ((Text.quote sessionName).toList ++ (", handle: ".toList ++
          ((Text.quote handle).toList ++ " \x7d".toList))))) := by
  change String.toList (_ ++ _) = _
  simp only [String.toList_append, List.append_assoc]

theorem toList_nativeAccepted (id : SessionId) :
    (nativeAccepted id).text.toList =
      "NativeAccepted \x7b session_id: SessionId(".toList ++
        (Text.digits id.value.toNat ++ ") \x7d".toList) := by
  change String.toList (_ ++ _ ++ _) = _
  simp only [String.toList_append, List.append_assoc]
  congr 2
  exact String.toList_ofList

theorem toList_connectFailed (reason : String) :
    (connectFailed reason).text.toList =
      "ConnectFailed \x7b reason: ".toList ++ ((Text.quote reason).toList ++ " \x7d".toList) := by
  change String.toList (_ ++ _ ++ _) = _
  simp only [String.toList_append, List.append_assoc]

/-! ### Kinds -/

def Kind.mark : Kind → List Char
  | .connect => "Connect ".toList
  | .nativeAccepted => "NativeAc".toList
  | .connectFailed => "ConnectF".toList
  | .participantJoined => "Particip".toList
  | .disconnect => "Disconne".toList

theorem take_toList_text (e : SessionEvent) : e.text.toList.take 8 = e.kind.mark := by
  cases e with
  | connect mode sessionName handle =>
    rw [toList_connect, List.take_append_of_le_length (by decide)]
    rfl
  | nativeAccepted id =>
    rw [toList_nativeAccepted, List.take_append_of_le_length (by decide)]
    rfl
  | connectFailed reason =>
    rw [toList_connectFailed, List.take_append_of_le_length (by decide)]
    rfl
  | participantJoined => rfl
  | disconnect => rfl

theorem Kind.mark_inj {k k' : Kind} (h : k.mark = k'.mark) : k = k' := by
  cases k <;> cases k' <;> first | rfl | exact absurd h (by decide)

theorem kind_eq_of_text_eq {e e' : SessionEvent} (h : e.text = e'.text) : e.kind = e'.kind := by
  refine Kind.mark_inj ?_
  rw [← take_toList_text, ← take_toList_text, h]

/-! ### What an event carries -/

theorem connect_eq_of_text_eq {m m' : SessionMode} {s s' t t' : String}
    (h : (connect m s t).text = (connect m' s' t').text) : connect m s t = connect m' s' t' := by
  have hchars := congrArg String.toList h
  rw [toList_connect, toList_connect] at hchars
  obtain ⟨rfl, hname⟩ := SessionMode.name_append_inj (List.append_cancel_left hchars)
  obtain ⟨rfl, hhandle⟩ := Text.quote_append_inj (List.append_cancel_left hname)
  obtain ⟨rfl, -⟩ := Text.quote_append_inj (List.append_cancel_left hhandle)
  rfl

theorem nativeAccepted_eq_of_text_eq {id id' : SessionId}
    (h : (nativeAccepted id).text = (nativeAccepted id').text) :
    nativeAccepted id = nativeAccepted id' := by
  have hchars := congrArg String.toList h
  rw [toList_nativeAccepted, toList_nativeAccepted] at hchars
  obtain ⟨hnumber, -⟩ := Text.digits_append_inj (c := ')') rfl (List.append_cancel_left hchars)
  exact congrArg (nativeAccepted ⟨·⟩) (UInt32.toNat_inj.mp hnumber)

theorem connectFailed_eq_of_text_eq {r r' : String}
    (h : (connectFailed r).text = (connectFailed r').text) : connectFailed r = connectFailed r' := by
  have hchars := congrArg String.toList h
  rw [toList_connectFailed, toList_connectFailed] at hchars
  obtain ⟨rfl, -⟩ := Text.quote_append_inj (List.append_cancel_left hchars)
  rfl

theorem text_inj {e e' : SessionEvent} (h : e.text = e'.text) : e = e' := by
  have hkind := kind_eq_of_text_eq h
  cases e with
  | connect mode sessionName handle =>
    cases e' with
    | connect mode' sessionName' handle' => exact connect_eq_of_text_eq h
    | _ => cases hkind
  | nativeAccepted id =>
    cases e' with
    | nativeAccepted id' => exact nativeAccepted_eq_of_text_eq h
    | _ => cases hkind
  | connectFailed reason =>
    cases e' with
    | connectFailed reason' => exact connectFailed_eq_of_text_eq h
    | _ => cases hkind
  | participantJoined =>
    cases e' with
    | participantJoined => rfl
    | _ => cases hkind
  | disconnect =>
    cases e' with
    | disconnect => rfl
    | _ => cases hkind

end SessionEvent

namespace SessionState

theorem eventText_transition (now : Timestamp) (s : SessionState) (e : SessionEvent) :
    eventText (s.transition now e) = e.text := by
  rcases answers s now e with ⟨t, ht, haccepted⟩ | ⟨r, hr, hrefused⟩
  · rw [ht]
    exact haccepted.event
  · rw [hr]
    exact hrefused.event

/-- Whatever the states, the times and the outcomes, two events are recorded with the same text only if
they are the same event: of one kind, with the same mode, id, names, handles and reasons in it, character
for character. -/
theorem event_texts_are_unambiguous (s s' : SessionState) (now now' : Timestamp) (e e' : SessionEvent) :
    eventText (s.transition now e) = eventText (s'.transition now' e') ↔ e = e' := by
  rw [eventText_transition, eventText_transition]
  exact ⟨SessionEvent.text_inj, congrArg SessionEvent.text⟩

/-- A name that closes its quotation marks and goes on with a handle of its own is not believed. -/
example :
    eventText (disconnected.transition ⟨0⟩ (.connect .owner "lobby\", handle: \"ann" "bob")) =
      "Connect \x7b mode: Owner, session_name: \"lobby\\\", handle: \\\"ann\", handle: \"bob\" \x7d" := by
  decide +kernel

end SessionState

end SessionBridge
