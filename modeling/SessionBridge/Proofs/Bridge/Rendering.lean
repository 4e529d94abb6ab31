import Std.Data.String.ToInt
import SessionBridge.Proofs.Bridge.Containment

/-! What a rendered line tells. The number in front of a line holds no colon, so the first colon ends it, and
what stands behind is the text as it is, even if it looks like the front of another line. Different numbers
are written differently, and the number of a kind is the one it was delivered with. -/
namespace SessionBridge

namespace Text

/-! ### Decimal numbers -/

theorem decimal_eq_repr (i : Int) : decimal i = i.repr := by
  cases i with
  | ofNat n => exact Nat.repr_eq_ofList_toDigits.symm
  | negSucc n =>
    rw [← String.toList_inj]
    simp [decimal, decimalDigits, digits, Int.repr, Nat.repr_eq_ofList_toDigits]

theorem toInt?_decimal (i : Int) : (decimal i).toInt? = some i := by
  rw [decimal_eq_repr, Int.toInt?_repr]

theorem decimal_eq_sign_append (i : Int) :
    decimal i = (if i < 0 then "-" else "") ++ String.ofList (Nat.toDigits 10 i.natAbs) := by
  rw [← String.toList_inj]
  cases i with
  | ofNat n => simp [decimal, decimalDigits, digits]
  | negSucc n => simp [decimal, decimalDigits, digits, Int.negSucc_lt_zero]

theorem colon_not_mem_decimal (i : Int) : ':' ∉ (decimal i).toList := by
  have hdigits (n : Nat) : ':' ∉ digits n := fun hmem => absurd (isDigit_of_mem_digits hmem) (by decide)
  rw [decimal, String.toList_ofList]
  cases i with
  | ofNat n => exact hdigits n
  | negSucc n => exact List.not_mem_cons_of_ne_of_not_mem (by decide) (hdigits (n + 1))

/-! ### The first colon -/

def cutAtColon? (s : String) : Option (String × String) :=
  match s.toList.dropWhile (· ≠ ':') with
  | [] => none
  | _ :: back => some (String.ofList (s.toList.takeWhile (· ≠ ':')), String.ofList back)

theorem cutAtColon?_append {front : String} (h : ':' ∉ front.toList) (back : String) :
    cutAtColon? (front ++ ":" ++ back) = some (front, back) := by
  have hfront : ∀ c ∈ front.toList, decide (c ≠ ':') = true := fun _ hmem =>
    decide_eq_true (ne_of_mem_of_not_mem hmem h)
  unfold cutAtColon?
  rw [String.toList_append, String.toList_append, List.append_assoc, List.dropWhile_append_of_pos hfront,
    List.takeWhile_append_of_pos hfront]
  simp

end Text

/-! ### Kinds -/

structure InformType.Names (code : Int32) (kind : InformType) : Prop where
  error : kind = .error ↔ code = 0
  remote : kind = .remote ↔ code = 1
  status : kind = .status ↔ code = 2
  system : kind = .system ↔ code = 3
  other : ∀ kept, kind = .other kept ↔ kept = code ∧ code ∉ [0, 1, 2, 3]

theorem InformType.names_ofCode (code : Int32) : Names code (ofCode code) := by
  unfold ofCode
  constructor <;> split_ifs <;> simp_all [eq_comm]

/-! ### Lines -/

namespace Entry

def read? (rendered : String) : Option (Int × String) := do
  let (front, text) ← Text.cutAtColon? rendered
  some (← front.toInt?, text)

variable {e e' : Entry}

theorem cutAtColon?_render (e : Entry) :
    Text.cutAtColon? e.render = some (Text.decimal e.kind.code.toInt, e.text) :=
  Text.cutAtColon?_append (Text.colon_not_mem_decimal _) e.text

theorem read?_render (e : Entry) : read? e.render = some (e.kind.code.toInt, e.text) := by
  unfold read?
  rw [e.cutAtColon?_render, Option.bind_eq_bind, Option.bind_some]
  dsimp only
  rw [Text.toInt?_decimal]
  rfl

theorem render_inj : e.render = e'.render ↔ e.kind.code = e'.kind.code ∧ e.text = e'.text := by
  constructor
  · intro h
    have hread := e.read?_render
    rw [h, e'.read?_render] at hread
    obtain ⟨hcode, htext⟩ := Prod.mk.inj (Option.some.inj hread)
    exact ⟨Int32.toInt_inj.mp hcode.symm, htext.symm⟩
  · rintro ⟨hcode, htext⟩
    unfold render Line.render
    rw [hcode, htext]

end Entry

namespace Bridge

theorem extends_deliverMessage (b : Bridge) (text : String) (code : Int32) :
    (b.record .inbound (.ofCode code) text).journal.Extends (b.deliverMessage text code).journal :=
  (steady_extends _).showMessage _ (.refl _)

theorem getElem?_deliverMessage (b : Bridge) (text : String) (code : Int32) :
    (b.deliverMessage text code).transcript.toList[b.transcript.size]? =
      some (b.inboundEntry text code) := by
  obtain ⟨later, hlater⟩ := (b.extends_deliverMessage text code).transcript
  have hrecorded : (b.record .inbound (.ofCode code) text).transcript.toList =
      b.transcript.toList ++ [b.inboundEntry text code] :=
    Transcript.toList_append b.transcript _
  rw [transcript, ← hlater]
  change ((b.record .inbound (.ofCode code) text).transcript.toList ++ later)[_]? = _
  rw [hrecorded, ← Transcript.length_toList, List.append_assoc,
    List.getElem?_append_right (Nat.le_refl _), Nat.sub_self]
  rfl

theorem render_inboundEntry (b : Bridge) (text : String) (code : Int32) :
    (b.inboundEntry text code).render =
      (if code < 0 then "-" else "") ++ String.ofList (Nat.toDigits 10 code.toInt.natAbs) ++ ":" ++ text := by
  change Text.decimal (InformType.ofCode code).code.toInt ++ ":" ++ text = _
  rw [InformType.code_ofCode, Text.decimal_eq_sign_append]
  simp only [Int32.lt_iff_toInt_lt, Int32.toInt_zero]

/-- Rendered lines. A message with a code, delivered directly or decoded from whatever native text, is stored
next, and its entry renders as the code in decimal, with a minus sign if it is negative, a colon and the text.
The first colon of any rendered entry has exactly the number of its kind in front of it and its text behind
it. So two entries render alike exactly if their codes and their texts are the same, whatever is in the texts;
and the code that is read off gives the kind of a stored message: a named one from 0 to 3, and else the number
itself. -/
theorem rendered_lines_tell_code_and_text :
    (∀ (b : Bridge) (text : String) (code : Int32),
      (b.deliverMessage text code).transcript.toList[b.transcript.size]? =
        some (b.inboundEntry text code) ∧
      (b.inboundEntry text code).render = (if code < 0 then "-" else "") ++
        String.ofList (Nat.toDigits 10 code.toInt.natAbs) ++ ":" ++ text ∧
      Entry.read? (b.inboundEntry text code).render = some (code.toInt, text) ∧
      InformType.Names code (b.inboundEntry text code).kind) ∧
    (∀ (b : Bridge) (native : NativeText) (text : String) (code : Int32),
      native.decode EntryPoint.message.name EntryPoint.message.argument = .ok text →
      b.receive (.message true native code) = b.deliverMessage text code) ∧
    (∀ e : Entry, Text.cutAtColon? e.render = some (Text.decimal e.kind.code.toInt, e.text) ∧
      Entry.read? e.render = some (e.kind.code.toInt, e.text)) ∧
    ∀ e e' : Entry, e.render = e'.render ↔ e.kind.code = e'.kind.code ∧ e.text = e'.text := by
  refine ⟨fun b text code => ?_, fun b native text code hdecode => receive_decoded hdecode b code,
    fun e => ⟨e.cutAtColon?_render, e.read?_render⟩, fun e e' => Entry.render_inj⟩
  have hread := (b.inboundEntry text code).read?_render
  rw [show (b.inboundEntry text code).kind.code = code from InformType.code_ofCode code] at hread
  exact ⟨b.getElem?_deliverMessage text code, b.render_inboundEntry text code, hread,
    InformType.names_ofCode code⟩

theorem rendered_lines_tell_code_and_text_least :
    let b := start ⟨1, #[]⟩ ⟨0⟩ "noon"
    let native : NativeText := ⟨some (Utf8.ofString "-7:\n:1\x00"), 7⟩
    native.decode EntryPoint.message.name EntryPoint.message.argument = .ok "-7:\n:1" ∧
      b.receive (.message true native Int32.minValue) = b.deliverMessage "-7:\n:1" Int32.minValue ∧
      ((b.receive (.message true native Int32.minValue)).transcript.toList[1]?).map Entry.render =
        some "-2147483648:-7:\n:1" ∧
      Entry.read? "-2147483648:-7:\n:1" = some (-2147483648, "-7:\n:1") := by
  intro b native
  have hdecode : native.decode EntryPoint.message.name EntryPoint.message.argument = .ok "-7:\n:1" := by
    decide +kernel
  obtain ⟨hstored, hnative, -, -⟩ := rendered_lines_tell_code_and_text
  obtain ⟨hplace, hrender, hread, -⟩ := hstored b "-7:\n:1" Int32.minValue
  have hline : (b.inboundEntry "-7:\n:1" Int32.minValue).render = "-2147483648:-7:\n:1" := by
    rw [hrender]
    decide +kernel
  have hreceive := hnative b native "-7:\n:1" Int32.minValue hdecode
  refine ⟨hdecode, hreceive, ?_, ?_⟩
  · rw [hreceive]
    exact (congrArg (Option.map Entry.render) hplace).trans (congrArg some hline)
  · rw [← hline]
    exact hread

end Bridge

end SessionBridge
