import Mathlib.Algebra.Group.Int.Defs
import Mathlib.Algebra.Group.Nat.Defs
import SessionBridge.Proofs.Bridge.Ways

/-! What comes of the bytes of a long text. Their number is passed on as a size with a sign, so it wraps around.
Every second time it comes out negative, which is a fault and noticed; every other time it comes out short, and
what it does not count is lost without a word, unless the text was over before. -/
namespace SessionBridge

/-- What a bus holds: the bytes of a message with the code of its kind, or those of somebody's name. -/
inductive Parcel where
  | message (bytes : List UInt8) (code : Int32)
  | participant (bytes : List UInt8)

namespace Parcel

def bytes : Parcel → List UInt8
  | message bytes _ => bytes
  | participant bytes => bytes

def text (p : Parcel) : NativeText :=
  .ofBytes p.bytes

def callback : Parcel → Callback
  | message bytes code => .message true (.ofBytes bytes) code
  | participant bytes => .participant true (.ofBytes bytes)

def entryPoint : Parcel → EntryPoint
  | message .. => .message
  | participant _ => .participant

def take (n : Nat) : Parcel → Parcel
  | message bytes code => message (bytes.take n) code
  | participant bytes => participant (bytes.take n)

def delivery : Parcel → Delivery
  | message bytes code => .message (String.ofList (Utf8.decodeLossy (NativeText.untilZero bytes))) code
  | participant bytes => .participant (String.ofList (Utf8.decodeLossy (NativeText.untilZero bytes)))

def count (p : Parcel) : Nat :=
  p.bytes.length % 2 ^ 32

def size (p : Parcel) : Int32 :=
  p.text.size

theorem text_bytes (p : Parcel) : p.text.bytes = some p.bytes :=
  rfl

theorem bytes_take (p : Parcel) (n : Nat) : (p.take n).bytes = p.bytes.take n := by
  cases p <;> rfl

theorem take_length (p : Parcel) : p.take p.bytes.length = p := by
  cases p with
  | message bytes code => exact congrArg (message · code) List.take_length
  | participant bytes => exact congrArg participant List.take_length

theorem count_message (bytes : List UInt8) (code : Int32) :
    (message bytes code).count = bytes.length % 2 ^ 32 :=
  rfl

/-! ### The size -/

variable {p : Parcel}

theorem toInt_size (p : Parcel) :
    p.size.toInt = if p.count < 2 ^ 31 then (p.count : Int) else p.count - 2 ^ 32 := by
  rw [size, text, NativeText.ofBytes, Int32.toInt_ofNat', show Int32.size = 2 ^ 32 from rfl, Int.bmod_def]
  unfold count
  split_ifs <;> omega

theorem size_neg_iff : p.size < 0 ↔ 2 ^ 31 ≤ p.count := by
  have hcount : p.count < 2 ^ 32 := Nat.mod_lt _ (by decide)
  rw [Int32.lt_iff_toInt_lt, toInt_size, Int32.toInt_zero]
  split <;> omega

theorem size_of_lt (h : p.count < 2 ^ 31) : p.size.toInt.toNat = p.count := by
  rw [toInt_size, if_pos h, Int.toNat_natCast]

end Parcel

/-! ### Zero bytes -/

namespace NativeText

variable {bytes : List UInt8}

theorem untilZero_take (n : Nat) (bytes : List UInt8) :
    untilZero (bytes.take n) = (untilZero bytes).take n :=
  List.take_takeWhile.symm

theorem length_untilZero_le_iff (bytes : List UInt8) (n : Nat) :
    (untilZero bytes).length ≤ n ↔ bytes.length ≤ n ∨ 0 ∈ bytes.take (n + 1) := by
  induction bytes generalizing n with
  | nil => simp [untilZero]
  | cons b bytes ih =>
    rcases eq_or_ne b 0 with rfl | hb
    · simp [untilZero]
    · have hcons : untilZero (b :: bytes) = b :: untilZero bytes :=
        List.takeWhile_cons_of_pos (decide_eq_true hb)
      rw [hcons]
      cases n with
      | zero => simp [hb.symm]
      | succ n => simpa [hb.symm] using ih n

theorem untilZero_take_eq_iff {n : Nat} :
    untilZero (bytes.take n) = untilZero bytes ↔ bytes.length ≤ n ∨ 0 ∈ bytes.take (n + 1) := by
  rw [untilZero_take, List.take_eq_self_iff, length_untilZero_le_iff]

end NativeText

/-! ### Parcels on their way -/

namespace Bridge

variable {b : Bridge} {p : Parcel}

/-- A parcel gets through up to its first zero byte, or a fault is all that is recorded. -/
def WholeOrFault (b : Bridge) (p : Parcel) : Prop :=
  b.receive p.callback = b.deliver p.delivery ∨ ∃ fault, b.receive p.callback = b.recordFault fault

theorem receive_high (h : 2 ^ 31 ≤ p.count) (b : Bridge) :
    b.receive p.callback = b.recordFault (.negativeSize p.entryPoint.name p.size) := by
  have hsize := Parcel.size_neg_iff.mpr h
  have hdecode := NativeText.decode_negative p.text_bytes hsize p.entryPoint.name p.entryPoint.argument
  cases p with
  | message bytes code =>
    exact receive_unreadable (show (Parcel.message bytes code).callback.hasContext = true from rfl) hdecode b
  | participant bytes =>
    exact receive_unreadable (show (Parcel.participant bytes).callback.hasContext = true from rfl) hdecode b

theorem receive_low (h : p.count < 2 ^ 31) (b : Bridge) :
    b.receive p.callback = b.deliver (p.take p.count).delivery := by
  have hsize : ¬p.size < 0 := fun hneg => Nat.not_le.mpr h (Parcel.size_neg_iff.mp hneg)
  rw [← Parcel.size_of_lt h]
  cases p with
  | message bytes code => exact receive_message (Parcel.message bytes code).text_bytes hsize b
  | participant bytes => exact receive_named (Parcel.participant bytes).text_bytes hsize b

/-- The bytes of a text or a name, on their way to a bridge through a callback table. If their number, as far as
32 bits hold it, has the sign bit, then one fault is recorded and nothing delivered. Otherwise that many bytes
are delivered, up to a zero byte; these are all in front of the first zero byte exactly if the bytes are fewer
than two to the thirty-first, or a zero byte comes no later than right behind them. So below two to the
thirty-second nothing is lost without a fault. -/
theorem long_texts_are_cut (b : Bridge) (p : Parcel) :
    (2 ^ 31 ≤ p.count →
      b.receive p.callback = b.recordFault (.negativeSize p.entryPoint.name p.size) ∧
      p.size.toInt = p.count - 2 ^ 32) ∧
    (p.count < 2 ^ 31 →
      b.receive p.callback = b.deliver (p.take p.count).delivery ∧
      NativeText.untilZero (p.take p.count).bytes <+: NativeText.untilZero p.bytes ∧
      (NativeText.untilZero (p.take p.count).bytes = NativeText.untilZero p.bytes ↔
        p.bytes.length < 2 ^ 31 ∨ 0 ∈ p.bytes.take (p.count + 1))) ∧
    (p.bytes.length < 2 ^ 32 → b.WholeOrFault p) := by
  refine ⟨fun h => ⟨receive_high h b, ?_⟩, fun h => ⟨receive_low h b, ?_, ?_⟩, fun h => ?_⟩
  · rw [Parcel.toInt_size, if_neg (Nat.not_lt.mpr h)]
  · rw [Parcel.bytes_take, NativeText.untilZero_take]
    exact List.take_prefix _ _
  · have hall : p.bytes.length ≤ p.count ↔ p.bytes.length < 2 ^ 31 := by
      unfold Parcel.count at *
      omega
    rw [Parcel.bytes_take, NativeText.untilZero_take_eq_iff, hall]
  · have hcount : p.count = p.bytes.length := Nat.mod_eq_of_lt h
    rcases Nat.lt_or_ge p.count (2 ^ 31) with hlow | hhigh
    · refine .inl ?_
      rw [receive_low hlow, hcount, p.take_length]
    · exact .inr ⟨_, receive_high hhigh b⟩

theorem long_texts_are_cut_faulting :
    let b := start ⟨1, #[]⟩ ⟨0⟩ "noon"
    let text := Parcel.message (List.replicate 2147483648 97) 1
    let name := Parcel.participant [98, 111, 98, 0, 120]
    2 ^ 31 ≤ text.count ∧ b.receive text.callback = b.recordFault (.negativeSize text.entryPoint.name text.size) ∧
      name.count < 2 ^ 31 ∧ b.receive name.callback = b.deliverParticipant "bob" := by
  intro b text name
  have hcount : text.count = 2147483648 % 2 ^ 32 := by
    rw [Parcel.count_message, List.length_replicate]
  have htext : 2 ^ 31 ≤ text.count := calc
    2 ^ 31 ≤ 2147483648 % 2 ^ 32 := by decide
    _ = text.count := hcount.symm
  have hname : name.count < 2 ^ 31 := by decide
  obtain ⟨hfault, -, -⟩ := long_texts_are_cut b text
  obtain ⟨-, hcut, -⟩ := long_texts_are_cut b name
  refine ⟨htext, (hfault htext).1, hname, (hcut hname).1.trans ?_⟩
  have hbob : (name.take name.count).delivery = .participant "bob" := by decide
  rw [hbob]
  rfl

/-! ### Beyond two to the thirty-second -/

theorem deliverMessage_inj {text text' : String} {code : Int32}
    (h : b.deliverMessage text code = b.deliverMessage text' code) : text = text' := by
  have hlines := (b.takesMessage text code).lines.symm.trans
    ((congrArg lines h).trans (b.takesMessage text' code).lines)
  obtain ⟨hline, -⟩ := List.cons_eq_cons.mp (List.append_cancel_left hlines)
  exact congrArg Line.text hline

theorem deliverMessage_ne_recordFault (b : Bridge) (text : String) (code : Int32) (f : CallbackFault) :
    b.deliverMessage text code ≠ b.recordFault f := by
  intro h
  have hlines := (b.takesMessage text code).lines.symm.trans
    ((congrArg lines h).trans (lines_report b .error f.message))
  obtain ⟨hline, -⟩ := List.cons_eq_cons.mp (List.append_cancel_left hlines)
  have horigin : Origin.inbound = .system := congrArg Line.origin hline
  cases horigin

theorem decodeLossy_run (n : Nat) :
    Utf8.decodeLossy (NativeText.untilZero (List.replicate n 97)) = List.replicate n 'a' := by
  have hrun : List.replicate n 97 = Utf8.encode (List.replicate n 'a') := by
    induction n with
    | zero => rfl
    | succ n ih =>
      rw [List.replicate_succ, List.replicate_succ, Utf8.encode_cons, ih]
      rfl
  have hzero : (0 : UInt8) ∉ List.replicate n 97 := by simp
  rw [NativeText.untilZero_eq_self hzero, hrun, Utf8.decodeLossy_encode]

theorem run_is_cut {n : Nat} {code : Int32} (hlow : n % 2 ^ 32 < 2 ^ 31) (hlong : n % 2 ^ 32 < n) (b : Bridge) :
    b.receive (Parcel.message (List.replicate n 97) code).callback =
        b.deliverMessage (String.ofList (List.replicate (n % 2 ^ 32) 'a')) code ∧
      ¬b.WholeOrFault (.message (List.replicate n 97) code) := by
  have hcount : (Parcel.message (List.replicate n 97) code).count = n % 2 ^ 32 := by
    rw [Parcel.count_message, List.length_replicate]
  have hreceive : b.receive (Parcel.message (List.replicate n 97) code).callback =
      b.deliverMessage (String.ofList (List.replicate (n % 2 ^ 32) 'a')) code := by
    rw [receive_low (hcount ▸ hlow), hcount, Parcel.take, List.take_replicate, Nat.min_eq_left hlong.le,
      Parcel.delivery, decodeLossy_run]
    rfl
  refine ⟨hreceive, ?_⟩
  rintro (hwhole | ⟨f, hfault⟩)
  · rw [hreceive, Parcel.delivery, decodeLossy_run] at hwhole
    have hlists := String.ofList_injective (deliverMessage_inj hwhole)
    have hlengths := congrArg List.length hlists
    rw [List.length_replicate, List.length_replicate] at hlengths
    omega
  · exact deliverMessage_ne_recordFault b _ code f (hreceive.symm.trans hfault)

/-- Five letters more than four gibibytes arrive as five letters. -/
theorem five_letters_arrive :
    let b := start ⟨1, #[]⟩ ⟨0⟩ "noon"
    let text := Parcel.message (List.replicate 4294967301 97) 1
    b.receive text.callback = b.deliverMessage "aaaaa" 1 ∧ ¬b.WholeOrFault text := by
  intro b text
  exact run_is_cut (n := 4294967301) (by decide) (by decide) b

end Bridge

end SessionBridge
