import SessionBridge.Proofs.Bridge.Decoding

/-! The two ways into a bridge. What a bus passes on through a callback table arrives as bytes with a size
and is decoded; what is delivered directly arrives as it is. Decoding gives back what was encoded, up to the
first zero character, so a bridge cannot tell the two ways apart. -/
namespace SessionBridge

/-! ### Texts on their way -/

def upToZero (s : String) : String :=
  String.ofList (s.toList.takeWhile (· ≠ '\x00'))

theorem upToZero_eq_self {s : String} (h : '\x00' ∉ s.toList) : upToZero s = s := by
  have hall : ∀ c ∈ s.toList, decide (c ≠ '\x00') = true := fun _ hmem =>
    decide_eq_true (ne_of_mem_of_not_mem hmem h)
  rw [upToZero, List.takeWhile_eq_self_iff.mpr hall, String.ofList_toList]

namespace NativeText

theorem untilZero_encode (cs : List Char) :
    untilZero (Utf8.encode cs) = Utf8.encode (cs.takeWhile (· ≠ '\x00')) := by
  induction cs with
  | nil => rfl
  | cons c cs ih =>
    rw [Utf8.encode_cons]
    by_cases hc : c = '\x00'
    · subst hc
      rfl
    · rw [untilZero_append (mt Utf8.zero_mem_encodeChar_iff.mp hc), ih, List.takeWhile_cons_of_pos,
        Utf8.encode_cons]
      exact decide_eq_true hc

def maxSize : Nat := 2147483647

theorem size_ofString {s : String} (h : s.utf8ByteSize ≤ maxSize) :
    (ofString s).size.toInt = (Utf8.ofString s).length := by
  rw [← Utf8.length_ofString] at h
  exact Int32.toInt_ofNat_of_lt (Nat.lt_succ_of_le h)

theorem content_ofString {s : String} (h : s.utf8ByteSize ≤ maxSize) :
    content (Utf8.ofString s) (ofString s).size = upToZero s := by
  change String.ofList (Utf8.decodeLossy (counted (Utf8.ofString s) (ofString s).size)) = _
  rw [counted_of_size (size_ofString h), Utf8.ofString, untilZero_encode, Utf8.decodeLossy_encode, upToZero]

end NativeText

/-! ### Arrivals -/

inductive Delivery where
  | message (text : String) (code : Int32)
  | participant (name : String)
  deriving DecidableEq

namespace Delivery

def text : Delivery → String
  | message text _ => text
  | participant name => name

def upToZero : Delivery → Delivery
  | message text code => message (SessionBridge.upToZero text) code
  | participant name => participant (SessionBridge.upToZero name)

def callback : Delivery → Callback
  | message text code => .ofMessage text code
  | participant name => .ofParticipant name

/-- A text that a size can count, without zero characters. -/
structure Plain (d : Delivery) : Prop where
  short : d.text.utf8ByteSize ≤ NativeText.maxSize
  nonzero : '\x00' ∉ d.text.toList

theorem Plain.upToZero {d : Delivery} (h : d.Plain) : d.upToZero = d := by
  cases d with
  | message text code => exact congrArg (message · code) (upToZero_eq_self h.nonzero)
  | participant name => exact congrArg participant (upToZero_eq_self h.nonzero)

end Delivery

/-- The two ways: through a callback table or without one. -/
inductive Way where
  | native
  | direct
  deriving DecidableEq

structure Arrival where
  clock : Timestamp
  delivery : Delivery
  deriving DecidableEq

namespace Bridge

def deliver (b : Bridge) : Delivery → Bridge
  | .message text code => b.deliverMessage text code
  | .participant name => b.deliverParticipant name

def arrive (b : Bridge) (way : Way) (a : Arrival) : Bridge :=
  match way with
  | .native => { b with clock := a.clock }.receive a.delivery.callback
  | .direct => { b with clock := a.clock }.deliver a.delivery

def play (b : Bridge) (mix : List (Way × Arrival)) : Bridge :=
  mix.foldl (fun b a => b.arrive a.1 a.2) b

theorem receive_callback {d : Delivery} (h : d.text.utf8ByteSize ≤ NativeText.maxSize) (b : Bridge) :
    b.receive d.callback = b.deliver d.upToZero := by
  have hreadable := NativeText.readable_of_size rfl (NativeText.size_ofString h)
  cases d with
  | message text code =>
    exact (receive_message rfl hreadable.size_not_neg b).trans
      (by rw [NativeText.content_ofString h]; rfl)
  | participant name =>
    exact (receive_named rfl hreadable.size_not_neg b).trans
      (by rw [NativeText.content_ofString h]; rfl)

theorem arrive_plain (b : Bridge) (way : Way) {a : Arrival} (h : a.delivery.Plain) :
    b.arrive way a = { b with clock := a.clock }.deliver a.delivery := by
  cases way with
  | native => exact (receive_callback h.short _).trans (congrArg _ h.upToZero)
  | direct => rfl

theorem play_plain (b : Bridge) {mix : List (Way × Arrival)} (h : ∀ a ∈ mix, a.2.delivery.Plain) :
    b.play mix =
      (mix.map Prod.snd).foldl (fun b a => { b with clock := a.clock }.deliver a.delivery) b := by
  induction mix generalizing b with
  | nil => rfl
  | cons a mix ih =>
    obtain ⟨hfirst, hrest⟩ := List.forall_mem_cons.mp h
    rw [play, List.foldl_cons, b.arrive_plain a.1 hfirst]
    exact ih _ hrest

/-- What a bridge becomes when the bytes of a text that a size can count are passed on through a callback
table is what it becomes when the part of the text in front of its first zero character is delivered
directly, in a native call as well as outside of one. Deliveries without zero characters come to the same,
whichever way each of them takes. -/
theorem native_agrees_with_direct (b : Bridge) :
    (∀ (s : String) (code : Int32), s.utf8ByteSize ≤ NativeText.maxSize →
      b.receive (.ofMessage s code) = b.deliverMessage (upToZero s) code) ∧
    (∀ s : String, s.utf8ByteSize ≤ NativeText.maxSize →
      b.receive (.ofParticipant s) = b.deliverParticipant (upToZero s)) ∧
    (∀ (β : Type) (w : World β) (attended : Bool) (table : CallbackTable) (d : Delivery),
      d.text.utf8ByteSize ≤ NativeText.maxSize →
      ({ w with bridge := b }.undergo attended (.callback (some table) d.callback)).bridge =
        b.deliver d.upToZero) ∧
    ∀ mix mix' : List (Way × Arrival), (∀ a ∈ mix, a.2.delivery.Plain) →
      mix.map Prod.snd = mix'.map Prod.snd → b.play mix = b.play mix' := by
  refine ⟨?_, ?_, ?_, ?_⟩
  · intro s code hs
    exact receive_callback (d := .message s code) hs b
  · intro s hs
    exact receive_callback (d := .participant s) hs b
  · intro β w attended table d hd
    exact receive_callback hd b
  · intro mix mix' hmix hsame
    have hmix' : ∀ a ∈ mix', a.2.delivery.Plain := by
      intro a hmem
      have hfrom : a.2 ∈ mix.map Prod.snd := hsame ▸ List.mem_map_of_mem hmem
      obtain ⟨a', hmem', heq⟩ := List.mem_map.mp hfrom
      exact heq ▸ hmix a' hmem'
    rw [b.play_plain hmix, b.play_plain hmix', hsame]

def jumpy : Handlers where
  onMessage _ := some (.text "boom")
  onParticipant p := ⟨[("hi " ++ p.name, 0)], none⟩

theorem native_agrees_with_direct_jumpy :
    let b : Bridge := { start ⟨1, #[]⟩ ⟨0⟩ "noon" with handlers := some jumpy }
    let bob : Arrival := ⟨⟨1⟩, .participant "bob"⟩
    let hello : Arrival := ⟨⟨2⟩, .message "hello" 3⟩
    b.receive (.ofParticipant "bob\x00garbage") = b.deliverParticipant "bob" ∧
      b.play [(.native, bob), (.direct, hello)] = b.play [(.direct, bob), (.native, hello)] ∧
      (b.play [(.native, bob), (.direct, hello)]).lines.tail.map Line.text =
        ["bob joined", "hi bob", "on_message_received: handler panicked: boom", "hello",
          "on_message_received: handler panicked: boom"] := by
  intro b bob hello
  obtain ⟨-, hparticipant, -, hmix⟩ := native_agrees_with_direct b
  have hplain : ∀ a ∈ [(Way.native, bob), (Way.direct, hello)], a.2.delivery.Plain := by
    simp only [List.forall_mem_cons]
    exact ⟨⟨by decide, by decide⟩, ⟨by decide, by decide⟩, nofun⟩
  refine ⟨?_, hmix _ _ hplain rfl, by decide +kernel⟩
  rw [hparticipant _ (by decide), show upToZero "bob\x00garbage" = "bob" by decide]

end Bridge

end SessionBridge
