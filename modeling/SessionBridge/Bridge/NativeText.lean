import SessionBridge.Bridge.Fault
import SessionBridge.Text.Utf8

/-! Text as the native side passes it: a pointer to bytes, which may be null, and a signed size. The
text ends at that size or at the first zero byte. -/
namespace SessionBridge

structure NativeText where
  /-- The readable bytes, or `none` for a null pointer. -/
  bytes : Option (List UInt8)
  size : Int32
  deriving DecidableEq

namespace NativeText

/-- How a bus passes a text it holds: the length is narrowed to the size type, wrapping around. -/
def ofBytes (bytes : List UInt8) : NativeText :=
  ⟨some bytes, Int32.ofNat bytes.length⟩

def ofString (s : String) : NativeText :=
  ofBytes (Utf8.ofString s)

def untilZero (bytes : List UInt8) : List UInt8 :=
  bytes.takeWhile (· ≠ 0)

/-- The text as a string. A null pointer is noticed before a negative size. -/
def decode (callback argument : String) (t : NativeText) : Except CallbackFault String :=
  match t.bytes with
  | none => .error (.nullPointer callback argument)
  | some bytes =>
    if t.size < 0 then .error (.negativeSize callback t.size)
    else .ok (String.ofList (Utf8.decodeLossy (untilZero (bytes.take t.size.toInt.toNat))))

end NativeText

end SessionBridge
