/-! Milliseconds since the start of 1970, as the clock reports them. -/
namespace SessionBridge

structure Timestamp where
  millis : UInt64
  deriving DecidableEq, Inhabited

namespace Timestamp

def later (t : Timestamp) (millis : UInt64) : Timestamp :=
  ⟨t.millis + millis⟩

/-- The time that has passed since `earlier`, nothing if that moment is still to come. -/
def since (t earlier : Timestamp) : UInt64 :=
  if earlier.millis ≤ t.millis then t.millis - earlier.millis else 0

def order (s t : Timestamp) : Ordering :=
  compare s.millis t.millis

end Timestamp

end SessionBridge
