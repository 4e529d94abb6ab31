/-! How a call of foreign code ends. A panic is no result: it unwinds through the caller, until
somebody contains it. -/
namespace SessionBridge

inductive Outcome (ε α : Type) where
  | value (a : α)
  | failure (e : ε)
  | panic
  deriving DecidableEq

end SessionBridge
