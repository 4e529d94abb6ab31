import SessionBridge.Control.Controller

/-! A run of a controller: what its user, its bus and the clock do, one thing after the other. What
the bus does inside a native call is part of that call. -/
namespace SessionBridge

inductive Action where
  | connect (mode : SessionMode) (sessionName handle : String)
  | send (text : String)
  | disconnect
  /-- A callback of the bus while no operation is in progress. -/
  | callback (call : Callback)
  /-- A message that is delivered directly. -/
  | message (text : String) (code : Int32)
  /-- A participant that is delivered directly. -/
  | participant (name : String)
  | install (handlers : Handlers)
  | tick (now : Timestamp)

namespace Controller

variable [NativeBus β]

def act (c : Controller β) : Action → Outcome ControlError Unit × Controller β
  | .connect mode sessionName handle => c.connect mode sessionName handle
  | .send text => c.send text
  | .disconnect => c.disconnect
  | .callback call => (.value (), c.receive call)
  | .message text code => (.value (), c.onBridge (·.deliverMessage text code))
  | .participant name => (.value (), c.onBridge (·.deliverParticipant name))
  | .install handlers => (.value (), c.onBridge fun b => (b.install handlers).2)
  | .tick now => (.value (), c.onBridge fun b => { b with clock := now })

def run (c : Controller β) : List Action → List (Outcome ControlError Unit) × Controller β
  | [] => ([], c)
  | a :: actions =>
    let (outcome, c) := c.act a
    let (outcomes, c) := c.run actions
    (outcome :: outcomes, c)

@[simp] theorem run_nil (c : Controller β) : c.run [] = ([], c) := rfl

@[simp] theorem run_cons (c : Controller β) (a : Action) (actions : List Action) :
    c.run (a :: actions) =
      ((c.act a).1 :: ((c.act a).2.run actions).1, ((c.act a).2.run actions).2) := rfl

theorem run_append (c : Controller β) (first second : List Action) :
    c.run (first ++ second) =
      ((c.run first).1 ++ ((c.run first).2.run second).1, ((c.run first).2.run second).2) := by
  induction first generalizing c with
  | nil => rfl
  | cons a actions ih => simp [ih]

end Controller

end SessionBridge
