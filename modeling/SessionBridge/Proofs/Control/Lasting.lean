import SessionBridge.Proofs.Control.Abiding
import SessionBridge.Proofs.Control.Stage
import SessionBridge.Proofs.Control.Succession

/-! What a bridge has written down: its journal and its registry. A property of these two that every
line, every event and every newcomer keeps is kept by whatever a controller does, on every bus and on
every way through an operation, the ways that end in a panic included. Only the echo of a send is left
to the property itself. -/
namespace SessionBridge

namespace Bridge

/-- A property of what a bridge has written down, kept by whatever is added to it but the lines of the
local user. -/
structure Lasting (P : Bridge → Prop) : Prop where
  same : ∀ b b', b'.journal = b.journal → b'.registry = b.registry → P b → P b'
  record : ∀ b origin kind text, origin ≠ .outbound → P b → P (b.record origin kind text)
  publish : ∀ b e, P b → P (b.publish e)
  insert : ∀ b p, b.registry.contains p.name = false → P b →
    P { b with registry := b.registry.insert p }

variable {P : Bridge → Prop} {b : Bridge}

theorem Lasting.report (hP : Lasting P) (kind : InformType) (text : String) (h : P b) :
    P (b.report kind text) :=
  hP.record b .system kind text nofun h

theorem Lasting.advance (hP : Lasting P) (e : SessionEvent) (h : P b) : P (b.advance e) := by
  have hadvances := b.advance_advances e
  generalize b.advance e = b' at hadvances
  cases hadvances with
  | rejected => exact h
  | moved => exact hP.same b _ rfl rfl h
  | established =>
    refine hP.publish _ _ (hP.report _ _ ?_)
    exact hP.same b _ rfl rfl h

theorem Lasting.install (hP : Lasting P) (handlers : Handlers) (h : P b) :
    P (b.install handlers).2 := by
  obtain ⟨installed, hinstall⟩ := b.install_eq handlers
  rw [hinstall]
  exact hP.same b _ rfl rfl h

theorem Lasting.steady (hP : Lasting P) : Steady P where
  record := hP.record
  showed b _ h := hP.same b _ rfl rfl h
  enroll b p hnew h := hP.publish _ _ (hP.report _ _ (hP.insert b p hnew h))
  join _ h := hP.advance _ h

theorem Lasting.abiding (hP : Lasting P) : Abiding P where
  unseen b b' hjournal hregistry _ _ h := hP.same b b' hjournal hregistry h
  report _ kind text h := hP.report kind text h
  publish b e _ h := hP.publish b e h
  message _ text code h := hP.steady.deliverMessage text code h
  participant _ name h := hP.steady.deliverParticipant name h

end Bridge

theorem World.Performed.lasting {β : Type} {w w' : World β} {P : Bridge → Prop} {e : Exchange}
    (hperformed : Performed w w' e) (hP : Bridge.Lasting P) (h : P w.bridge) : P w'.bridge :=
  hperformed.abides hP.abiding h

namespace Controller

variable {β : Type} [NativeBus β] {P : Bridge → Prop} {c : Controller β}

theorem lasting_release (hP : Bridge.Lasting P) (h : P c.bridge) : P c.release.2.bridge :=
  abides_release hP.abiding (hP.same c.bridge _ rfl rfl h)

theorem lasting_act {a : Action} (hP : Bridge.Lasting P)
    (hsend : ∀ text, a = .send text → P (c.send text).2.bridge) (h : P c.bridge) :
    P (c.act a).2.bridge :=
  abides_act hP.abiding hsend (fun handlers _ => hP.install handlers h) h

theorem lasting_run (hP : Bridge.Lasting P)
    (hecho : ∀ b text, P b → P (b.record .outbound .status text)) (h : P c.bridge)
    (actions : List Action) : P (c.run actions).2.bridge :=
  abides_run hP.abiding hecho h fun handlers _ _ => hP.install handlers

theorem lasting_move {c : Controller Scripted} {m : Move} (hP : Bridge.Lasting P)
    (hsend : ∀ text, m = .act (.send text) → P (c.send text).2.bridge) (h : P c.bridge) :
    P (c.move m).2.bridge := by
  cases m with
  | act a => exact lasting_act hP (fun text ha => hsend text (congrArg Move.act ha)) h
  | cue q => exact h
  | deliver call =>
    change P (c.world.undergo true (.callback c.world.bus.loopback.table call)).bridge
    rcases World.bridge_undergo true c.world (.callback c.world.bus.loopback.table call) with
      hsame | ⟨call', hcall⟩
    · rw [hsame]
      exact h
    · rw [hcall]
      exact hP.steady.receive call' h

end Controller

end SessionBridge
