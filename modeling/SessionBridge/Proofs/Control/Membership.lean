import SessionBridge.Proofs.Concurrent.Interleaving
import SessionBridge.Proofs.Control.Lasting
import SessionBridge.Proofs.Registry.Order

/-! Who takes part. The registry is fed by any number of writers, and by the deliveries of a controller
that connects, fails to, disconnects and connects again; to all of them it is one ordered set that only
grows, in which the first report of a name counts. -/
namespace SessionBridge

namespace Bridge

theorem lasting_extends (r : Registry) : Lasting fun b => r.Extends b.registry where
  same b b' _ hregistry h := by
    rw [hregistry]
    exact h
  record _ _ _ _ _ h := h
  publish _ _ h := h
  insert _ _ hnew h := h.insert hnew

end Bridge

section
variable {ι : Type} [DecidableEq ι] {programs : ι → List Participant}
  {schedule : List (ι × Participant)}

theorem mem_names_of_interleaves (h : Interleaves programs schedule) (name : String) :
    name ∈ (Registry.empty.registerAll (schedule.map Prod.snd)).2.names ↔
      ∃ i, name ∈ (programs i).map Participant.name := by
  simp only [Registry.mem_names_reports, List.mem_map (f := Participant.name), h.mem_iff]
  constructor
  · rintro ⟨p, ⟨i, hmem⟩, rfl⟩
    exact ⟨i, p, hmem, rfl⟩
  · rintro ⟨i, p, hmem, rfl⟩
    exact ⟨p, ⟨i, hmem⟩, rfl⟩

theorem count_answers_of_interleaves (h : Interleaves programs schedule) {i : ι} {p : Participant}
    (hmem : p ∈ programs i) :
    (((Registry.empty.registerAll (schedule.map Prod.snd)).1.filterMap id).map
      Participant.name).count p.name = 1 := by
  have hlisted := Registry.filterMap_registerAll Registry.empty (schedule.map Prod.snd)
  rw [Registry.toList_empty, List.nil_append] at hlisted
  rw [← hlisted]
  exact List.count_eq_one_of_mem (Registry.indexed_reports _).nodup
    ((mem_names_of_interleaves h p.name).mpr ⟨i, List.mem_map_of_mem hmem⟩)

end

/-- The registry is an ordered set in which the first report of a name counts. Whatever programs of
reports are mixed, and however: a report makes a participant exactly if no earlier one had its name, and
one report of each name does; the list is the first reports in their order, no name twice, and it is
what the index, the membership test and the size speak of; which names there are does not depend on the
schedule; and every list is a prefix of every later one. A controller does nothing to its registry but
report participants, whatever becomes of its operations, so all this holds of it too. -/
theorem registry_is_ordered_set {ι β : Type} [DecidableEq ι] [NativeBus β]
    {programs : ι → List Participant} {schedule : List (ι × Participant)}
    (h : Interleaves programs schedule) :
    let reports := schedule.map Prod.snd
    let answers := (Registry.empty.registerAll reports).1
    let r := (Registry.empty.registerAll reports).2
    (∀ before p after, reports = before ++ p :: after →
        answers[before.length]? =
          some (if p.name ∈ before.map Participant.name then none else some p)) ∧
      r.toList = firstReports reports ∧ r.names.Nodup ∧
      (∀ name, r.contains name = true ↔ name ∈ r.names) ∧
      r.size = (reports.map Participant.name).toFinset.card ∧
      (∀ (name : String) (i : Nat), r.index[name]? = some i ↔ r.names[i]? = some name) ∧
      (∀ earlier later, earlier <+: later →
        (Registry.empty.registerAll earlier).2.toList <+:
          (Registry.empty.registerAll later).2.toList) ∧
      (∀ name, name ∈ r.names ↔ ∃ i, name ∈ (programs i).map Participant.name) ∧
      (∀ i, ∀ p ∈ programs i, ((answers.filterMap id).map Participant.name).count p.name = 1) ∧
      (∀ (config : BusConfig) (bus : β) (now : Timestamp) (opened : String) (c : Controller β),
        Controller.create config bus now opened = .value c → c.bridge.registry = .empty) ∧
      ∀ (c : Controller β) (actions : List Action),
        c.bridge.registry.Extends (c.run actions).2.bridge.registry ∧
          c.bridge.registry.toList <+: (c.run actions).2.bridge.registry.toList ∧
          c.bridge.registry.Extends c.release.2.bridge.registry ∧
          c.bridge.registry.toList <+: c.release.2.bridge.registry.toList := by
  intro reports answers r
  have hindexed : r.Indexed := Registry.indexed_reports reports
  refine ⟨?_, Registry.toList_reports reports, hindexed.nodup, hindexed.contains_iff,
    Registry.size_reports reports, hindexed, ?_, mem_names_of_interleaves h,
    fun i p hmem => count_answers_of_interleaves h hmem, ?_, ?_⟩
  · intro before p after hsplit
    have hanswer := Registry.answer_registerAll Registry.empty before after p
    rw [← hsplit] at hanswer
    simp only [Registry.contains_registerAll, Registry.contains_empty, Bool.false_eq_true, false_or]
      at hanswer
    exact hanswer
  · intro earlier later hbegins
    exact (Registry.extends_of_begins hbegins Registry.empty).toList
  · intro config bus now opened c hcreate
    obtain ⟨-, feed, -, rfl⟩ := Controller.create_eq_value_iff.mp hcreate
    rfl
  · intro c actions
    have hlasting := Bridge.lasting_extends c.bridge.registry
    have hrun := Controller.lasting_run hlasting (fun _ _ h => h) (Registry.Extends.refl _) actions
    have hrelease := Controller.lasting_release hlasting (Registry.Extends.refl c.bridge.registry)
    exact ⟨hrun, hrun.toList, hrelease, hrelease.toList⟩

def reporting : Bool → List Participant
  | true => [⟨"bob", ⟨1⟩⟩, ⟨"ann", ⟨2⟩⟩]
  | false => [⟨"ann", ⟨3⟩⟩, ⟨"bob", ⟨4⟩⟩, ⟨"eve", ⟨5⟩⟩]

def reported : List (Bool × Participant) :=
  [(false, ⟨"ann", ⟨3⟩⟩), (true, ⟨"bob", ⟨1⟩⟩), (false, ⟨"bob", ⟨4⟩⟩), (true, ⟨"ann", ⟨2⟩⟩),
    (false, ⟨"eve", ⟨5⟩⟩)]

theorem registry_is_ordered_set_reporting :
    Interleaves reporting reported ∧
      (Registry.empty.registerAll (reported.map Prod.snd)).2.toList =
        [⟨"ann", ⟨3⟩⟩, ⟨"bob", ⟨1⟩⟩, ⟨"eve", ⟨5⟩⟩] := by
  have hinterleaves : Interleaves reporting reported := by
    intro i
    cases i <;> decide
  obtain ⟨-, hlist, -⟩ := registry_is_ordered_set (β := Loopback) hinterleaves
  refine ⟨hinterleaves, hlist.trans ?_⟩
  decide +kernel

end SessionBridge
