/-! Calls made by several writers at once. Each writer has its program; a schedule mixes the programs in
any way that keeps the order of each. -/
namespace SessionBridge

variable {ι α : Type} [DecidableEq ι] {programs : ι → List α} {schedule : List (ι × α)}

def callsOf (schedule : List (ι × α)) (i : ι) : List α :=
  (schedule.filter (·.1 = i)).map Prod.snd

/-- The schedule runs every program from its first call to its last. -/
def Interleaves (programs : ι → List α) (schedule : List (ι × α)) : Prop :=
  ∀ i, callsOf schedule i = programs i

theorem Interleaves.mem_iff (h : Interleaves programs schedule) (a : α) :
    a ∈ schedule.map Prod.snd ↔ ∃ i, a ∈ programs i := by
  constructor
  · intro hmem
    obtain ⟨⟨i, a⟩, hcall, rfl⟩ := List.mem_map.mp hmem
    refine ⟨i, ?_⟩
    rw [← h i, callsOf]
    simpa using hcall
  · rintro ⟨i, hmem⟩
    rw [← h i] at hmem
    obtain ⟨call, hcall, rfl⟩ := List.mem_map.mp hmem
    exact List.mem_map_of_mem (List.mem_filter.mp hcall).1

end SessionBridge
