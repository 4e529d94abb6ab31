import SessionBridge.Proofs.Concurrent.Pool

/-! Threads that share a bridge never wait for each other: from every point of every run there is a way to
the end of all of them. -/
namespace SessionBridge

namespace Alone

theorem passes (b : Bridge) (job : Job) (rest : List Job) :
    ∃ b', Alone b (job :: rest) b' rest ∨ Alone b (job :: rest) b' [] := by
  have hgreet (b : Bridge) (p : Participant) :
      ∃ b', Alone b (.greet p :: rest) b' rest ∨ Alone b (.greet p :: rest) b' [] := by
    rcases hshow : b.showParticipant p with ⟨_ | crash, b'⟩
    · exact ⟨b', .inl (greet hshow rest)⟩
    · exact ⟨_, .inr (greet_crashed hshow rest)⟩
  cases job with
  | register name =>
    cases hknown : b.registry.contains name with
    | true =>
      refine ⟨b, .inl (.step ?_)⟩
      rw [Job.perform_register, if_pos hknown]
      exact .refl b rest
    | false =>
      have hintroduced : Alone b (.register name :: rest) (b.enroll ⟨name, b.clock⟩)
          (.greet ⟨name, b.clock⟩ :: rest) := by
        refine .step ?_
        rw [Job.perform_register, if_neg (by simp [hknown])]
        exact (record _ .system .status _ _).trans (publish _ _ _)
      obtain ⟨b', hrest | hcrashed⟩ := hgreet (b.enroll ⟨name, b.clock⟩) ⟨name, b.clock⟩
      · exact ⟨b', .inl (hintroduced.trans hrest)⟩
      · exact ⟨b', .inr (hintroduced.trans hcrashed)⟩
  | record origin kind text => exact ⟨_, .inl (record b origin kind text rest)⟩
  | publish e => exact ⟨_, .inl (publish b e rest)⟩
  | count => exact ⟨_, .inl (.step (.refl _ rest))⟩
  | tell e => exact ⟨_, .inl (tell b e rest)⟩
  | accept text code => exact ⟨_, .inl (accept b text code rest)⟩
  | showMessage e => exact ⟨_, .inl (showMessage b e rest)⟩
  | greet p => exact hgreet b p
  | greeted p crash? =>
    cases crash? with
    | none => exact ⟨_, .inl (.step (.refl _ rest))⟩
    | some crash => exact ⟨_, .inr (.step (record _ .system .error _ []))⟩

theorem ends (b : Bridge) (jobs : List Job) : ∃ b', Alone b jobs b' [] := by
  induction jobs generalizing b with
  | nil => exact ⟨b, .refl b []⟩
  | cons job rest ih =>
    obtain ⟨b', hrest | hcrashed⟩ := passes b job rest
    · obtain ⟨b'', hend⟩ := ih b'
      exact ⟨b'', hrest.trans hend⟩
    · exact ⟨b', hcrashed⟩

end Alone

namespace Pool

theorem run_append (p : Pool) (first second : List (Nat × Timestamp)) :
    (p.run (first ++ second)).2 = ((p.run first).2.run second).2 := by
  induction first generalizing p with
  | nil => rfl
  | cons turn first ih => exact ih (p.step turn.1 turn.2).2

theorem run_of_alone {b b' : Bridge} {jobs jobs' : List Job} (h : Alone b jobs b' jobs')
    (before after : List (List Job)) :
    ∃ schedule, (run ⟨b, before ++ jobs :: after⟩ schedule).2 = ⟨b', before ++ jobs' :: after⟩ := by
  induction h with
  | refl => exact ⟨[], rfl⟩
  | @step b b' job rest jobs' _ ih =>
    obtain ⟨schedule, hrun⟩ := ih
    have hstep : (step ⟨b, before ++ (job :: rest) :: after⟩ before.length b.clock).2 =
        ⟨(job.perform b rest).1, before ++ (job.perform b rest).2 :: after⟩ := by
      simp [step]
    refine ⟨(before.length, b.clock) :: schedule, ?_⟩
    rw [← hrun, ← hstep]
    rfl

theorem can_finish (p : Pool) : ∃ schedule, (p.run schedule).2.Finished := by
  obtain ⟨b, threads⟩ := p
  -- One thread after the other; those before have finished.
  suffices hgeneral : ∀ before : List (List Job), (∀ thread ∈ before, thread = []) →
      ∃ schedule, (run ⟨b, before ++ threads⟩ schedule).2.Finished by
    exact hgeneral [] fun _ hmem => absurd hmem List.not_mem_nil
  induction threads generalizing b with
  | nil =>
    intro before hbefore
    exact ⟨[], by simpa [run, Finished] using hbefore⟩
  | cons thread threads ih =>
    intro before hbefore
    obtain ⟨b', halone⟩ := Alone.ends b thread
    obtain ⟨first, hfirst⟩ := run_of_alone halone before threads
    obtain ⟨second, hsecond⟩ := ih b' (before ++ [[]]) fun done hdone =>
      (List.mem_append.mp hdone).elim (hbefore done) List.mem_singleton.mp
    refine ⟨first ++ second, ?_⟩
    rw [run_append, hfirst, List.append_cons]
    exact hsecond

/-- Whatever has been done, there is a way to the end of all threads. -/
theorem can_go_on (p : Pool) (schedule : List (Nat × Timestamp)) :
    ∃ more, (p.run (schedule ++ more)).2.Finished := by
  obtain ⟨more, hfinished⟩ := (p.run schedule).2.can_finish
  refine ⟨more, ?_⟩
  rw [run_append]
  exact hfinished

end Pool

end SessionBridge
