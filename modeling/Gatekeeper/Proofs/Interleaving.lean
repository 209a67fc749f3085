/-!
# Interleavings

Runs of a system that several calls move step by step. A step is atomic and
tells what happened in it, and a run is any sequence of steps. What holds at the
start and is kept by each step holds after every run.
-/

namespace Gatekeeper

variable {State Event : Type}

/-- What can have happened between two states, in its order. -/
inductive Run (step : State → Event → State → Prop) (first : State) :
    List Event → State → Prop
  | start : Run step first [] first
  | next {events : List Event} {state last : State} {event : Event}
      (run : Run step first events state) (moved : step state event last) :
      Run step first (events ++ [event]) last

namespace Run

variable {step : State → Event → State → Prop} {first middle last : State}
  {past rest events : List Event} {event : Event}

theorem single (moved : step first event last) :
    Run step first [event] last :=
  .next .start moved

/-- What a run and its steps keep holds at its end. -/
theorem keeps (run : Run step first events last)
    (holds : List Event → State → Prop) (initially : holds [] first)
    (preserved : ∀ past state event next, holds past state →
      step state event next → holds (past ++ [event]) next) :
    holds events last := by
  induction run with
  | start => exact initially
  | next run moved ih => exact preserved _ _ _ _ ih moved

/-- A run can go on where another one ends. -/
theorem append (run : Run step first past middle)
    (further : Run step middle rest last) :
    Run step first (past ++ rest) last := by
  induction further with
  | start => rwa [List.append_nil]
  | next further moved ih =>
      rw [← List.append_assoc]
      exact .next ih moved

/-- A run can be cut anywhere. -/
theorem exists_between (run : Run step first (past ++ rest) last) :
    ∃ middle, Run step first past middle ∧ Run step middle rest last := by
  generalize whole : past ++ rest = events at run
  induction run generalizing rest with
  | start =>
      obtain ⟨rfl, rfl⟩ := List.append_eq_nil_iff.mp whole
      exact ⟨first, .start, .start⟩
  | next run moved ih =>
      rcases List.eq_nil_or_concat rest with rfl | ⟨shorter, event, rfl⟩
      · rw [List.append_nil] at whole
        subst whole
        exact ⟨_, .next run moved, .start⟩
      · rw [List.concat_eq_append, ← List.append_assoc] at whole
        obtain ⟨rfl, same⟩ := List.append_inj' whole rfl
        obtain rfl := List.singleton_inj.mp same
        obtain ⟨middle, before, after⟩ := ih rfl
        rw [List.concat_eq_append]
        exact ⟨middle, before, .next after moved⟩

/-- The last event of a run happened in its last step. -/
theorem exists_last_step (run : Run step first (past ++ [event]) last) :
    ∃ before, Run step first past before ∧ step before event last := by
  generalize whole : past ++ [event] = events at run
  cases run with
  | start => simp at whole
  | next run moved =>
      obtain ⟨rfl, same⟩ := List.append_inj' whole rfl
      obtain rfl := List.singleton_inj.mp same
      exact ⟨_, run, moved⟩

/-- Each event of a run happened in a step that the events before it led up
to. -/
theorem exists_step (run : Run step first (past ++ event :: rest) last) :
    ∃ before after, Run step first past before ∧ step before event after := by
  rw [List.append_cons] at run
  obtain ⟨after, upTo, -⟩ := run.exists_between
  obtain ⟨before, earlier, moved⟩ := upTo.exists_last_step
  exact ⟨before, after, earlier, moved⟩

end Run

end Gatekeeper
