import Mathlib.Tactic

/-! Runs of a deterministic machine: what holds at the start and survives every step, and conditions
that every step of a run meets. -/
namespace InterClusterFabric.LibraryTrace

variable {σ ε : Type} {step : σ → ε → σ} {s : σ}

/-- What holds at the start and survives every step of a run holds at its end. -/
lemma foldl_invariant {P : σ → Prop} (hinit : P s) {events : List ε}
    (hstep : ∀ before event after, events = before ++ event :: after → P (before.foldl step s) →
      P (step (before.foldl step s) event)) : P (events.foldl step s) := by
  induction events using List.reverseRecOn with
  | nil => exact hinit
  | append_singleton before event ih =>
    have hbefore : P (before.foldl step s) := by
      refine ih fun first e last heq hP => ?_
      exact hstep first e (last ++ [event]) (by rw [heq]; simp) hP
    have hlast := hstep before event [] rfl hbefore
    rw [List.foldl_append]
    exact hlast

/-- Every step of the run meets a condition on the state it begins in. -/
def EachStep (step : σ → ε → σ) (P : σ → ε → Prop) (s : σ) (events : List ε) : Prop :=
  ∀ before event after, events = before ++ event :: after → P (before.foldl step s) event

namespace EachStep

variable {P Q : σ → ε → Prop} {events : List ε} {event : ε}

lemma of_mem (h : ∀ event ∈ events, ∀ s, P s event) : EachStep step P s events :=
  fun _ event _ heq => h event (by rw [heq]; simp) _

lemma nil : EachStep step P s [] := by
  intro before event after heq
  simp at heq

lemma cons (hfirst : P s event) (h : EachStep step P (step s event) events) : EachStep step P s (event :: events) := by
  intro before e after heq
  cases before with
  | nil =>
    cases heq
    exact hfirst
  | cons first before =>
    obtain ⟨rfl, hrest⟩ := List.cons.inj heq
    exact h before e after hrest

lemma snoc (h : EachStep step P s events) (hlast : P (events.foldl step s) event) :
    EachStep step P s (events ++ [event]) := by
  intro before e after heq
  induction after using List.reverseRecOn with
  | nil =>
    obtain ⟨rfl, hlast'⟩ := List.append_inj' heq rfl
    cases hlast'
    exact hlast
  | append_singleton after e' _ =>
    have heq' : events ++ [event] = (before ++ e :: after) ++ [e'] := by rw [heq]; simp
    obtain ⟨hevents, -⟩ := List.append_inj' heq' rfl
    exact h before e after hevents

lemma init (h : EachStep step P s (events ++ [event])) : EachStep step P s events :=
  fun first e last heq => h first e (last ++ [event]) (by rw [heq]; simp)

lemma last (h : EachStep step P s (events ++ [event])) : P (events.foldl step s) event := h events event [] rfl

lemma mono (h : EachStep step P s events) (hPQ : ∀ s e, P s e → Q s e) : EachStep step Q s events :=
  fun before event after heq => hPQ _ _ (h before event after heq)

end EachStep

end InterClusterFabric.LibraryTrace
