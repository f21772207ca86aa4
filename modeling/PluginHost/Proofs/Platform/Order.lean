import Mathlib.Data.List.Induction
import PluginHost.Proofs.History

namespace PluginHost

/-- What may happen next, after what has happened. -/
def Allowed (past : List Event) : Event → Prop
  | .offered m (some library) => .destroyed m ∉ past ∧ .opened library ∈ past ∧ .closed library ∉ past
  | .closed library => ∀ m, .offered m (some library) ∈ past → .destroyed m ∈ past
  | _ => True

/-- Each event of a trace was allowed when it happened. -/
def Orderly (past : List Event) : List Event → Prop
  | [] => True
  | e :: rest => Allowed past e ∧ Orderly (past ++ [e]) rest

@[simp]
theorem orderly_nil (past : List Event) : Orderly past [] := trivial

@[simp]
theorem orderly_cons (past : List Event) (e : Event) (rest : List Event) :
    Orderly past (e :: rest) ↔ Allowed past e ∧ Orderly (past ++ [e]) rest :=
  Iff.rfl

theorem orderly_append (past first second : List Event) :
    Orderly past (first ++ second) ↔ Orderly past first ∧ Orderly (past ++ first) second := by
  induction first generalizing past with
  | nil => simp
  | cons e first ih => simp [ih, and_assoc]

/-- Log records are neither here nor there. -/
theorem allowed_deeds (past : List Event) (e : Event) : Allowed (deeds past) e ↔ Allowed past e := by
  unfold Allowed
  split <;> simp [mem_deeds]

/-- Log records have no part in the order. -/
theorem orderly_deeds (past trace : List Event) :
    Orderly (deeds past) (deeds trace) ↔ Orderly past trace := by
  induction trace generalizing past with
  | nil => simp
  | cons e trace ih =>
    rw [deeds_cons, orderly_cons, ← ih, deeds_append]
    cases e with
    | logged record => simp [Allowed]
    | _ => simp [allowed_deeds]

/-- A library whose manager lives has been opened and is not closed. -/
def Secure (moment : List Event) : Prop :=
  ∀ m library, .offered m (some library) ∈ moment → .destroyed m ∉ moment →
    .opened library ∈ moment ∧ .closed library ∉ moment

/-- The step lemma: an event that is allowed keeps every library that still has a manager open. -/
theorem Secure.next {moment : List Event} {e : Event} (secure : Secure moment) (allowed : Allowed moment e) :
    Secure (moment ++ [e]) := by
  intro m library offered living
  simp only [List.mem_append, List.mem_singleton, not_or] at offered living ⊢
  rcases offered with offered | rfl
  · obtain ⟨opened, unclosed⟩ := secure m library offered living.1
    refine ⟨Or.inl opened, unclosed, ?_⟩
    rintro rfl
    exact living.1 (allowed m offered)
  · exact ⟨Or.inl allowed.2.1, allowed.2.2, nofun⟩

/-- Every moment of an orderly trace is secure, by induction on the trace. -/
theorem Orderly.secure {trace moment : List Event} (orderly : Orderly [] trace) (before : moment <+: trace) :
    Secure moment := by
  obtain ⟨later, rfl⟩ := before
  -- an event was allowed by the moment before it
  induction moment using List.reverseRecOn generalizing later with
  | nil => exact fun m library offered => by cases offered
  | append_singleton moment e ih =>
    have allowed := ((orderly_append ..).mp ((orderly_append ..).mp orderly).1).2.1
    rw [List.append_assoc] at orderly
    exact (ih _ orderly).next allowed

/-- Whatever a library made is destroyed before it is closed, and it makes nothing afterwards. -/
theorem Orderly.destroyed {before later : List Event} {library : LibraryId}
    (orderly : Orderly [] (before ++ .closed library :: later)) {m : ManagerId}
    (offered : .offered m (some library) ∈ before ++ .closed library :: later) : .destroyed m ∈ before := by
  obtain ⟨-, allowed, rest⟩ := (orderly_append ..).mp orderly
  rcases List.mem_append.mp offered with early | late
  · exact allowed m early
  · obtain ⟨middle, last, split⟩ := List.append_of_mem ((List.mem_cons.mp late).resolve_left nofun)
    rw [split, orderly_append] at rest
    exact absurd (by simp) rest.2.1.2.2

end PluginHost
