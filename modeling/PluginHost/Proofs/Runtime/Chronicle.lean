import PluginHost.Proofs.Platform.Loading
import PluginHost.Proofs.Runtime.Story

namespace PluginHost

/-- What befalls a manager at its end. -/
def parting (m : ManagerId) : List Event := hears [.release, .postRelease] m ++ [.destroyed m]

structure Chronicle {M : Type} (aboard : ManagerId → List Event) (ended : ManagerId → List Event → Prop)
    (past : List Event) (crew : List Member) (c : Controller M) : Prop where
  holds : c.Holds crew
  present : ∀ x ∈ crew, story x.id past = aboard x.id
  absent : ∀ m, m ∉ crew.map (·.id) → (∀ hook, .called m hook ∉ story m past) ∨ ended m (story m past)
  unborn : ∀ m : ManagerId, c.offered ≤ m.index → story m past = []

variable {M : Type} {aboard : ManagerId → List Event} {ended : ManagerId → List Event → Prop}
variable {past new : List Event} {crew crew' : List Member} {c d : Controller M}

theorem Chronicle.conclude (chronicle : Chronicle aboard ended past crew c)
    {finished : ManagerId → List Event → Prop}
    (moves : ∀ m, ended m (story m past) → finished m (story m past)) :
    Chronicle aboard finished past crew c :=
  { chronicle with absent := fun m missing => (chronicle.absent m missing).imp_right (moves m) }

/-- Nobody who is registered is concerned, and nobody is called. -/
theorem Chronicle.ignore (chronicle : Chronicle aboard ended past crew c) (holds : d.Holds crew)
    (more : c.offered ≤ d.offered) (old : ∀ m : ManagerId, m.index < c.offered → story m new = [])
    (hushed : ∀ m hook, .called m hook ∉ story m new)
    (unborn : ∀ m : ManagerId, d.offered ≤ m.index → story m new = []) :
    Chronicle aboard ended (past ++ new) crew d where
  holds := holds
  present := by
    intro x member
    rw [story_append, chronicle.present x member, old x.id (chronicle.holds.fresh x member), List.append_nil]
  absent := by
    intro m missing
    rw [story_append]
    by_cases known : m.index < c.offered
    · rw [old m known, List.append_nil]
      exact chronicle.absent m missing
    · rw [chronicle.unborn m (Nat.le_of_not_lt known), List.nil_append]
      exact Or.inl (hushed m)
  unborn := by
    intro m late
    rw [story_append, chronicle.unborn m (more.trans late), unborn m late]
    rfl

theorem Chronicle.pass (chronicle : Chronicle aboard ended past crew c) (holds : d.Holds crew)
    (offered : d.offered = c.offered) (nobody : ∀ m, story m new = []) :
    Chronicle aboard ended (past ++ new) crew d :=
  chronicle.ignore holds offered.ge (fun m _ => nobody m) (fun m hook => by simp [nobody]) fun m _ => nobody m

/-- A manager that is offered and turned away meets its end at once. -/
theorem Chronicle.refuse (chronicle : Chronicle aboard ended past crew c) (holds : d.Holds crew)
    (offered : d.offered = c.offered + 1)
    (alone : ∀ m, story m new = if m = ⟨c.offered⟩ then [.destroyed ⟨c.offered⟩] else []) :
    Chronicle aboard ended (past ++ new) crew d := by
  apply chronicle.ignore holds (by omega)
  · intro m known
    rw [alone, if_neg]
    rintro rfl
    exact Nat.lt_irrefl _ known
  · intro m hook
    rw [alone]
    split <;> simp
  · intro m late
    rw [alone, if_neg]
    rintro rfl
    simp only at late
    omega

theorem Chronicle.enrol (chronicle : Chronicle aboard ended past crew c) {key : TypeKey} {ns : Namespace}
    (holds : d.Holds (crew ++ [⟨key, ⟨c.offered⟩, ns⟩])) (offered : d.offered = c.offered + 1)
    (here : story ⟨c.offered⟩ new = aboard ⟨c.offered⟩) (others : ∀ m, m ≠ ⟨c.offered⟩ → story m new = []) :
    Chronicle aboard ended (past ++ new) (crew ++ [⟨key, ⟨c.offered⟩, ns⟩]) d where
  holds := holds
  present := by
    intro x member
    rw [story_append]
    rcases List.mem_append.mp member with old | latest
    · rw [chronicle.present x old, others _ (chronicle.holds.unused old), List.append_nil]
    · rw [List.mem_singleton] at latest
      subst latest
      rw [chronicle.unborn _ le_rfl, here, List.nil_append]
  absent := by
    intro m missing
    simp only [List.map_append, List.map_cons, List.map_nil, List.mem_append, List.mem_singleton,
      not_or] at missing
    rw [story_append, others m missing.2, List.append_nil]
    exact chronicle.absent m missing.1
  unborn := by
    intro m late
    have other : m ≠ ⟨c.offered⟩ := by
      rintro rfl
      simp only at late
      omega
    rw [story_append, chronicle.unborn m (by omega), others m other]
    rfl

/-- Everyone who is registered hears the same. -/
theorem Chronicle.hear (chronicle : Chronicle aboard ended past crew c) (holds : d.Holds crew)
    (offered : d.offered = c.offered) {part : ManagerId → List Event}
    (heard : ∀ m, story m new = if m ∈ crew.map (·.id) then part m else []) :
    Chronicle (fun m => aboard m ++ part m) ended (past ++ new) crew d where
  holds := holds
  present := by
    intro x member
    rw [story_append, chronicle.present x member, heard, if_pos (List.mem_map_of_mem member)]
  absent := by
    intro m missing
    rw [story_append, heard, if_neg missing, List.append_nil]
    exact chronicle.absent m missing
  unborn := by
    intro m late
    have missing : m ∉ crew.map (·.id) := fun member => by
      have early := chronicle.holds.numbered member
      omega
    rw [story_append, chronicle.unborn m (by omega), heard, if_neg missing]
    rfl

/-- Some of the crew come to their end. -/
theorem Chronicle.depart (chronicle : Chronicle aboard ended past crew c) (leaving : List Member)
    (holds : d.Holds crew') (offered : d.offered = c.offered)
    (kept : ∀ x, x ∈ crew ↔ x ∈ crew' ∨ x ∈ leaving) (apart : ∀ x ∈ crew', x.id ∉ leaving.map (·.id))
    (parted : ∀ m, story m new = if m ∈ leaving.map (·.id) then parting m else []) :
    Chronicle aboard (fun m s => ended m s ∨ m ∈ crew.map (·.id) ∧ s = aboard m ++ parting m)
      (past ++ new) crew' d where
  holds := holds
  present := by
    intro x member
    rw [story_append, chronicle.present x ((kept x).mpr (Or.inl member)), parted,
      if_neg (apart x member), List.append_nil]
  absent := by
    intro m missing
    rw [story_append, parted]
    by_cases left : m ∈ leaving.map (·.id)
    · obtain ⟨x, member, rfl⟩ := List.mem_map.mp left
      have before := (kept x).mpr (Or.inr member)
      rw [if_pos left, chronicle.present x before]
      exact Or.inr (Or.inr ⟨List.mem_map_of_mem before, rfl⟩)
    · rw [if_neg left, List.append_nil]
      have absent : m ∉ crew.map (·.id) := by
        intro before
        obtain ⟨x, member, rfl⟩ := List.mem_map.mp before
        rcases (kept x).mp member with stays | leaves
        · exact missing (List.mem_map_of_mem stays)
        · exact left (List.mem_map_of_mem leaves)
      exact (chronicle.absent m absent).imp_right Or.inl
  unborn := by
    intro m late
    have missing : m ∉ leaving.map (·.id) := by
      intro left
      obtain ⟨x, member, rfl⟩ := List.mem_map.mp left
      have early := chronicle.holds.fresh x ((kept x).mpr (Or.inr member))
      omega
    rw [story_append, chronicle.unborn m (by omega), parted, if_neg missing]
    rfl

end PluginHost
