import PluginHost.Path

namespace PluginHost.Path

/-- Which of two lists comes first is said by the first place where they differ. -/
def listLe {α : Type} [DecidableEq α] (le : α → α → Bool) : List α → List α → Bool
  | [], _ => true
  | _ :: _, [] => false
  | a :: as, b :: bs => if a = b then listLe le as bs else le a b

/-- Of any two that differ one comes first, and not the other too. -/
structure Ordered {α : Type} (le : α → α → Bool) : Prop where
  total : ∀ a b, a ≠ b → le a b ∨ le b a
  asymm : ∀ a b, a ≠ b → le a b → ¬ le b a
  trans : ∀ a b c, a ≠ b → b ≠ c → le a b → le b c → le a c

variable {α : Type} [DecidableEq α] {le : α → α → Bool}

theorem listLe_refl (le : α → α → Bool) (as : List α) : listLe le as as := by
  induction as with
  | nil => rfl
  | cons a as ih => simpa [listLe] using ih

/-- Of two lists one comes first, by the first place where they differ. -/
theorem Ordered.list_total (ordered : Ordered le) (as bs : List α) (differ : as ≠ bs) :
    listLe le as bs ∨ listLe le bs as := by
  induction as generalizing bs with
  | nil => exact .inl rfl
  | cons a as ih =>
    cases bs with
    | nil => exact .inr rfl
    | cons b bs =>
      by_cases same : a = b
      · subst same
        have rest : as ≠ bs := fun here => differ (by rw [here])
        simpa [listLe] using ih bs rest
      · have other : b ≠ a := Ne.symm same
        simpa [listLe, same, other] using ordered.total a b same

/-- Not both come first. -/
theorem Ordered.list_asymm (ordered : Ordered le) (as bs : List α) (differ : as ≠ bs) (first : listLe le as bs) :
    ¬ listLe le bs as := by
  intro back
  induction as generalizing bs with
  | nil =>
    cases bs with
    | nil => exact differ rfl
    | cons b bs => cases back
  | cons a as ih =>
    cases bs with
    | nil => cases first
    | cons b bs =>
      by_cases same : a = b
      · subst same
        have rest : as ≠ bs := fun here => differ (by rw [here])
        simp only [listLe, if_true] at first back
        exact ih bs rest first back
      · have other : b ≠ a := Ne.symm same
        simp only [listLe, same, other, if_false] at first back
        exact ordered.asymm a b same first back

/-- The order of lists is transitive, by induction on the first of the three. -/
theorem Ordered.list_trans (ordered : Ordered le) (as bs cs : List α) (differ : as ≠ bs) (differ' : bs ≠ cs)
    (first : listLe le as bs) (second : listLe le bs cs) : listLe le as cs := by
  induction as generalizing bs cs with
  | nil => rfl
  | cons a as ih =>
    cases bs with
    | nil => cases first
    | cons b bs =>
      cases cs with
      | nil => cases second
      | cons c cs =>
        by_cases same : a = b
        · subst same
          have rest : as ≠ bs := fun here => differ (by rw [here])
          by_cases same' : a = c
          · subst same'
            have rest' : bs ≠ cs := fun here => differ' (by rw [here])
            simp only [listLe, if_true] at first second ⊢
            exact ih bs cs rest rest' first second
          · simpa [listLe, same'] using second
        · by_cases same' : b = c
          · subst same'
            simpa [listLe, same] using first
          · simp only [listLe, same, same', if_false] at first second
            have third := ordered.trans a b c same same' first second
            have apart : a ≠ c := by
              rintro rfl
              exact ordered.asymm a b same first second
            simpa [listLe, apart] using third

theorem Ordered.list (ordered : Ordered le) : Ordered (listLe le) :=
  ⟨ordered.list_total, ordered.list_asymm, ordered.list_trans⟩

theorem ordered_byte : Ordered fun a b : UInt8 => decide (a < b) where
  total a b differ := by
    have := UInt8.lt_or_lt_of_ne differ
    simpa using this
  asymm a b _ := by
    simpa using fun first => UInt8.le_of_lt first
  trans a b c _ _ := by
    simpa using fun first second => UInt8.lt_trans first second

theorem bytesLe_eq : bytesLe = listLe fun a b : UInt8 => decide (a < b) := by
  funext as bs
  induction as generalizing bs with
  | nil => cases bs <;> rfl
  | cons a as ih =>
    cases bs with
    | nil => rfl
    | cons b bs => rw [bytesLe, listLe, ih]

theorem ordered_bytes : Ordered bytesLe := bytesLe_eq ▸ ordered_byte.list

/-- Components are ordered by their kinds, and names among themselves by their bytes. -/
theorem ordered_component : Ordered Component.le where
  total a b differ := by
    cases a <;> cases b
    case normal.normal a b => exact ordered_bytes.total a b fun same => differ (congrArg _ same)
    all_goals simp_all [Component.le, Component.rank]
  asymm a b differ := by
    cases a <;> cases b
    case normal.normal a b => exact ordered_bytes.asymm a b fun same => differ (congrArg _ same)
    all_goals simp_all [Component.le, Component.rank]
  trans a b c differ differ' := by
    cases a <;> cases b <;> cases c
    case normal.normal.normal a b c =>
      exact ordered_bytes.trans a b c (fun same => differ (congrArg _ same)) fun same => differ' (congrArg _ same)
    all_goals simp_all [Component.le, Component.rank]

theorem componentsLe_eq : componentsLe = listLe Component.le := by
  funext as bs
  induction as generalizing bs with
  | nil => cases bs <;> rfl
  | cons a as ih =>
    cases bs with
    | nil => rfl
    | cons b bs => rw [componentsLe, listLe, ih]

theorem ordered_components : Ordered componentsLe := componentsLe_eq ▸ ordered_component.list

theorem le_of_components_eq {p q : Path} (same : p.components = q.components) : p.le q := by
  rw [le, same, componentsLe_eq]
  exact listLe_refl _ _

theorem components_eq_of_le {p q : Path} (first : p.le q) (second : q.le p) : p.components = q.components := by
  refine Decidable.byContradiction fun differ => ?_
  exact ordered_components.asymm _ _ differ first second

theorem le_total (p q : Path) : p.le q || q.le p := by
  rw [Bool.or_eq_true]
  by_cases same : p.components = q.components
  · exact .inl (le_of_components_eq same)
  · exact ordered_components.total _ _ same

theorem le_trans (p q r : Path) (first : p.le q) (second : q.le r) : p.le r := by
  by_cases same : p.components = q.components
  · rwa [le, same]
  · by_cases same' : q.components = r.components
    · rwa [le, ← same']
    · exact ordered_components.trans _ _ _ same same' first second

end PluginHost.Path
