import PluginHost.Proofs.Text.Split
import PluginHost.Toml.Value

namespace PluginHost.Toml

/-- The value at the end of a path. Every key before the last leads to a table. -/
inductive Table.Reaches : Table → List String → Value → Prop
  | last {t : Table} {key : String} {v : Value} : t.get? key = some v → Reaches t [key] v
  | through {t inner : Table} {key : String} {path : List String} {v : Value} :
      t.get? key = some (.table inner) → Reaches inner path v → Reaches t (key :: path) v

/-- The path ends early, at a key that is missing or before its last key at a value that is no table. -/
inductive Table.Breaks : Table → List String → Prop
  | missing {t : Table} {key : String} {path : List String} : t.get? key = none → Breaks t (key :: path)
  | blocked {t : Table} {key next : String} {path : List String} {v : Value} :
      t.get? key = some v → v.asTable? = none → Breaks t (key :: next :: path)
  | through {t inner : Table} {key : String} {path : List String} :
      t.get? key = some (.table inner) → Breaks inner path → Breaks t (key :: path)

mutual

/-- A value without the entries whose key has a dot. -/
def Value.undotted : Value → Value
  | .table entries => .table (undottedEntries entries)
  | value => value

def undottedEntries : List (String × Value) → List (String × Value)
  | [] => []
  | (key, value) :: rest =>
    if '.' ∈ key.toList then undottedEntries rest else (key, value.undotted) :: undottedEntries rest

end

def Table.undotted (t : Table) : Table := undottedEntries t

theorem Value.asTable?_eq_some_iff {v : Value} {t : Table} : v.asTable? = some t ↔ v = .table t := by
  cases v <;> simp [asTable?]

namespace Table

variable {t : Table} {key : String} {path : List String} {v : Value}

theorem walk?_cons (more : path ≠ []) :
    walk? t (key :: path) = (get? t key).bind fun v => v.asTable?.bind fun inner => walk? inner path := by
  cases path with
  | nil => exact absurd rfl more
  | cons next path => rfl

theorem Reaches.ne_nil (reaches : t.Reaches path v) : path ≠ [] := by
  cases reaches <;> exact List.cons_ne_nil _ _

/-- A walk ends at the value that the path reaches. -/
theorem walk?_eq_some_iff : walk? t path = some v ↔ t.Reaches path v := by
  constructor
  · intro found
    induction path generalizing t with
    | nil => cases found
    | cons key path ih =>
      by_cases end? : path = []
      · subst end?
        exact .last found
      · rw [walk?_cons end?] at found
        obtain ⟨w, here, found⟩ := Option.bind_eq_some_iff.mp found
        obtain ⟨inner, table, found⟩ := Option.bind_eq_some_iff.mp found
        obtain rfl := Value.asTable?_eq_some_iff.mp table
        exact .through here (ih found)
  · intro reaches
    induction reaches with
    | last here => exact here
    | through here rest ih =>
      rw [walk?_cons rest.ne_nil, here]
      exact ih

/-- A walk fails where the path breaks off: at a missing key or at a value that is no table. -/
theorem walk?_eq_none_iff (nonempty : path ≠ []) : walk? t path = none ↔ t.Breaks path := by
  constructor
  · intro lost
    induction path generalizing t with
    | nil => exact absurd rfl nonempty
    | cons key path ih =>
      cases here : t.get? key with
      | none => exact .missing here
      | some w =>
        by_cases end? : path = []
        · subst end?
          cases lost.symm.trans here
        · rw [walk?_cons end?, here, Option.bind_some] at lost
          cases table : w.asTable? with
          | none =>
            obtain ⟨next, path, rfl⟩ := List.exists_cons_of_ne_nil end?
            exact .blocked here table
          | some inner =>
            rw [table, Option.bind_some] at lost
            obtain rfl := Value.asTable?_eq_some_iff.mp table
            exact .through here (ih end? lost)
  · intro breaks
    induction breaks with
    | @missing t key path here => cases path <;> simp [walk?, here]
    | blocked here table =>
      rw [walk?_cons (List.cons_ne_nil _ _), here, Option.bind_some, table]
      rfl
    | @through t inner key path here rest ih =>
      have more : path ≠ [] := by cases rest <;> exact List.cons_ne_nil _ _
      rw [walk?_cons more, here]
      exact ih more

theorem dotted?_eq_some_iff : dotted? t key = some v ↔ t.Reaches (Text.split '.' key) v := walk?_eq_some_iff

theorem dotted?_eq_none_iff : dotted? t key = none ↔ t.Breaks (Text.split '.' key) :=
  walk?_eq_none_iff (Text.split_ne_nil '.' key)

theorem get?_undotted (plain : '.' ∉ key.toList) : t.undotted.get? key = (t.get? key).map Value.undotted := by
  rw [undotted, get?, get?]
  induction t with
  | nil => rfl
  | cons entry rest ih =>
    obtain ⟨other, value⟩ := entry
    rw [undottedEntries]
    by_cases same : key = other
    · subst same
      simp [plain]
    · have apart : (key == other) = false := beq_false_of_ne same
      split <;> simp [List.lookup_cons, apart, ih]

/-- A path of plain keys never meets a key with a dot in it, so dropping those changes no walk. -/
theorem walk?_undotted (plain : ∀ key ∈ path, '.' ∉ key.toList) :
    walk? t.undotted path = (walk? t path).map Value.undotted := by
  induction path generalizing t with
  | nil => rfl
  | cons key path ih =>
    obtain ⟨here, rest⟩ := List.forall_mem_cons.mp plain
    by_cases end? : path = []
    · subst end?
      exact get?_undotted here
    · rw [walk?_cons end?, walk?_cons end?, get?_undotted here]
      cases t.get? key with
      | none => rfl
      | some v =>
        cases v with
        | table inner =>
          change walk? (undotted inner) path = _
          exact ih rest
        | _ => rfl

/-- A dotted key sees nothing of the entries whose own key has a dot. -/
theorem dotted?_undotted : dotted? t.undotted key = (dotted? t key).map Value.undotted :=
  walk?_undotted fun _ => Text.notMem_of_mem_split

end Table

end PluginHost.Toml
