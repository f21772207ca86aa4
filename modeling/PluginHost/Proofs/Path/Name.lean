import Mathlib.Data.List.Basic
import PluginHost.Path

namespace PluginHost.Path

/-- A name that a directory can have an entry under. -/
structure IsName (name : List UInt8) : Prop where
  some_byte : name ≠ []
  single : slash ∉ name
  onward : name ≠ [dot]
  downward : name ≠ [dot, dot]

instance (name : List UInt8) : Decidable (IsName name) :=
  decidable_of_iff (name ≠ [] ∧ slash ∉ name ∧ name ≠ [dot] ∧ name ≠ [dot, dot])
    ⟨fun ⟨some_byte, single, onward, downward⟩ => ⟨some_byte, single, onward, downward⟩,
      fun isName => ⟨isName.some_byte, isName.single, isName.onward, isName.downward⟩⟩

theorem pieces_ne_nil (bytes : List UInt8) : pieces bytes ≠ [] := by
  cases bytes with
  | nil => simp [pieces]
  | cons b rest =>
    unfold pieces
    split
    · simp
    · split <;> simp

/-- A separator ends a piece. -/
theorem pieces_append (first rest : List UInt8) :
    pieces (first ++ slash :: rest) = pieces first ++ pieces rest := by
  induction first with
  | nil => simp [pieces]
  | cons b first ih =>
    rw [List.cons_append, pieces, pieces, ih]
    by_cases separates : b = slash
    · simp [separates]
    · obtain ⟨piece, more, whole⟩ := List.exists_cons_of_ne_nil (pieces_ne_nil first)
      simp [separates, whole]

theorem pieces_of_notMem {name : List UInt8} (single : slash ∉ name) : pieces name = [name] := by
  induction name with
  | nil => rfl
  | cons b name ih =>
    obtain ⟨other, rest⟩ : slash ≠ b ∧ slash ∉ name := by simpa using single
    rw [pieces, if_neg (Ne.symm other), ih rest]

theorem ofPiece?_of_name {name : List UInt8} (isName : IsName name) :
    Component.ofPiece? name = some (.normal name) := by
  simp [Component.ofPiece?, isName.some_byte, isName.onward, isName.downward]

theorem not_isAbsolute_of_name {name : List UInt8} (isName : IsName name) : (⟨name⟩ : Path).isAbsolute = false := by
  cases name with
  | nil => rfl
  | cons b name =>
    have other : b ≠ slash := fun same => isName.single (by simp [same])
    simpa [isAbsolute] using other

theorem head?_pieces_append (first : List UInt8) (more : List (List UInt8)) :
    (pieces first ++ more).head? = (pieces first).head? :=
  List.head?_append_of_ne_nil _ (pieces_ne_nil first)

/-- What follows a separator only adds its own pieces. -/
theorem components_append (first rest : List UInt8) :
    (⟨first ++ slash :: rest⟩ : Path).components =
      (⟨first ++ [slash]⟩ : Path).components ++ (pieces rest).filterMap Component.ofPiece? := by
  have absolute : (⟨first ++ slash :: rest⟩ : Path).isAbsolute = (⟨first ++ [slash]⟩ : Path).isAbsolute := by
    cases first <;> rfl
  have empty : [[]].filterMap Component.ofPiece? = [] := rfl
  simp only [components, pieces_append, absolute, head?_pieces_append, List.filterMap_append, List.append_assoc,
    pieces, empty, List.append_nil]

/-- A separator at the end adds no component. -/
theorem components_trailing {bytes : List UInt8} (some_byte : bytes ≠ []) :
    (⟨bytes ++ [slash]⟩ : Path).components = (⟨bytes⟩ : Path).components := by
  have absolute : (⟨bytes ++ [slash]⟩ : Path).isAbsolute = (⟨bytes⟩ : Path).isAbsolute := by
    cases bytes with
    | nil => exact absurd rfl some_byte
    | cons b bytes => rfl
  have empty : [[]].filterMap Component.ofPiece? = [] := rfl
  simp only [components, pieces_append, absolute, head?_pieces_append, pieces, List.filterMap_append, empty,
    List.append_nil]

/-- The entry of a directory lies one component below it. -/
theorem components_join {dir : Path} {name : List UInt8} (isName : IsName name) :
    (dir.join ⟨name⟩).components = dir.components ++ [.normal name] := by
  have last : (pieces name).filterMap Component.ofPiece? = [.normal name] := by
    rw [pieces_of_notMem isName.single]
    simp [ofPiece?_of_name isName]
  have relative := not_isAbsolute_of_name isName
  rcases dir with ⟨bytes⟩
  unfold join
  rw [if_neg (by simp [relative])]
  by_cases empty : bytes = []
  · subst empty
    have nothing : (⟨[]⟩ : Path).components = [] := rfl
    have onward : ¬ (pieces name).head? == some [dot] := by
      simpa [pieces_of_notMem isName.single] using isName.onward
    simp only [true_or, if_true, List.nil_append, nothing]
    rw [components]
    simp only [relative, onward, last]
    rfl
  by_cases closed : bytes.getLast? = some slash
  · obtain ⟨first, rfl⟩ := List.getLast?_eq_some_iff.mp closed
    rw [if_pos (.inr closed), List.append_assoc, List.singleton_append, components_append, last]
  · rw [if_neg (by simp [empty, closed]), components_append, components_trailing empty, last]

theorem fileName?_join {dir : Path} {name : List UInt8} (isName : IsName name) :
    (dir.join ⟨name⟩).fileName? = some name := by
  rw [fileName?, components_join isName]
  simp

/-- A name without a dot is not split. -/
theorem splitLastDot?_eq_none_iff {name : List UInt8} : splitLastDot? name = none ↔ dot ∉ name := by
  induction name with
  | nil => simp [splitLastDot?]
  | cons b rest ih =>
    unfold splitLastDot?
    rcases found : splitLastDot? rest with _ | split
    · have plain := ih.mp found
      by_cases here : b = dot <;> simp [here, plain, eq_comm]
    · have dotted : dot ∈ rest := by
        by_contra plain
        cases found.symm.trans (ih.mpr plain)
      simp [dotted]

/-- The last dot of a name parts it in two. -/
theorem splitLastDot?_eq_some_iff {name before after : List UInt8} :
    splitLastDot? name = some (before, after) ↔ name = before ++ dot :: after ∧ dot ∉ after := by
  induction name generalizing before with
  | nil => simp [splitLastDot?]
  | cons b rest ih =>
    unfold splitLastDot?
    rcases found : splitLastDot? rest with _ | ⟨first, last⟩
    · have plain : dot ∉ rest := splitLastDot?_eq_none_iff.mp found
      cases before with
      | nil =>
        by_cases here : b = dot
        · subst here
          simp only [if_true, List.nil_append, Option.some.injEq, Prod.mk.injEq, true_and, List.cons.injEq]
          exact ⟨fun same => ⟨same, same ▸ plain⟩, And.left⟩
        · simp [here]
      | cons c before =>
        have apart : rest ≠ before ++ dot :: after := by
          rintro rfl
          simp at plain
        by_cases here : b = dot <;> simp [here, apart]
    · have dotted : dot ∈ rest := by
        by_contra plain
        cases found.symm.trans (splitLastDot?_eq_none_iff.mpr plain)
      cases before with
      | nil =>
        simp only [List.nil_append, Option.some.injEq, Prod.mk.injEq, List.cons.injEq]
        refine ⟨nofun, ?_⟩
        rintro ⟨⟨-, rfl⟩, plain⟩
        exact absurd dotted plain
      | cons c before =>
        have step := @ih before
        rw [found] at step
        simp only [Option.some.injEq, Prod.mk.injEq, List.cons.injEq, List.cons_append] at step ⊢
        rw [and_assoc, step, and_assoc]

/-- A name has an extension behind its last dot, unless it starts there. -/
theorem splitName_snd_eq_some_iff {name ext : List UInt8} :
    (splitName name).2 = some ext ↔ ∃ stem, stem ≠ [] ∧ name = stem ++ dot :: ext ∧ dot ∉ ext := by
  rcases found : splitLastDot? name with _ | ⟨first, last⟩
  · simp only [splitName, found]
    refine ⟨nofun, ?_⟩
    rintro ⟨stem, -, split⟩
    cases found.symm.trans (splitLastDot?_eq_some_iff.mpr split)
  · have unique : ∀ stem, name = stem ++ dot :: ext ∧ dot ∉ ext ↔ first = stem ∧ last = ext := by
      intro stem
      rw [← splitLastDot?_eq_some_iff, found]
      simp
    cases first with
    | nil =>
      simp only [splitName, found]
      refine ⟨nofun, ?_⟩
      rintro ⟨stem, some_byte, split⟩
      exact absurd ((unique stem).mp split).1.symm some_byte
    | cons b first =>
      simp only [splitName, found]
      constructor
      · rintro same
        cases same
        exact ⟨b :: first, nofun, (unique _).mpr ⟨rfl, rfl⟩⟩
      · rintro ⟨stem, -, split⟩
        rw [((unique stem).mp split).2]

end PluginHost.Path
