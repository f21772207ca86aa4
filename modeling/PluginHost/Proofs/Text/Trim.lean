import Mathlib.Data.List.DropRight
import PluginHost.Text.Blank

namespace PluginHost.Text

/-- Characters that neither begin nor end with a blank. -/
structure Trimmed (cs : List Char) : Prop where
  head : ∀ c ∈ cs.head?, isBlank c = false
  last : ∀ c ∈ cs.getLast?, isBlank c = false

theorem dropWhile_blank_append {blanks cs : List Char} (blank : ∀ c ∈ blanks, isBlank c)
    (bare : ∀ c ∈ cs.head?, isBlank c = false) : (blanks ++ cs).dropWhile isBlank = cs := by
  rw [List.dropWhile_append_of_pos blank]
  cases cs with
  | nil => rfl
  | cons c cs => exact List.dropWhile_cons_of_neg (by simp [bare c rfl])

theorem Trimmed.trimChars_append {left name right : List Char} (trimmed : Trimmed name)
    (before : ∀ c ∈ left, isBlank c) (after : ∀ c ∈ right, isBlank c) :
    trimChars (left ++ name ++ right) = name := by
  by_cases empty : name = []
  · subst empty
    have all : (left ++ [] ++ right).dropWhile isBlank = [] := by
      refine List.dropWhile_eq_nil_iff.mpr fun c member => ?_
      rcases List.mem_append.mp member with first | second
      · exact before c (by simpa using first)
      · exact after c second
    rw [trimChars, all]
    rfl
  · have head : ∀ c ∈ (name ++ right).head?, isBlank c = false := by
      rw [List.head?_append_of_ne_nil _ empty]
      exact trimmed.head
    have last : ∀ c ∈ name.reverse.head?, isBlank c = false := by
      rw [List.head?_reverse]
      exact trimmed.last
    rw [trimChars, List.append_assoc, dropWhile_blank_append before head, List.reverse_append,
      dropWhile_blank_append (by simpa using after) last, List.reverse_reverse]

/-- Trimming leaves a trimmed text. -/
theorem trimmed_trimChars (cs : List Char) : Trimmed (trimChars cs) := by
  have bare (ds : List Char) : ∀ c ∈ (ds.dropWhile isBlank).head?, isBlank c = false := by
    intro c first
    have stop := List.head?_dropWhile_not isBlank ds
    rwa [Option.mem_def.mp first] at stop
  refine ⟨fun c first => ?_, fun c last => ?_⟩
  · -- the rest of a list without blanks at its end begins as the list does
    obtain ⟨more, whole⟩ : trimChars cs <+: cs.dropWhile isBlank := List.rdropWhile_prefix isBlank _
    refine bare cs c ?_
    rw [← whole, List.head?_append, Option.mem_def.mp first]
    rfl
  · rw [trimChars, List.getLast?_reverse] at last
    exact bare _ c last

theorem trimChars_eq_iff {cs name : List Char} : trimChars cs = name ↔ Trimmed name ∧ ∃ left right : List Char,
    cs = left ++ name ++ right ∧ (∀ c ∈ left, isBlank c) ∧ ∀ c ∈ right, isBlank c := by
  constructor
  · rintro rfl
    refine ⟨trimmed_trimChars cs, cs.takeWhile isBlank, (cs.dropWhile isBlank).rtakeWhile isBlank, ?_, ?_, ?_⟩
    · have inner : trimChars cs ++ (cs.dropWhile isBlank).rtakeWhile isBlank = cs.dropWhile isBlank :=
        List.rdropWhile_append_rtakeWhile
      rw [List.append_assoc, inner, List.takeWhile_append_dropWhile]
    · exact fun c => List.mem_takeWhile_imp
    · exact fun c => List.mem_rtakeWhile_imp
  · rintro ⟨trimmed, left, right, rfl, before, after⟩
    exact trimmed.trimChars_append before after

/-- The trimmed text is the one that blanks on both sides make up the text with. -/
theorem trim_eq_iff {s name : String} : trim s = name ↔ Trimmed name.toList ∧ ∃ left right : List Char,
    s.toList = left ++ name.toList ++ right ∧ (∀ c ∈ left, isBlank c) ∧ ∀ c ∈ right, isBlank c := by
  rw [← trimChars_eq_iff, trim, ← String.toList_inj, String.toList_ofList]

theorem trimmed_iff {name : String} : Trimmed name.toList ↔ trim name = name :=
  ⟨fun trimmed => trim_eq_iff.mpr ⟨trimmed, [], [], by simp⟩, fun same => (trim_eq_iff.mp same).1⟩

end PluginHost.Text
