import Mathlib.Data.List.Induction
import Mathlib.Data.List.Infix
import Mathlib.Data.List.TakeWhile
import PluginHost.TypeKey

namespace PluginHost

/-- A beginning of a type name that ends in `::`, with no generic arguments in it. -/
structure IsQualifier (path name : List Char) : Prop where
  start : path <+: name
  plain : '<' ∉ path
  closed : [':', ':'] <:+ path

/-- The module path of a type name: the longest qualifier, nothing where there is none. -/
structure IsModulePath (path name : List Char) : Prop where
  qualifies : path = [] ∨ IsQualifier path name
  longest : ∀ other, IsQualifier other name → other.length ≤ path.length

variable {c : Char} {cs path rest tail other short : List Char}

theorem IsQualifier.ne_nil (qualifier : IsQualifier path cs) : path ≠ [] := by
  rintro rfl
  simpa using qualifier.closed

theorem IsQualifier.getLast?_eq (qualifier : IsQualifier path cs) : path.getLast? = some ':' := by
  obtain ⟨front, rfl⟩ := qualifier.closed
  simp

/-- A qualifier of a longer name goes on in the rest, or it is the two colons that the name begins with. -/
theorem isQualifier_cons_iff : IsQualifier path (c :: rest) ↔ c ≠ '<' ∧ ∃ later, path = c :: later ∧
    (IsQualifier later rest ∨ c = ':' ∧ later = [':'] ∧ rest.head? = some ':') := by
  constructor
  · intro qualifier
    obtain ⟨d, later, rfl⟩ := List.exists_cons_of_ne_nil qualifier.ne_nil
    obtain ⟨rfl, start⟩ := List.cons_prefix_cons.mp qualifier.start
    have plain := qualifier.plain
    rw [List.mem_cons, not_or] at plain
    refine ⟨Ne.symm plain.1, later, rfl, ?_⟩
    rcases List.suffix_cons_iff.mp qualifier.closed with whole | closed
    · obtain ⟨rfl, rfl⟩ := List.cons.inj whole
      obtain ⟨more, rfl⟩ := start
      exact .inr ⟨rfl, rfl, rfl⟩
    · exact .inl ⟨start, plain.2, closed⟩
  · rintro ⟨other, later, rfl, further | ⟨rfl, rfl, first⟩⟩
    · refine ⟨List.cons_prefix_cons.mpr ⟨rfl, further.start⟩, ?_, further.closed.trans (List.suffix_cons c later)⟩
      simpa [Ne.symm other] using further.plain
    · obtain ⟨more, rfl⟩ := List.head?_eq_some_iff.mp first
      exact ⟨⟨more, rfl⟩, by simp, List.suffix_rfl⟩

theorem IsQualifier.cons (qualifier : IsQualifier path rest) (other : c ≠ '<') : IsQualifier (c :: path) (c :: rest) :=
  isQualifier_cons_iff.mpr ⟨other, path, rfl, .inl qualifier⟩

/-- The reader finds no path exactly in a name without a qualifier. -/
theorem afterModulePath_eq_none_iff : afterModulePath cs = none ↔ ∀ path, ¬ IsQualifier path cs := by
  induction cs with
  | nil => exact iff_of_true rfl fun path qualifier => qualifier.ne_nil (List.prefix_nil.mp qualifier.start)
  | cons c rest ih =>
    rw [afterModulePath]
    by_cases arguments : c = '<'
    · simp [isQualifier_cons_iff, arguments]
    · cases further : afterModulePath rest with
      | some tail =>
        have found : ∃ path, IsQualifier path rest := by simpa [further] using ih
        obtain ⟨path, qualifier⟩ := found
        simpa [arguments] using ⟨c :: path, qualifier.cons arguments⟩
      | none =>
        have last := ih.mp further
        simp [isQualifier_cons_iff, arguments, last]

/-- What the reader finds comes after the longest qualifier. The induction is that of the reader on the characters:
where the rest has a qualifier too, that is the longer one. -/
theorem exists_qualifier (found : afterModulePath cs = some tail) :
    ∃ path, IsQualifier path cs ∧ cs = path ++ tail ∧ ∀ other, IsQualifier other cs → other.length ≤ path.length := by
  -- two colons in the rest come before two that the name begins with, so that the last two are taken
  induction cs with
  | nil => simp [afterModulePath] at found
  | cons c rest ih =>
    rw [afterModulePath] at found
    by_cases arguments : c = '<'
    · simp [arguments] at found
    · rw [if_neg arguments] at found
      cases further : afterModulePath rest with
      | some later =>
        obtain rfl : later = tail := by simpa [further] using found
        obtain ⟨path, qualifier, whole, longest⟩ := ih further
        refine ⟨c :: path, qualifier.cons arguments, by simp [whole], ?_⟩
        intro other candidate
        obtain ⟨-, more, rfl, inside | ⟨-, rfl, -⟩⟩ := isQualifier_cons_iff.mp candidate
        · simpa using longest more inside
        · exact Nat.succ_le_succ (List.length_pos_of_ne_nil qualifier.ne_nil)
      | none =>
        have last := afterModulePath_eq_none_iff.mp further
        obtain ⟨⟨rfl, first⟩, rfl⟩ : (c = ':' ∧ rest.head? = some ':') ∧ rest.tail = tail := by
          simpa [further] using found
        obtain ⟨more, rfl⟩ := List.head?_eq_some_iff.mp first
        refine ⟨[':', ':'], isQualifier_cons_iff.mpr ⟨arguments, [':'], rfl, .inr ⟨rfl, rfl, rfl⟩⟩, rfl, ?_⟩
        intro other candidate
        obtain ⟨-, later, rfl, inside | ⟨-, rfl, -⟩⟩ := isQualifier_cons_iff.mp candidate
        · exact absurd inside (last later)
        · exact le_rfl

theorem toList_shortTypeName (name : String) :
    (shortTypeName name).toList = (afterModulePath name.toList).getD name.toList := by
  rw [shortTypeName]
  cases afterModulePath name.toList <;> simp

theorem isModulePath_nil (unqualified : ∀ other, ¬ IsQualifier other cs) : IsModulePath [] cs :=
  ⟨.inl rfl, fun other candidate => absurd candidate (unqualified other)⟩

/-- Every name is its module path and its short name. -/
theorem exists_modulePath (name : String) :
    ∃ path : String, IsModulePath path.toList name.toList ∧ name = path ++ shortTypeName name := by
  cases found : afterModulePath name.toList with
  | none => exact ⟨"", isModulePath_nil (afterModulePath_eq_none_iff.mp found), by simp [shortTypeName, found]⟩
  | some tail =>
    obtain ⟨path, qualifier, whole, longest⟩ := exists_qualifier found
    refine ⟨.ofList path, ⟨.inr (by simpa using qualifier), by simpa using longest⟩, ?_⟩
    rw [← String.toList_inj, String.toList_append, toList_shortTypeName, found]
    simpa using whole

theorem IsModulePath.start (modulePath : IsModulePath path cs) : path <+: cs := by
  rcases modulePath.qualifies with rfl | qualifier
  · exact List.nil_prefix
  · exact qualifier.start

theorem IsModulePath.plain (modulePath : IsModulePath path cs) : '<' ∉ path := by
  rcases modulePath.qualifies with rfl | qualifier
  · exact List.not_mem_nil
  · exact qualifier.plain

/-- No other module path is longer, so there is only one. -/
theorem IsModulePath.length_le (modulePath : IsModulePath path cs) (second : IsModulePath other cs) :
    other.length ≤ path.length := by
  rcases second.qualifies with rfl | qualifier
  · exact Nat.zero_le _
  · exact modulePath.longest other qualifier

theorem IsModulePath.unique (modulePath : IsModulePath path cs) (second : IsModulePath other cs) : path = other :=
  (List.prefix_of_prefix_length_le modulePath.start second.start (second.length_le modulePath)).eq_of_length_le
    (modulePath.length_le second)

/-- The short name is what is left when the module path is taken off. -/
theorem shortTypeName_eq_iff {name short : String} :
    shortTypeName name = short ↔ ∃ path : String, IsModulePath path.toList name.toList ∧ name = path ++ short := by
  obtain ⟨path, modulePath, whole⟩ := exists_modulePath name
  constructor
  · rintro rfl
    exact ⟨path, modulePath, whole⟩
  · rintro ⟨other, second, split⟩
    obtain rfl : path = other := String.toList_inj.mp (modulePath.unique second)
    exact (String.append_right_inj path).mp (whole.symm.trans split)

/-- Of three colons the last two end the module path. -/
example : shortTypeName "a:::B<c::D>" = "B<c::D>" := by decide

/-- What is left when the module path is taken off has no qualifier: with one, the path would not be the longest. -/
theorem IsModulePath.not_isQualifier (modulePath : IsModulePath path (path ++ short)) (other : List Char) :
    ¬ IsQualifier other short := by
  intro qualifier
  have longer : IsQualifier (path ++ other) (path ++ short) := by
    refine ⟨(List.prefix_append_right_inj path).mpr qualifier.start, ?_,
      qualifier.closed.trans (List.suffix_append path other)⟩
    simpa using ⟨modulePath.plain, qualifier.plain⟩
  have bound := modulePath.longest _ longer
  have more := List.length_pos_of_ne_nil qualifier.ne_nil
  rw [List.length_append] at bound
  omega

/-- A beginning without arguments ends before they begin. -/
theorem prefix_of_plain {front args : List Char} (bounded : args = [] ∨ args.head? = some '<')
    (start : front <+: cs ++ args) (plain : '<' ∉ front) : front <+: cs := by
  rcases bounded with rfl | opened
  · simpa using start
  · obtain ⟨more, rfl⟩ := List.head?_eq_some_iff.mp opened
    rcases List.prefix_or_prefix_of_prefix start (List.prefix_append cs _) with within | ⟨beyond, rfl⟩
    · exact within
    · cases beyond with
      | nil => simp
      | cons c beyond =>
        obtain ⟨rfl, -⟩ := List.cons_prefix_cons.mp ((List.prefix_append_right_inj cs).mp start)
        simp at plain

/-- No colon in the last segment of a path and no arguments before it: so the rest of the path is the module path. -/
theorem isModulePath_of_segment {last args : List Char} (plain : '<' ∉ path) (closed : path = [] ∨ [':', ':'] <:+ path)
    (segment : ':' ∉ last) (bounded : args = [] ∨ args.head? = some '<') :
    IsModulePath path (path ++ last ++ args) := by
  refine ⟨closed.imp_right fun ends => ⟨⟨last ++ args, by simp⟩, plain, ends⟩, fun other candidate => ?_⟩
  have within : other <+: path ++ last := prefix_of_plain bounded candidate.start candidate.plain
  rcases List.prefix_or_prefix_of_prefix within (List.prefix_append path last) with shorter | ⟨more, rfl⟩
  · exact shorter.length_le
  · have inside : more <+: last := (List.prefix_append_right_inj path).mp within
    cases more using List.reverseRecOn with
    | nil => simp
    | append_singleton more c =>
      obtain rfl : c = ':' := by simpa using candidate.getLast?_eq
      exact absurd (inside.mem (by simp)) segment

/-- Joined segments are the path of all but the last, and the last. -/
theorem exists_path_of_segments {segments : List String} (nonempty : segments ≠ [])
    (plain : ∀ segment ∈ segments, '<' ∉ segment.toList) : ∃ path : String,
    "::".intercalate segments = path ++ segments.getLast nonempty ∧ '<' ∉ path.toList ∧
      (path.toList = [] ∨ [':', ':'] <:+ path.toList) := by
  induction segments with
  | nil => exact absurd rfl nonempty
  | cons segment more ih =>
    by_cases last : more = []
    · subst last
      exact ⟨"", by simp, List.not_mem_nil, .inl rfl⟩
    · obtain ⟨path, joined, inner, closed⟩ := ih last fun s member => plain s (List.mem_cons_of_mem _ member)
      refine ⟨segment ++ "::" ++ path, ?_, ?_, .inr ?_⟩
      · simp only [String.intercalate_cons_of_ne_nil last, joined, List.getLast_cons last, String.append_assoc]
      · simpa using ⟨plain segment List.mem_cons_self, inner⟩
      · rw [String.toList_append, String.toList_append]
        rcases closed with empty | ends
        · rw [empty, List.append_nil]
          exact List.suffix_append segment.toList _
        · exact ends.trans (List.suffix_append _ path.toList)

/-- A path of plain segments is taken off up to the last one, which keeps the arguments. -/
theorem shortTypeName_segments {segments : List String} {args : String} (nonempty : segments ≠ [])
    (plain : ∀ segment ∈ segments, ':' ∉ segment.toList ∧ '<' ∉ segment.toList)
    (bounded : args = "" ∨ args.toList.head? = some '<') :
    shortTypeName ("::".intercalate segments ++ args) = segments.getLast nonempty ++ args := by
  obtain ⟨path, joined, inner, closed⟩ :=
    exists_path_of_segments nonempty fun segment member => (plain segment member).2
  have segment : ':' ∉ (segments.getLast nonempty).toList := (plain _ (List.getLast_mem nonempty)).1
  refine shortTypeName_eq_iff.mpr ⟨path, ?_, by rw [joined, String.append_assoc]⟩
  rw [joined, String.toList_append, String.toList_append]
  exact isModulePath_of_segment inner closed segment (bounded.imp_left fun none => by simp [none])

theorem not_isQualifier_shortTypeName (name : String) (path : List Char) :
    ¬ IsQualifier path (shortTypeName name).toList := by
  obtain ⟨front, modulePath, whole⟩ := exists_modulePath name
  have split : name.toList = front.toList ++ (shortTypeName name).toList := by
    rw [← String.toList_append, ← whole]
  exact (split ▸ modulePath).not_isQualifier path

theorem shortTypeName_shortTypeName (name : String) : shortTypeName (shortTypeName name) = shortTypeName name := by
  have bare : IsModulePath "".toList (shortTypeName name).toList :=
    isModulePath_nil (not_isQualifier_shortTypeName name)
  exact shortTypeName_eq_iff.mpr ⟨"", bare, by simp⟩

/-- Two colons before any arguments would end a qualifier. -/
theorem colons_notMem_shortTypeName (name : String) :
    ¬ [':', ':'] <:+: (shortTypeName name).toList.takeWhile (· ≠ '<') := by
  rintro ⟨front, back, inside⟩
  have start : front ++ [':', ':'] <+: (shortTypeName name).toList.takeWhile (· ≠ '<') := ⟨back, inside⟩
  refine not_isQualifier_shortTypeName name (front ++ [':', ':'])
    ⟨start.trans (List.takeWhile_prefix _), fun arguments => ?_, List.suffix_append _ _⟩
  simpa using List.mem_takeWhile_imp (start.mem arguments)

/-- Generic arguments stay as they are, with the paths in them. -/
theorem arguments_shortTypeName (name : String) :
    (shortTypeName name).toList.dropWhile (· ≠ '<') = name.toList.dropWhile (· ≠ '<') := by
  obtain ⟨path, modulePath, whole⟩ := exists_modulePath name
  conv_rhs => rw [whole, String.toList_append]
  refine (List.dropWhile_append_of_pos fun c member => decide_eq_true ?_).symm
  rintro rfl
  exact modulePath.plain member

/-- A short name is the name without its module path, the longest beginning that ends in `::` before any generic
arguments. So a short name has no path of its own, and arguments keep theirs. -/
theorem module_path_stripped (name : String) :
    (∀ short, shortTypeName name = short ↔
        ∃ path : String, IsModulePath path.toList name.toList ∧ name = path ++ short) ∧
      (¬ [':', ':'] <:+: (shortTypeName name).toList.takeWhile (· ≠ '<')) ∧
      shortTypeName (shortTypeName name) = shortTypeName name ∧
      (shortTypeName name).toList.dropWhile (· ≠ '<') = name.toList.dropWhile (· ≠ '<') ∧
      ∀ (segments : List String) (args : String) (nonempty : segments ≠ []),
        (∀ segment ∈ segments, ':' ∉ segment.toList ∧ '<' ∉ segment.toList) →
          args = "" ∨ args.toList.head? = some '<' → name = "::".intercalate segments ++ args →
            shortTypeName name = segments.getLast nonempty ++ args := by
  refine ⟨fun short => shortTypeName_eq_iff, colons_notMem_shortTypeName name, shortTypeName_shortTypeName name,
    arguments_shortTypeName name, ?_⟩
  rintro segments args nonempty plain bounded rfl
  exact shortTypeName_segments nonempty plain bounded

/-- Paths in the arguments stay. -/
theorem module_path_stripped_map :
    let segments := ["a", "b", "Map"]
    let args := "<a::K, a::V>"
    (∀ segment ∈ segments, ':' ∉ segment.toList ∧ '<' ∉ segment.toList) ∧ args.toList.head? = some '<' ∧
      shortTypeName ("::".intercalate segments ++ args) = "Map<a::K, a::V>" := by
  intro segments args
  have plain : ∀ segment ∈ segments, ':' ∉ segment.toList ∧ '<' ∉ segment.toList := by decide
  have opened : args.toList.head? = some '<' := by decide
  obtain ⟨-, -, -, -, last⟩ := module_path_stripped ("::".intercalate segments ++ args)
  exact ⟨plain, opened, last segments args (by decide) plain (.inr opened) rfl⟩

end PluginHost
