import PluginHost.Catalogue
import PluginHost.Config.Override
import PluginHost.Proofs.Text.Split
import PluginHost.Proofs.Text.Trim

namespace PluginHost.RuntimeConfig

/-- The name stands in the list: between commas or ends of the list, with nothing but blanks around it. -/
structure Lists (list name : String) : Prop where
  nonempty : name ≠ ""
  trimmed : Text.Trimmed name.toList
  plain : ',' ∉ name.toList
  place : ∃ before left right after : List Char,
    list.toList = before ++ (left ++ name.toList ++ right) ++ after ∧
      (before = [] ∨ before.getLast? = some ',') ∧ (after = [] ∨ after.head? = some ',') ∧
      (∀ c ∈ left, Text.isBlank c) ∧ ∀ c ∈ right, Text.isBlank c

theorem comma_notMem_of_blank {cs : List Char} (blank : ∀ c ∈ cs, Text.isBlank c) : ',' ∉ cs :=
  fun member => absurd (blank ',' member) (by decide)

/-- What is listed are the trimmed pieces between the commas, the empty ones left out. -/
theorem mem_listedNames_iff {list name : String} : name ∈ listedNames list ↔ Lists list name := by
  have listed : name ∈ listedNames list ↔ ∃ piece ∈ Text.split ',' list, Text.trim piece = name ∧ name ≠ "" := by
    simp only [listedNames, List.mem_filter, List.mem_map, decide_eq_true_eq]
    grind
  rw [listed]
  constructor
  · rintro ⟨piece, member, trims, nonempty⟩
    obtain ⟨plain, before, after, whole, start, stop⟩ := Text.mem_split_iff.mp member
    obtain ⟨trimmed, left, right, parts, blank, blank'⟩ := Text.trim_eq_iff.mp trims
    rw [parts] at plain whole
    exact ⟨nonempty, trimmed, by simp_all, before, left, right, after, whole, start, stop, blank, blank'⟩
  · rintro ⟨nonempty, trimmed, plain, before, left, right, after, whole, start, stop, blank, blank'⟩
    refine ⟨.ofList (left ++ name.toList ++ right), Text.mem_split_iff.mpr ⟨?_, before, after, ?_, start, stop⟩,
      Text.trim_eq_iff.mpr ⟨trimmed, left, right, String.toList_ofList, blank, blank'⟩, nonempty⟩
    · simp [plain, comma_notMem_of_blank blank, comma_notMem_of_blank blank']
    · rw [String.toList_ofList, whole]

/-- A name as it is written into a list, between blanks. -/
structure Entry where
  left : String
  name : String
  right : String
  nonempty : name ≠ ""
  trimmed : Text.trim name = name
  plain : ',' ∉ name.toList
  blankLeft : ∀ c ∈ left.toList, Text.isBlank c
  blankRight : ∀ c ∈ right.toList, Text.isBlank c

def Entry.text (e : Entry) : String := e.left ++ e.name ++ e.right

theorem Entry.trim_text (e : Entry) : Text.trim e.text = e.name :=
  Text.trim_eq_iff.mpr ⟨Text.trimmed_iff.mpr e.trimmed, e.left.toList, e.right.toList, by simp [text],
    e.blankLeft, e.blankRight⟩

theorem Entry.comma_notMem_text (e : Entry) : ',' ∉ e.text.toList := by
  simp [text, e.plain, comma_notMem_of_blank e.blankLeft, comma_notMem_of_blank e.blankRight]

/-- A list that is written from names holds these names. -/
theorem listedNames_written (entries : List Entry) :
    listedNames (",".intercalate (entries.map Entry.text)) = entries.map Entry.name := by
  by_cases empty : entries = []
  · subst empty
    decide
  · have parted : Text.split ',' (",".intercalate (entries.map Entry.text)) = entries.map Entry.text := by
      refine Text.split_intercalate (by simpa using empty) fun piece member => ?_
      obtain ⟨e, -, rfl⟩ := List.mem_map.mp member
      exact e.comma_notMem_text
    rw [listedNames, parted, List.map_map, List.filter_eq_self.mpr]
    · exact List.map_congr_left fun e _ => e.trim_text
    · intro name member
      obtain ⟨e, -, rfl⟩ := List.mem_map.mp member
      simp [Entry.trim_text, e.nonempty]

theorem mem_foldl_insert {names : List String} {set : Std.ExtTreeSet String compare} {name : String} :
    name ∈ names.foldl (·.insert ·) set ↔ name ∈ set ∨ name ∈ names := by
  induction names generalizing set with
  | nil => simp
  | cons first rest ih =>
    rw [List.foldl_cons, ih, Std.ExtTreeSet.mem_insert, Std.compare_eq_iff_eq, List.mem_cons]
    grind

variable {config : RuntimeConfig} {var : String → Option String}

theorem mem_blacklist_applyOverrides {name : String} :
    name ∈ (config.applyOverrides var).1.plugins.blacklist ↔ name ∈ config.plugins.blacklist ∨
      ∃ list, var "VOID_PLUGIN_BLACKLIST" = some list ∧ name ∈ listedNames list := by
  rw [applyOverrides, mem_foldl_insert]
  cases var "VOID_PLUGIN_BLACKLIST" <;> simp

theorem dir_applyOverrides {dir : String} (given : var "VOID_PLUGIN_DIR" = some dir) (nonempty : dir ≠ "") :
    (config.applyOverrides var).1.plugins.dir = .ofString dir := by
  simp [applyOverrides, overridingDir?, given, Option.filter, nonempty]

theorem dir_applyOverrides_of_none (without : var "VOID_PLUGIN_DIR" = none ∨ var "VOID_PLUGIN_DIR" = some "") :
    (config.applyOverrides var).1.plugins.dir = config.plugins.dir := by
  rcases without with absent | empty
  · simp [applyOverrides, overridingDir?, absent]
  · simp [applyOverrides, overridingDir?, empty, Option.filter]

/-- What the variables say is said once: the second time they find it in the configuration. -/
theorem applyOverrides_applyOverrides :
    ((config.applyOverrides var).1.applyOverrides var).1 = (config.applyOverrides var).1 := by
  have blacklist : ((config.applyOverrides var).1.applyOverrides var).1.plugins.blacklist =
      (config.applyOverrides var).1.plugins.blacklist := by
    refine Std.ExtTreeSet.ext_mem fun name => ?_
    rw [mem_blacklist_applyOverrides, mem_blacklist_applyOverrides]
    tauto
  have dir : ((config.applyOverrides var).1.applyOverrides var).1.plugins.dir =
      (config.applyOverrides var).1.plugins.dir := by
    unfold applyOverrides
    cases overridingDir? var <;> rfl
  have loadDynamic : ((config.applyOverrides var).1.applyOverrides var).1.plugins.loadDynamic =
      (config.applyOverrides var).1.plugins.loadDynamic := by
    unfold applyOverrides
    cases var "VOID_LOAD_PLUGINS" <;> rfl
  have whole (c : RuntimeConfig) : c = ⟨⟨c.plugins.dir, c.plugins.blacklist, c.plugins.loadDynamic⟩, c.settings, c.path?⟩ :=
    rfl
  rw [whole ((config.applyOverrides var).1.applyOverrides var).1, blacklist, dir, loadDynamic]
  rfl

/-- Which variable decides over which part of a configuration: names are added to the blacklist, a directory and a
flag replace what was configured, and nothing else changes, also when the variables are applied once more. Any
names without commas can be written into the list and are read back, whatever blanks are around them. -/
theorem overrides_decided (config : RuntimeConfig) (var : String → Option String) :
    let next := (config.applyOverrides var).1
    (∀ name, name ∈ next.plugins.blacklist ↔
        name ∈ config.plugins.blacklist ∨ ∃ list, var "VOID_PLUGIN_BLACKLIST" = some list ∧ Lists list name) ∧
      (∀ dir, var "VOID_PLUGIN_DIR" = some dir → dir ≠ "" → next.plugins.dir = .ofString dir) ∧
      (var "VOID_PLUGIN_DIR" = none ∨ var "VOID_PLUGIN_DIR" = some "" → next.plugins.dir = config.plugins.dir) ∧
      (∀ flag, var "VOID_LOAD_PLUGINS" = some flag →
        (next.plugins.loadDynamic ↔ Text.trim flag ∉ ["0", "false", "no", "off"])) ∧
      (var "VOID_LOAD_PLUGINS" = none → next.plugins.loadDynamic = config.plugins.loadDynamic) ∧
      next.settings = config.settings ∧ next.path? = config.path? ∧
      (next.applyOverrides var).1 = next ∧
      (∀ (M : Type) dir name, (Catalogue.ofConfig next.plugins dir : Catalogue M).isBlacklisted name ↔
        name ∈ next.plugins.blacklist) ∧
      ∀ (entries : List Entry) (names : Std.ExtTreeSet String compare),
        (∀ name, name ∈ names ↔ name ∈ entries.map Entry.name) → config.plugins.blacklist = ∅ →
          var "VOID_PLUGIN_BLACKLIST" = some (",".intercalate (entries.map Entry.text)) →
            next.plugins.blacklist = names := by
  intro next
  refine ⟨?_, fun dir => dir_applyOverrides, dir_applyOverrides_of_none, ?_, ?_, rfl, rfl,
    applyOverrides_applyOverrides, fun M dir name => Std.ExtTreeSet.contains_iff_mem, ?_⟩
  · intro name
    simp only [next, mem_blacklist_applyOverrides, mem_listedNames_iff]
  · intro flag given
    simp [next, applyOverrides, given, flagHolds]
  · intro absent
    simp [next, applyOverrides, absent]
  · intro entries names same empty written
    refine Std.ExtTreeSet.ext_mem fun name => ?_
    rw [mem_blacklist_applyOverrides, same, empty, written]
    simp [listedNames_written]

/-- Names with blanks around them, an empty piece and a name that is blacklisted already. -/
theorem overrides_decided_spaced :
    let config : RuntimeConfig := {}
    let var : String → Option String := fun name =>
      if name = "VOID_PLUGIN_BLACKLIST" then some " audio\t,\u2003net,audio"
      else if name = "VOID_LOAD_PLUGINS" then some " no\n" else if name = "VOID_PLUGIN_DIR" then some "" else none
    let next := (config.applyOverrides var).1
    next.plugins.blacklist = ((∅ : Std.ExtTreeSet String compare).insert "audio").insert "net" ∧
      next.plugins.loadDynamic = false ∧ next.plugins.dir = .ofString "plugins" ∧ (next.applyOverrides var).1 = next := by
  intro config var next
  let entries : List Entry :=
    [⟨" ", "audio", "\t", by decide, by decide, by decide, List.all_eq_true.mp rfl, List.all_eq_true.mp rfl⟩,
     ⟨"\u2003", "net", "", by decide, by decide, by decide, List.all_eq_true.mp rfl, List.all_eq_true.mp rfl⟩,
     ⟨"", "audio", "", by decide, by decide, by decide, List.all_eq_true.mp rfl, List.all_eq_true.mp rfl⟩]
  obtain ⟨-, -, unset, flag, -, -, -, again, -, written⟩ := overrides_decided config var
  refine ⟨written entries _ ?_ rfl (by decide), ?_, unset (.inr rfl), again⟩
  · intro name
    simp only [entries, Std.ExtTreeSet.mem_insert, Std.ExtTreeSet.not_mem_empty, Std.compare_eq_iff_eq, List.map_cons,
      List.map_nil, List.mem_cons, List.not_mem_nil]
    grind
  · simpa using (flag " no\n" rfl).not.mpr (by decide)

end PluginHost.RuntimeConfig
