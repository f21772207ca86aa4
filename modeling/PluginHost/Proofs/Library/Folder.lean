import PluginHost.Library.Folder
import PluginHost.Proofs.Library.Name
import PluginHost.Proofs.Path.Order

namespace PluginHost

/-- The content of a directory, each entry under a name of its own. -/
structure Enumerates (dir : Path) (entries : List FolderEntry) : Prop where
  named : ∀ entry ∈ entries, ∃ name, Path.IsName name ∧ entry.path = dir.join ⟨name⟩
  apart : (entries.map (·.path)).Nodup

variable {dir path : Path} {entries entries' : List FolderEntry}

/-- Files of different names are the entries of a directory. -/
theorem enumerates_files {names : List String} (named : ∀ name ∈ names, Path.IsName (utf8Bytes name))
    (apart : (names.map fun name => dir.join (.ofString name)).Nodup) :
    Enumerates dir (names.map fun name => ⟨dir.join (.ofString name), true⟩) where
  named := by
    intro entry member
    obtain ⟨name, known, rfl⟩ := List.mem_map.mp member
    exact ⟨utf8Bytes name, named name known, rfl⟩
  apart := by
    rw [List.map_map]
    exact apart

theorem Enumerates.sublist (enumerates : Enumerates dir entries) (fewer : entries'.Sublist entries) :
    Enumerates dir entries' where
  named entry member := enumerates.named entry (fewer.subset member)
  apart := enumerates.apart.sublist (fewer.map _)

/-- Two entries that come both before each other are one. -/
theorem Enumerates.antisymm (enumerates : Enumerates dir entries) {p q : Path} (first : p ∈ entries.map (·.path))
    (second : q ∈ entries.map (·.path)) (before : p.le q) (back : q.le p) : p = q := by
  obtain ⟨entry, member, rfl⟩ := List.mem_map.mp first
  obtain ⟨entry', member', rfl⟩ := List.mem_map.mp second
  obtain ⟨name, isName, here⟩ := enumerates.named entry member
  obtain ⟨name', isName', there⟩ := enumerates.named entry' member'
  have same := Path.components_eq_of_le before back
  rw [here, there, Path.components_join isName, Path.components_join isName'] at same
  have last : name = name' := by simpa using same
  rw [here, there, last]

namespace LibraryFolder

theorem candidates_perm (entries : List FolderEntry) :
    (candidates entries).Perm
      ((entries.filter fun entry => entry.isFile && LibraryName.isLibrary entry.path).map (·.path)) :=
  List.mergeSort_perm _ _

theorem mem_candidates_iff : path ∈ candidates entries ↔ ⟨path, true⟩ ∈ entries ∧ LibraryName.isLibrary path := by
  rw [(candidates_perm entries).mem_iff, List.mem_map]
  constructor
  · rintro ⟨⟨_, isFile⟩, member, rfl⟩
    obtain ⟨member, file, library⟩ : _ ∧ isFile = true ∧ _ := by simpa using member
    subst file
    exact ⟨member, library⟩
  · rintro ⟨member, library⟩
    exact ⟨⟨path, true⟩, by simpa using ⟨member, library⟩, rfl⟩

/-- The libraries in a directory are the files in it that have the name of one. -/
theorem mem_candidates_iff_named (enumerates : Enumerates dir entries) :
    path ∈ candidates entries ↔ ∃ name, Path.IsName name ∧ path = dir.join ⟨name⟩ ∧ ⟨path, true⟩ ∈ entries ∧
      ∃ stem ext, stem ≠ [] ∧ name = stem ++ Path.dot :: ext ∧
        ext.map lowerByte ∈ LibraryName.extensions.map utf8Bytes := by
  rw [mem_candidates_iff]
  constructor
  · rintro ⟨member, library⟩
    obtain ⟨name, isName, rfl⟩ := enumerates.named _ member
    exact ⟨name, isName, rfl, member, (LibraryName.isLibrary_join_iff isName).mp library⟩
  · rintro ⟨name, isName, rfl, member, spelled⟩
    exact ⟨member, (LibraryName.isLibrary_join_iff isName).mpr spelled⟩

theorem candidates_subset (entries : List FolderEntry) : candidates entries ⊆ entries.map (·.path) :=
  fun _ listed => List.mem_map_of_mem (mem_candidates_iff.mp listed).1

theorem candidates_sorted (entries : List FolderEntry) : (candidates entries).Pairwise fun p q => p.le q :=
  List.pairwise_mergeSort Path.le_trans Path.le_total _

theorem nodup_candidates (enumerates : Enumerates dir entries) : (candidates entries).Nodup :=
  (candidates_perm entries).nodup_iff.mpr (enumerates.apart.sublist (List.filter_sublist.map _))

/-- The order is strict, since no two entries have one name. -/
theorem candidates_increasing (enumerates : Enumerates dir entries) :
    (candidates entries).Pairwise fun p q => p.le q ∧ ¬ q.le p := by
  have sorted := (candidates_sorted entries).and (nodup_candidates enumerates)
  refine sorted.imp_of_mem fun {p q} first second ⟨before, apart⟩ => ⟨before, fun back => apart ?_⟩
  exact enumerates.antisymm (candidates_subset entries first) (candidates_subset entries second) before back

/-- The same libraries in order are the same list. -/
theorem candidates_unique (enumerates : Enumerates dir entries) {paths : List Path}
    (sorted : paths.Pairwise fun p q => p.le q) (perm : (candidates entries).Perm paths) :
    candidates entries = paths := by
  refine perm.eq_of_pairwise (fun p q first second before back => ?_) (candidates_sorted entries) sorted
  have second := perm.mem_iff.mpr second
  exact enumerates.antisymm (candidates_subset entries first) (candidates_subset entries second) before back

/-- The order in which the directory is read does not matter. -/
theorem candidates_eq_of_perm (enumerates : Enumerates dir entries) (perm : entries'.Perm entries) :
    candidates entries' = candidates entries := by
  refine (candidates_unique enumerates (candidates_sorted entries') ?_).symm
  refine (candidates_perm entries).trans (.trans ?_ (candidates_perm entries').symm)
  exact ((perm.symm.filter _).map _)

/-- A file that is deleted leaves the others in their order. -/
theorem candidates_filter (enumerates : Enumerates dir entries) (path : Path) :
    candidates (entries.filter (·.path ≠ path)) = (candidates entries).filter (· ≠ path) := by
  have fewer := enumerates.sublist (List.filter_sublist (p := (·.path ≠ path)))
  refine candidates_unique fewer ((candidates_sorted entries).filter _) ?_
  refine (candidates_perm _).trans (.trans ?_ ((candidates_perm entries).filter _).symm)
  have swap : entries.filter (fun entry => (entry.isFile && LibraryName.isLibrary entry.path) && entry.path ≠ path) =
      entries.filter (fun entry => entry.path ≠ path && (entry.isFile && LibraryName.isLibrary entry.path)) :=
    List.filter_congr fun entry _ => Bool.and_comm ..
  rw [List.filter_map, List.filter_filter, List.filter_filter, swap]
  rfl

/-- A file that is gone is missing from the candidates, and the others keep their order. -/
theorem candidates_erase {before after : List Path} (enumerates : Enumerates dir entries)
    (split : candidates entries = before ++ path :: after) :
    candidates (entries.filter (·.path ≠ path)) = before ++ after := by
  have nodup := nodup_candidates enumerates
  rw [candidates_filter enumerates, split]
  rw [split] at nodup
  obtain ⟨-, later, apart⟩ := List.nodup_append.mp nodup
  obtain ⟨absent, -⟩ := List.nodup_cons.mp later
  have first : before.filter (· ≠ path) = before :=
    List.filter_eq_self.mpr fun p member => by simpa using apart p member path List.mem_cons_self
  have last : after.filter (· ≠ path) = after := by
    refine List.filter_eq_self.mpr fun p member => decide_eq_true ?_
    rintro rfl
    exact absent member
  rw [List.filter_append, first, List.filter_cons_of_neg (by simp), last]

end LibraryFolder

end PluginHost
