import PluginHost.Proofs.Library.Name

namespace PluginHost

/-- A byte below 128 is in no character but the one that it is the code of. -/
theorem toNat_of_mem_utf8EncodeChar {c : Char} {b : UInt8} (ascii : b < 128)
    (member : b ∈ String.utf8EncodeChar c) : c.toNat = b.toNat := by
  have small : b.toNat < 128 := UInt8.lt_iff_toNat_lt.mp ascii
  change c.val.toNat = b.toNat
  unfold String.utf8EncodeChar at member
  by_cases single : c.val.toNat ≤ 127
  · simp only [if_pos single, List.mem_singleton] at member
    rw [member, UInt8.toNat_ofNat']
    omega
  · -- every byte of a longer form has its highest bit set
    have high : ∃ n, 128 ≤ n ∧ n < 256 ∧ b = UInt8.ofNat n := by
      simp only [if_neg single] at member
      split_ifs at member <;> simp only [List.mem_cons, List.not_mem_nil, or_false] at member <;> grind
    obtain ⟨n, lower, upper, rfl⟩ := high
    rw [UInt8.toNat_ofNat'] at small
    omega

theorem utf8Bytes_append (s t : String) : utf8Bytes (s ++ t) = utf8Bytes s ++ utf8Bytes t := by
  simp [utf8Bytes_eq]

theorem utf8Bytes_empty : utf8Bytes "" = [] := by simp [utf8Bytes_eq]

theorem utf8Bytes_ne_nil {s : String} (nonempty : s ≠ "") : utf8Bytes s ≠ [] :=
  fun empty => nonempty (utf8Bytes_inj (empty.trans utf8Bytes_empty.symm))

/-- An ASCII character stands in a text where its byte stands among the bytes, since longer forms have none such. -/
theorem mem_utf8Bytes_iff {c : Char} (ascii : c.toNat < 128) (s : String) :
    asciiByte c ∈ utf8Bytes s ↔ c ∈ s.toList := by
  have code : (asciiByte c).toNat = c.toNat := by
    rw [asciiByte, UInt8.toNat_ofNat']
    exact Nat.mod_eq_of_lt (Nat.lt_trans ascii (by decide))
  rw [utf8Bytes_eq, List.mem_flatMap]
  constructor
  · rintro ⟨d, there, member⟩
    have same := toNat_of_mem_utf8EncodeChar (asciiByte_lt ascii) member
    rwa [Char.toNat_inj.mp (same.trans code)] at there
  · intro there
    refine ⟨c, there, ?_⟩
    have small : c.toNat ≤ 127 := Nat.le_of_lt_succ ascii
    simp [String.utf8EncodeChar, small, asciiByte]

namespace Path

/-- The path of what lies under a name in a directory: the two are joined, or written with a separator. -/
def LiesIn (dir : Path) (name : String) (path : Path) : Prop :=
  path = dir.join (.ofString name) ∨ path.bytes = dir.bytes ++ slash :: utf8Bytes name

/-- The file name of a path in a directory is the name under which it lies there. -/
theorem fileName?_of_liesIn {dir path : Path} {name : String} (isName : IsName (utf8Bytes name))
    (lies : LiesIn dir name path) : path.fileName? = some (utf8Bytes name) := by
  rcases lies with rfl | written
  · exact fileName?_join isName
  · have last : (pieces (utf8Bytes name)).filterMap Component.ofPiece? = [.normal (utf8Bytes name)] := by
      simp [pieces_of_notMem isName.single, ofPiece?_of_name isName]
    have whole : path = ⟨dir.bytes ++ slash :: utf8Bytes name⟩ := by rw [← written]
    rw [fileName?, whole, components_append, last]
    simp

theorem splitName_append {stem ext : List UInt8} (nonempty : stem ≠ []) (plain : dot ∉ ext) :
    splitName (stem ++ dot :: ext) = (stem, some ext) := by
  have split : splitLastDot? (stem ++ dot :: ext) = some (stem, ext) :=
    splitLastDot?_eq_some_iff.mpr ⟨rfl, plain⟩
  obtain ⟨b, rest, rfl⟩ := List.exists_cons_of_ne_nil nonempty
  rw [splitName, split]

end Path

namespace LibraryName

/-- An extension of libraries, in whatever case. -/
def IsExtension (ext : String) : Prop := ext.map Char.toLower ∈ extensions

instance (ext : String) : Decidable (IsExtension ext) := inferInstanceAs (Decidable (_ ∈ extensions))

theorem IsExtension.notMem {ext : String} (isExtension : IsExtension ext) {c : Char} (fixed : c.toLower = c)
    (foreign : ∀ known ∈ extensions, c ∉ known.toList) : c ∉ ext.toList := by
  intro member
  refine foreign _ isExtension ?_
  rw [String.toList_map, ← fixed]
  exact List.mem_map_of_mem member

theorem IsExtension.ne_empty {ext : String} (isExtension : IsExtension ext) : ext ≠ "" := by
  rintro rfl
  exact absurd isExtension (by decide +kernel)

section

variable {dir path : Path} {stem ext : String}

theorem utf8Bytes_file (stem ext : String) :
    utf8Bytes (stem ++ "." ++ ext) = utf8Bytes stem ++ Path.dot :: utf8Bytes ext := by
  have point : utf8Bytes "." = [Path.dot] := by decide +kernel
  simp [utf8Bytes_append, point]

/-- A stem and an extension make a name that a directory can hold. -/
theorem isName_file (nonempty : stem ≠ "") (single : '/' ∉ stem.toList) (isExtension : IsExtension ext) :
    Path.IsName (utf8Bytes (stem ++ "." ++ ext)) := by
  have long : 3 ≤ (utf8Bytes (stem ++ "." ++ ext)).length := by
    have first := List.length_pos_of_ne_nil (utf8Bytes_ne_nil nonempty)
    have last := List.length_pos_of_ne_nil (utf8Bytes_ne_nil isExtension.ne_empty)
    rw [utf8Bytes_file, List.length_append, List.length_cons]
    omega
  refine ⟨?_, ?_, ?_, ?_⟩
  · intro same
    simp [same] at long
  · change asciiByte '/' ∉ _
    rw [mem_utf8Bytes_iff (by decide)]
    simp [single, isExtension.notMem (c := '/') rfl (by decide)]
  · intro same
    simp [same] at long
  · intro same
    simp [same] at long

theorem splitName_file (nonempty : stem ≠ "") (isExtension : IsExtension ext) :
    Path.splitName (utf8Bytes (stem ++ "." ++ ext)) = (utf8Bytes stem, some (utf8Bytes ext)) := by
  rw [utf8Bytes_file]
  refine Path.splitName_append (utf8Bytes_ne_nil nonempty) ?_
  change asciiByte '.' ∉ _
  rw [mem_utf8Bytes_iff (by decide)]
  exact isExtension.notMem rfl (by decide)

theorem stem?_file (nonempty : stem ≠ "") (single : '/' ∉ stem.toList) (isExtension : IsExtension ext)
    (lies : Path.LiesIn dir (stem ++ "." ++ ext) path) : path.stem? = some (utf8Bytes stem) := by
  rw [Path.stem?, Path.fileName?_of_liesIn (isName_file nonempty single isExtension) lies, Option.map_some,
    splitName_file nonempty isExtension]

/-- Such a file is a library. -/
theorem isLibrary_file (nonempty : stem ≠ "") (single : '/' ∉ stem.toList) (isExtension : IsExtension ext)
    (lies : Path.LiesIn dir (stem ++ "." ++ ext) path) : isLibrary path := by
  have found : path.extension? = some (utf8Bytes ext) := by
    rw [Path.extension?, Path.fileName?_of_liesIn (isName_file nonempty single isExtension) lies, Option.bind_some,
      splitName_file nonempty isExtension]
  have text : utf8Text? (utf8Bytes ext) = some ext := utf8Text?_eq_some_iff.mpr rfl
  rw [isLibrary, found, Option.bind_some, text]
  exact List.contains_iff_mem.mpr isExtension

theorem stripPrefix_lib (name : String) : stripPrefix ("lib" ++ name).toList = name.toList := by
  rw [String.toList_append]
  rfl

theorem stripPrefix_of_other {cs : List Char} (bare : ¬ "lib".toList <+: cs) : stripPrefix cs = cs := by
  unfold stripPrefix
  split
  · rename_i rest
    exact absurd ⟨rest, rfl⟩ bare
  · rfl

theorem stripPrefix_eq_nil_iff {cs : List Char} : stripPrefix cs = [] ↔ cs = [] ∨ cs = "lib".toList := by
  unfold stripPrefix
  split <;> grind

/-- A plugin is called what is left of the stem of its file. -/
theorem pluginName?_of_stem (found : path.stem? = some (utf8Bytes stem)) {name : String} (nonempty : name ≠ "")
    (stripped : stripPrefix stem.toList = name.toList) : pluginName? path = some name := by
  have text : utf8Text? (utf8Bytes stem) = some stem := utf8Text?_eq_some_iff.mpr rfl
  simp only [pluginName?, found, text, stripped, Option.bind_eq_bind, Option.bind_some]
  split
  · rename_i empty
    exact absurd (String.toList_eq_nil_iff.mp empty) nonempty
  · rw [String.ofList_toList]

/-- A library file has a stem, and only its stem keeps it from naming a plugin. -/
theorem pluginName?_eq_none_iff (library : isLibrary path) : pluginName? path = none ↔
    ∃ bytes, path.stem? = some bytes ∧ (bytes = utf8Bytes "lib" ∨ ∀ s, utf8Bytes s ≠ bytes) := by
  obtain ⟨bytes, found, some_byte⟩ : ∃ bytes, path.stem? = some bytes ∧ bytes ≠ [] := by
    have extended : path.extension?.isSome := by
      unfold isLibrary at library
      cases found : path.extension? <;> simp_all
    obtain ⟨ext, extension⟩ := Option.isSome_iff_exists.mp extended
    obtain ⟨name, named, split⟩ := Option.bind_eq_some_iff.mp extension
    obtain ⟨first, some_byte, rfl, plain⟩ := Path.splitName_snd_eq_some_iff.mp split
    exact ⟨first, by rw [Path.stem?, named, Option.map_some, Path.splitName_append some_byte plain], some_byte⟩
  have only : (∃ b, path.stem? = some b ∧ (b = utf8Bytes "lib" ∨ ∀ s, utf8Bytes s ≠ b)) ↔
      bytes = utf8Bytes "lib" ∨ ∀ s, utf8Bytes s ≠ bytes := by
    simp [found]
  rw [only]
  cases text : utf8Text? bytes with
  | none =>
    have foreign : ∀ s, utf8Bytes s ≠ bytes := fun s same =>
      absurd (text.symm.trans (utf8Text?_eq_some_iff.mpr same)) nofun
    simp [pluginName?, found, text, foreign]
  | some s =>
    obtain rfl := utf8Text?_eq_some_iff.mp text
    have spelled : utf8Bytes s = utf8Bytes "lib" ↔ s.toList = "lib".toList :=
      ⟨fun same => congrArg String.toList (utf8Bytes_inj same), fun same => by rw [String.toList_inj.mp same]⟩
    have written : ¬ ∀ t, utf8Bytes t ≠ utf8Bytes s := fun foreign => foreign s rfl
    have nonempty : s.toList ≠ [] := fun empty =>
      some_byte (by rw [String.toList_eq_nil_iff.mp empty, utf8Bytes_empty])
    have unnamed : pluginName? path = none ↔ stripPrefix s.toList = [] := by
      simp only [pluginName?, found, text, Option.bind_eq_bind, Option.bind_some]
      split <;> simp_all
    rw [unnamed, stripPrefix_eq_nil_iff, spelled]
    simp [nonempty, written]

theorem entrySymbol_injective {first second : String} (same : entrySymbol first = entrySymbol second) :
    first = second := by
  have texts := congrArg String.toList same
  exact String.toList_inj.mp (by simpa [entrySymbol] using texts)

end

/-- The name of a plugin is read back from the file of its library, with the prefix and without it, in every directory
and for every extension in either case. The files without a name are those that are called like the prefix, and
those whose stem is no text. -/
theorem library_names_round_trip :
    (∀ (dir path : Path) (name ext : String), name ≠ "" → '/' ∉ name.toList → IsExtension ext →
        Path.LiesIn dir ("lib" ++ name ++ "." ++ ext) path → isLibrary path ∧ pluginName? path = some name) ∧
      (∀ (dir path : Path) (name ext : String), name ≠ "" → '/' ∉ name.toList → IsExtension ext →
        ¬ "lib".toList <+: name.toList →
          Path.LiesIn dir (name ++ "." ++ ext) path → isLibrary path ∧ pluginName? path = some name) ∧
      (∀ path, isLibrary path → (pluginName? path = none ↔
        ∃ bytes, path.stem? = some bytes ∧ (bytes = utf8Bytes "lib" ∨ ∀ s, utf8Bytes s ≠ bytes))) ∧
      ∀ first second, entrySymbol first = entrySymbol second → first = second := by
  refine ⟨?_, ?_, fun path => pluginName?_eq_none_iff, fun first second => entrySymbol_injective⟩
  · intro dir path name ext nonempty single isExtension lies
    have long : "lib" ++ name ≠ "" := by simp [← String.toList_inj]
    have clean : '/' ∉ ("lib" ++ name).toList := by simpa using single
    exact ⟨isLibrary_file long clean isExtension lies,
      pluginName?_of_stem (stem?_file long clean isExtension lies) nonempty (stripPrefix_lib name)⟩
  · intro dir path name ext nonempty single isExtension bare lies
    exact ⟨isLibrary_file nonempty single isExtension lies,
      pluginName?_of_stem (stem?_file nonempty single isExtension lies) nonempty (stripPrefix_of_other bare)⟩

/-- A name that begins with the prefix and has a dot, and a doubled separator before it. -/
theorem library_names_round_trip_dotted :
    let first : Path := .ofString "plugs//liblib.v2.DyLib"
    let second : Path := (Path.ofString "").join (.ofString "..so")
    let third : Path := .ofString "plugs/lib.so/."
    isLibrary first ∧ pluginName? first = some "lib.v2" ∧ isLibrary second ∧ pluginName? second = some "." ∧
      isLibrary third ∧ pluginName? third = none := by
  intro first second third
  obtain ⟨behind, bare, unnamed, -⟩ := library_names_round_trip
  obtain ⟨library, name⟩ := behind (.ofString "plugs/") first "lib.v2" "DyLib" (by decide) (by decide)
    (by decide +kernel) (.inr (by decide +kernel))
  obtain ⟨library', name'⟩ := bare (.ofString "") second "." "so" (by decide) (by decide) (by decide +kernel)
    (by decide) (.inl rfl)
  have library'' : isLibrary third := by decide +kernel
  exact ⟨library, name, library', name', library'',
    (unnamed third library'').mpr ⟨utf8Bytes "lib", by decide +kernel, .inl rfl⟩⟩

end LibraryName

end PluginHost
