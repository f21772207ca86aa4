import PluginHost.Library.Name
import PluginHost.Proofs.Path.Name

namespace PluginHost

/-- An ASCII letter in lower case. -/
def lowerByte (b : UInt8) : UInt8 := if 0x41 ≤ b ∧ b ≤ 0x5A then b + 0x20 else b

theorem toList_byteArray (bytes : ByteArray) : bytes.toList = bytes.data.toList := by
  have rest : ∀ i done, ByteArray.toList.loop bytes i done = done.reverse ++ bytes.data.toList.drop i := by
    intro i done
    fun_induction ByteArray.toList.loop bytes i done with
    | case1 i done more ih =>
      have bound : i < bytes.data.toList.length := more
      have here : bytes.get! i = bytes.data.toList[i] := getElem!_pos bytes.data i more
      rw [ih, List.drop_eq_getElem_cons bound, here]
      simp
    | case2 i done whole =>
      have bound : bytes.data.toList.length ≤ i := Nat.le_of_not_lt whole
      rw [List.drop_eq_nil_of_le bound, List.append_nil]
  rw [ByteArray.toList, rest]
  rfl

theorem utf8Bytes_ofList (cs : List Char) : utf8Bytes (String.ofList cs) = cs.flatMap String.utf8EncodeChar := by
  rw [utf8Bytes, toList_byteArray, String.toUTF8_eq_toByteArray, String.toByteArray_ofList, List.utf8Encode]
  simp

theorem utf8Bytes_eq (s : String) : utf8Bytes s = s.toList.flatMap String.utf8EncodeChar := by
  rw [← utf8Bytes_ofList, String.ofList_toList]

theorem utf8Bytes_inj {s t : String} (same : utf8Bytes s = utf8Bytes t) : s = t := by
  rw [utf8Bytes, utf8Bytes, toList_byteArray, toList_byteArray] at same
  exact String.toByteArray_inj.mp (ByteArray.ext (Array.toList_inj.mp same))

/-- Bytes are read as the text that is written with them, if there is one. -/
theorem utf8Text?_eq_some_iff {bytes : List UInt8} {s : String} : utf8Text? bytes = some s ↔ utf8Bytes s = bytes := by
  have whole : utf8Bytes s = bytes ↔ s.toByteArray = ⟨bytes.toArray⟩ := by
    rw [utf8Bytes, toList_byteArray, String.toUTF8_eq_toByteArray]
    constructor
    · rintro rfl
      simp
    · intro same
      rw [same]
  rw [whole, utf8Text?, String.fromUTF8?]
  split
  · rename_i valid
    rw [Option.some.injEq]
    exact ⟨fun same => same ▸ rfl, fun same => String.toByteArray_inj.mp same.symm⟩
  · rename_i invalid
    refine ⟨nofun, fun same => absurd ?_ invalid⟩
    rw [← same]
    exact s.isValidUTF8

/-- The one byte of an ASCII character. -/
def asciiByte (c : Char) : UInt8 := UInt8.ofNat c.val.toNat

theorem utf8Bytes_of_ascii {s : String} (ascii : ∀ c ∈ s.toList, c.toNat < 128) :
    utf8Bytes s = s.toList.map asciiByte := by
  rw [utf8Bytes_eq, List.map_eq_flatMap]
  refine List.flatMap_congr fun c member => ?_
  have small : c.toNat ≤ 127 := Nat.le_of_lt_succ (ascii c member)
  simp [String.utf8EncodeChar, small, asciiByte]

/-- A letter is lowered within ASCII or outside of it. -/
theorem ascii_toLower {c : Char} : c.toLower.toNat < 128 ↔ c.toNat < 128 := by
  unfold Char.toLower
  split
  · rename_i upper
    have most : c.toNat ≤ 90 := upper.2
    have moved : (c.val + 32).toNat = c.toNat + 32 := by
      rw [UInt32.toNat_add]
      exact Nat.mod_eq_of_lt (show c.toNat + 32 < 2 ^ 32 by omega)
    change (c.val + 32).toNat < 128 ↔ _
    omega
  · rfl

theorem asciiByte_lt {c : Char} (ascii : c.toNat < 128) : asciiByte c < 128 := by
  have all : ∀ n < 128, asciiByte (Char.ofNat n) < 128 := by decide +kernel
  rw [← Char.ofNat_toNat c]
  exact all _ ascii

theorem asciiByte_toLower {c : Char} (ascii : c.toNat < 128) : asciiByte c.toLower = lowerByte (asciiByte c) := by
  have all : ∀ n < 128, asciiByte (Char.ofNat n).toLower = lowerByte (asciiByte (Char.ofNat n)) := by
    decide +kernel
  rw [← Char.ofNat_toNat c]
  exact all _ ascii

/-- In an ASCII text the case of letters is a matter of bytes. -/
theorem utf8Bytes_toLower {s : String} (ascii : ∀ c ∈ s.toList, c.toNat < 128) :
    utf8Bytes (s.map Char.toLower) = (utf8Bytes s).map lowerByte := by
  have lower : ∀ c ∈ (s.map Char.toLower).toList, c.toNat < 128 := by
    intro c member
    rw [String.toList_map] at member
    obtain ⟨d, there, rfl⟩ := List.mem_map.mp member
    exact ascii_toLower.mpr (ascii d there)
  rw [utf8Bytes_of_ascii lower, utf8Bytes_of_ascii ascii, String.toList_map, List.map_map, List.map_map]
  exact List.map_congr_left fun c member => asciiByte_toLower (ascii c member)

theorem lowerByte_lt_iff {b : UInt8} : lowerByte b < 128 ↔ b < 128 := by
  have all : ∀ n < 256, lowerByte (UInt8.ofNat n) < 128 ↔ UInt8.ofNat n < 128 := by decide +kernel
  rw [← UInt8.ofNat_toNat (x := b)]
  exact all _ b.toNat_lt

/-- Bytes below 128 are an ASCII text. -/
theorem exists_ascii {bytes : List UInt8} (small : ∀ b ∈ bytes, b < 128) :
    ∃ s, utf8Bytes s = bytes ∧ ∀ c ∈ s.toList, c.toNat < 128 := by
  have back : ∀ n < 128, asciiByte (Char.ofNat n) = UInt8.ofNat n ∧ (Char.ofNat n).toNat < 128 := by decide +kernel
  have low : ∀ b ∈ bytes, b.toNat < 128 := fun b member => UInt8.lt_iff_toNat_lt.mp (small b member)
  let s := String.ofList (bytes.map fun b => Char.ofNat b.toNat)
  have list : s.toList = bytes.map fun b => Char.ofNat b.toNat := String.toList_ofList
  have ascii : ∀ c ∈ s.toList, c.toNat < 128 := by
    intro c member
    rw [list] at member
    obtain ⟨b, there, rfl⟩ := List.mem_map.mp member
    exact (back _ (low b there)).2
  refine ⟨s, ?_, ascii⟩
  rw [utf8Bytes_of_ascii ascii, list, List.map_map]
  refine (List.map_congr_left fun b member => ?_).trans (List.map_id bytes)
  exact (back _ (low b member)).1.trans UInt8.ofNat_toNat

namespace LibraryName

theorem ascii_extensions : ∀ e ∈ extensions, ∀ c ∈ e.toList, c.toNat < 128 := by simp [extensions]

/-- An extension is that of a library if its bytes are, whatever case their letters are in. -/
theorem contains_extensions_iff (ext : List UInt8) :
    (∃ s, utf8Text? ext = some s ∧ extensions.contains (s.map Char.toLower)) ↔
      ext.map lowerByte ∈ extensions.map utf8Bytes := by
  constructor
  · rintro ⟨s, text, listed⟩
    have listed : s.map Char.toLower ∈ extensions := by simpa using listed
    have ascii : ∀ c ∈ s.toList, c.toNat < 128 := by
      intro c member
      refine ascii_toLower.mp (ascii_extensions _ listed c.toLower ?_)
      rw [String.toList_map]
      exact List.mem_map_of_mem member
    rw [← utf8Text?_eq_some_iff.mp text, ← utf8Bytes_toLower ascii]
    exact List.mem_map_of_mem listed
  · intro listed
    obtain ⟨e, known, same⟩ := List.mem_map.mp listed
    have small : ∀ b ∈ ext, b < 128 := by
      intro b member
      rw [← lowerByte_lt_iff]
      have lower : lowerByte b ∈ utf8Bytes e := same ▸ List.mem_map_of_mem member
      rw [utf8Bytes_of_ascii (ascii_extensions e known)] at lower
      obtain ⟨c, member, here⟩ := List.mem_map.mp lower
      rw [← here]
      exact asciiByte_lt (ascii_extensions e known c member)
    obtain ⟨s, bytes, ascii⟩ := exists_ascii small
    have lower : s.map Char.toLower = e := utf8Bytes_inj (by rw [utf8Bytes_toLower ascii, bytes, same])
    exact ⟨s, utf8Text?_eq_some_iff.mpr bytes, by simpa [lower] using known⟩

/-- An entry of a directory is a library if its name has the extension of one. -/
theorem isLibrary_join_iff {dir : Path} {name : List UInt8} (isName : Path.IsName name) :
    isLibrary (dir.join ⟨name⟩) ↔ ∃ stem ext, stem ≠ [] ∧ name = stem ++ Path.dot :: ext ∧
      ext.map lowerByte ∈ extensions.map utf8Bytes := by
  have named : isLibrary (dir.join ⟨name⟩) ↔ ∃ ext, (Path.splitName name).2 = some ext ∧
      ∃ s, utf8Text? ext = some s ∧ extensions.contains (s.map Char.toLower) := by
    rw [isLibrary, Path.extension?, Path.fileName?_join isName, Option.bind_some]
    rcases (Path.splitName name).2 with _ | ext
    · simp
    · rcases text : utf8Text? ext with _ | s <;> simp [text]
  rw [named]
  constructor
  · rintro ⟨ext, split, spelled⟩
    obtain ⟨stem, some_byte, parts, -⟩ := Path.splitName_snd_eq_some_iff.mp split
    exact ⟨stem, ext, some_byte, parts, (contains_extensions_iff ext).mp spelled⟩
  · rintro ⟨stem, ext, some_byte, parts, listed⟩
    refine ⟨ext, Path.splitName_snd_eq_some_iff.mpr ⟨stem, some_byte, parts, ?_⟩,
      (contains_extensions_iff ext).mpr listed⟩
    -- no extension of a library has a dot in it
    intro dotted
    have lower : lowerByte Path.dot ∈ ext.map lowerByte := List.mem_map_of_mem dotted
    have none : ∀ bytes ∈ extensions.map utf8Bytes, lowerByte Path.dot ∉ bytes := by decide +kernel
    exact none _ listed lower

end LibraryName

end PluginHost
